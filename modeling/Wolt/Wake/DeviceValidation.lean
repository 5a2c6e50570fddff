/-
# The dictionaries of a device

`validate_configuration` and `validate_credentials` of `app/drivers/fortigate_ssh.py`. A device is
stored with the dictionaries that these return, and `execute_wake` passes what is stored through
them once more, so a validator has to accept its own results and leave them as they are.

What `HostKeyEntry.from_line` makes of a line is a parameter: it returns an entry or none, and may
raise.
-/

import Wolt.Python.Value
import Wolt.Wake.FortigateDriver

namespace Wolt.Wake

open Wolt.Python

/-! ## Validators -/

/-- The exceptions of `HostKeyEntry.from_line`. -/
inductive HostKeyError
  | invalidHostKey
  | sshException
  deriving DecidableEq

/-- What leaves a validator besides a dictionary. -/
inductive ValidationError
  | rejected (error : DriverValidationError)
  /-- `OverflowError`, which no handler of the validators names. -/
  | overflow
  | hostKey (error : HostKeyError)
  deriving DecidableEq

/-- What the validators call outside the repository. -/
structure DeviceLibrary where
  conversions : Conversions
  /-- The key of `HostKeyEntry.from_line(line)`; there is none without an entry. -/
  fromLine : Text → Except HostKeyError (Option Text)

/-- `[A-Za-z0-9.-]`. -/
def isHostChar (c : Char) : Bool := c.isAlphanum || c == '.' || c == '-'

/-- `HOST_PATTERN.fullmatch`. -/
def hostPattern (text : Text) : Bool :=
  1 ≤ text.length && text.length ≤ 253 && text.all isHostChar && text.head?.all Char.isAlphanum &&
    text.getLast?.all Char.isAlphanum

/-- What `_validate_target` returns. -/
structure DeviceTarget where
  host : Text
  port : ℤ
  connectTimeout : PythonFloat
  commandTimeout : PythonFloat
  deriving DecidableEq

/-- What `validate_configuration` returns. -/
structure DeviceConfiguration extends DeviceTarget where
  hostKey : Text
  deriving DecidableEq

/-- What `validate_credentials` returns. -/
structure DeviceCredentials where
  username : Text
  password : Text
  deriving DecidableEq

/-- `except (TypeError, ValueError)` around the conversions of the numbers. -/
def ofConversion {α : Type} : Except ConversionError α → Except ValidationError α
  | .ok value => .ok value
  | .error .overflowError => .error .overflow
  | .error .typeError | .error .valueError => .error (.rejected .invalidDeviceTimeoutOrPort)

/-- `raise DriverValidationError(...)` unless the condition holds. -/
def demand (condition : Bool) (error : DriverValidationError) : Except ValidationError Unit :=
  if condition then .ok () else .error (.rejected error)

namespace DeviceLibrary

variable (library : DeviceLibrary)

/-- `FortiGateSSHDriver._validate_target`. -/
def validateTarget (configuration : Dict Value) : Except ValidationError DeviceTarget := do
  let host := strippedParameter library.conversions.str configuration "host".toList
  demand ((ipAddress host).isSome || hostPattern host) .invalidDeviceHost
  let port ← ofConversion
    (library.conversions.int ((configuration.get "port".toList).getD (.int 22)))
  let connectTimeout ← ofConversion
    (library.conversions.float ((configuration.get "connect_timeout".toList).getD (.int 5)))
  let commandTimeout ← ofConversion
    (library.conversions.float ((configuration.get "command_timeout".toList).getD (.int 10)))
  demand (1 ≤ port && port ≤ 65535) .invalidDevicePort
  demand (connectTimeout.isBetween (1 / 2) 60 && commandTimeout.isBetween (1 / 2) 120)
    .invalidDeviceTimeout
  pure ⟨host, port, connectTimeout, commandTimeout⟩

/-- `FortiGateSSHDriver.validate_configuration`. -/
def validateConfiguration (configuration : Dict Value) :
    Except ValidationError DeviceConfiguration := do
  let target ← library.validateTarget configuration
  let hostKey := strippedParameter library.conversions.str configuration "host_key".toList
  let entry ← (library.fromLine hostKey).mapError .hostKey
  demand entry.isSome .invalidOrMissingHostKey
  pure ⟨target, hostKey⟩

/-- `FortiGateSSHDriver.validate_credentials`. -/
def validateCredentials (credentials : Dict Value) : Except ValidationError DeviceCredentials := do
  let username := strippedParameter library.conversions.str credentials "username".toList
  let password := ((credentials.get "password".toList).map library.conversions.str).getD []
  demand (1 ≤ username.length && username.length ≤ 128) .invalidDeviceUsername
  demand (1 ≤ password.length && password.length ≤ 512) .invalidDevicePassword
  pure ⟨username, password⟩

end DeviceLibrary

/-- The configuration as it is stored. -/
def DeviceConfiguration.toDict (configuration : DeviceConfiguration) : Dict Value :=
  [("host".toList, .string configuration.host),
    ("port".toList, .int configuration.port),
    ("connect_timeout".toList, .float configuration.connectTimeout),
    ("command_timeout".toList, .float configuration.commandTimeout),
    ("host_key".toList, .string configuration.hostKey)]

/-- The credentials as they are encrypted. -/
def DeviceCredentials.toDict (credentials : DeviceCredentials) : Dict Value :=
  [("username".toList, .string credentials.username),
    ("password".toList, .string credentials.password)]

/-! ## What a validator returned it accepts again -/

/-- The demand was met. -/
theorem of_demand_bind {α : Type} {condition : Bool} {error : DriverValidationError}
    {rest : Unit → Except ValidationError α} {result : α}
    (h : (demand condition error >>= rest) = .ok result) :
    condition = true ∧ rest () = .ok result := by
  unfold demand at h
  split at h
  · exact ⟨‹_›, h⟩
  · cases h

theorem demand_of_eq_true {condition : Bool} {error : DriverValidationError}
    (h : condition = true) : demand condition error = .ok () := if_pos h

/-- What follows a part that returned. -/
theorem except_ok_bind {ε α β : Type} (value : α) (rest : α → Except ε β) :
    (Except.ok value >>= rest) = rest value := rfl

/-- The first part returned. -/
theorem of_except_bind {ε α β : Type} {first : Except ε α} {rest : α → Except ε β} {result : β}
    (h : (first >>= rest) = .ok result) : ∃ value, first = .ok value ∧ rest value = .ok result := by
  cases first with
  | error error => cases h
  | ok value => exact ⟨value, rfl, h⟩

/-- An exception that is renamed is still one. -/
theorem of_mapError {ε ε' α : Type} {result : Except ε α} {name : ε → ε'} {value : α}
    (h : result.mapError name = .ok value) : result = .ok value := by
  cases result with
  | error error => cases h
  | ok found => exact congrArg _ (Except.ok.inj h)

section Again

variable {library : DeviceLibrary}

/-- What an accepted target is. -/
theorem validateTarget_spec {configuration : Dict Value} {target : DeviceTarget}
    (h : library.validateTarget configuration = .ok target) :
    target.host = strippedParameter library.conversions.str configuration "host".toList ∧
      ((ipAddress target.host).isSome || hostPattern target.host) = true ∧
      (1 ≤ target.port && target.port ≤ 65535) = true ∧
      (target.connectTimeout.isBetween (1 / 2) 60 &&
        target.commandTimeout.isBetween (1 / 2) 120) = true := by
  obtain ⟨hhost, h⟩ := of_demand_bind h
  obtain ⟨port, _, h⟩ := of_except_bind h
  obtain ⟨connectTimeout, _, h⟩ := of_except_bind h
  obtain ⟨commandTimeout, _, h⟩ := of_except_bind h
  obtain ⟨hport, h⟩ := of_demand_bind h
  obtain ⟨htimeout, h⟩ := of_demand_bind h
  obtain rfl := Except.ok.inj h
  exact ⟨rfl, hhost, hport, htimeout⟩

/-- What an accepted configuration is. -/
theorem validateConfiguration_spec {configuration : Dict Value} {accepted : DeviceConfiguration}
    (h : library.validateConfiguration configuration = .ok accepted) :
    library.validateTarget configuration = .ok accepted.toDeviceTarget ∧
      accepted.hostKey =
        strippedParameter library.conversions.str configuration "host_key".toList ∧
      ∃ key, library.fromLine accepted.hostKey = .ok (some key) := by
  obtain ⟨target, htarget, h⟩ := of_except_bind h
  obtain ⟨entry, hentry, h⟩ := of_except_bind h
  obtain ⟨hsome, h⟩ := of_demand_bind h
  obtain rfl := Except.ok.inj h
  obtain ⟨key, rfl⟩ := Option.isSome_iff_exists.1 hsome
  exact ⟨htarget, rfl, key, of_mapError hentry⟩

/-- Stripping a text that is stored under a key. -/
theorem strippedParameter_of_get {V : Type} {str : V → Text} {parameters : Dict V} {key : Text}
    {value : V} (h : parameters.get key = some value) :
    strippedParameter str parameters key = strip (str value) := by
  rw [strippedParameter, h]
  rfl

theorem DeviceConfiguration.get_toDict (configuration : DeviceConfiguration) :
    configuration.toDict.get "host".toList = some (.string configuration.host) ∧
      configuration.toDict.get "port".toList = some (.int configuration.port) ∧
      configuration.toDict.get "connect_timeout".toList =
        some (.float configuration.connectTimeout) ∧
      configuration.toDict.get "command_timeout".toList =
        some (.float configuration.commandTimeout) ∧
      configuration.toDict.get "host_key".toList = some (.string configuration.hostKey) :=
  ⟨rfl, rfl, rfl, rfl, rfl⟩

theorem validateCredentials_toDict (library : DeviceLibrary) (credentials : DeviceCredentials) :
    library.validateCredentials credentials.toDict = (do
      demand (1 ≤ (strip credentials.username).length &&
        (strip credentials.username).length ≤ 128) .invalidDeviceUsername
      demand (1 ≤ credentials.password.length && credentials.password.length ≤ 512)
        .invalidDevicePassword
      pure ⟨strip credentials.username, credentials.password⟩) := rfl

/-- A stored target passes its validator unchanged. -/
theorem validateTarget_again {configuration : Dict Value} {accepted : DeviceConfiguration}
    (h : library.validateTarget configuration = .ok accepted.toDeviceTarget) :
    library.validateTarget accepted.toDict = .ok accepted.toDeviceTarget := by
  obtain ⟨hhost, hpattern, hport, htimeout⟩ := validateTarget_spec h
  obtain ⟨hgetHost, hgetPort, hgetConnect, hgetCommand, _⟩ := accepted.get_toDict
  have hstripped : strippedParameter library.conversions.str accepted.toDict "host".toList =
      accepted.host := by
    rw [strippedParameter_of_get hgetHost, Conversions.str, hhost]
    exact strip_strip _
  rw [DeviceLibrary.validateTarget, hstripped, hgetPort, hgetConnect, hgetCommand]
  simp only [Option.getD_some, Conversions.int, Conversions.float, ofConversion, except_ok_bind,
    demand_of_eq_true hpattern, demand_of_eq_true hport, demand_of_eq_true htimeout]
  rfl

/-- **A stored configuration passes its validator unchanged.** -/
theorem validateConfiguration_again {configuration : Dict Value} {accepted : DeviceConfiguration}
    (h : library.validateConfiguration configuration = .ok accepted) :
    library.validateConfiguration accepted.toDict = .ok accepted := by
  obtain ⟨htarget, hkey, key, hline⟩ := validateConfiguration_spec h
  obtain ⟨_, _, _, _, hgetKey⟩ := accepted.get_toDict
  have hstripped : strippedParameter library.conversions.str accepted.toDict "host_key".toList =
      accepted.hostKey := by
    rw [strippedParameter_of_get hgetKey, Conversions.str, hkey]
    exact strip_strip _
  rw [DeviceLibrary.validateConfiguration, validateTarget_again htarget, hstripped]
  simp only [except_ok_bind, hline]
  rfl

/-- **Stored credentials pass their validator unchanged.** -/
theorem validateCredentials_again {credentials : Dict Value} {accepted : DeviceCredentials}
    (h : library.validateCredentials credentials = .ok accepted) :
    library.validateCredentials accepted.toDict = .ok accepted := by
  obtain ⟨husername, h⟩ := of_demand_bind h
  obtain ⟨hpassword, h⟩ := of_demand_bind h
  obtain rfl := Except.ok.inj h
  have hstripped : strip (strippedParameter library.conversions.str credentials
      "username".toList) = strippedParameter library.conversions.str credentials
        "username".toList := strip_strip _
  rw [validateCredentials_toDict]
  dsimp only
  rw [hstripped, demand_of_eq_true husername, demand_of_eq_true hpassword]
  rfl

end Again

end Wolt.Wake
