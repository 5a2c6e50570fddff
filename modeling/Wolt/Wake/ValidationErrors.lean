/-
# What leaves a validator

The validators of `app/drivers/fortigate_ssh.py` turn the errors of the conversions that they expect
into a `DriverValidationError`, and a route turns that one into an answer. Two kinds of exceptions
are not expected: an `OverflowError`, of an infinite port or of a timeout that is an integer too
large for a float, and what `HostKeyEntry.from_line` raises for a malformed key. They leave
`validate_configuration` where its checks get as far as the value in question. The other two
validators raise nothing else.
-/

import Wolt.Wake.DeviceValidation

namespace Wolt.Wake

open Wolt.Python

/-- The validator returns a result with a property, or raises a `DriverValidationError`. -/
def OnlyRejects {α : Type} (p : α → Prop) : Except ValidationError α → Prop
  | .ok value => p value
  | .error error => ∃ rejection, error = .rejected rejection

/-! ## Parts of a validator -/

section Parts

variable {α β : Type}

theorem onlyRejects_bind {p : β → Prop} {first : Except ValidationError α}
    {rest : α → Except ValidationError β} :
    OnlyRejects p (first >>= rest) ↔ OnlyRejects (fun value => OnlyRejects p (rest value))
      first := by
  cases first <;> rfl

theorem onlyRejects_pure {p : α → Prop} {value : α} :
    OnlyRejects p (pure value) ↔ p value := Iff.rfl

theorem onlyRejects_demand {p : Unit → Prop} {condition : Bool} {error : DriverValidationError} :
    OnlyRejects p (demand condition error) ↔ (condition = true → p ()) := by
  cases condition <;> simp [demand, OnlyRejects]

theorem onlyRejects_ofConversion {p : α → Prop} {result : Except ConversionError α} :
    OnlyRejects p (ofConversion result) ↔
      result ≠ .error .overflowError ∧ ∀ value, result = .ok value → p value := by
  cases result with
  | ok value => simp [ofConversion, OnlyRejects]
  | error error => cases error <;> simp [ofConversion, OnlyRejects]

theorem onlyRejects_fromLine {p : α → Prop} {result : Except HostKeyError α} :
    OnlyRejects p (result.mapError .hostKey) ↔
      (∀ error, result ≠ .error error) ∧ ∀ value, result = .ok value → p value := by
  cases result <;> simp [Except.mapError, OnlyRejects]

end Parts

/-- Only an infinite float overflows as an integer. -/
theorem int_eq_overflow_iff {conversions : Conversions} {value : Value} :
    conversions.int value = .error .overflowError ↔ ∃ negative,
      value = .float (.infinite negative) := by
  cases value with
  | float value => cases value <;> simp [Conversions.int]
  | string text => cases htext : conversions.readInt text <;> simp [Conversions.int, htext]
  | _ => simp [Conversions.int]

/-- Only a large integer overflows as a float. -/
theorem float_eq_overflow_iff {conversions : Conversions} {value : Value} :
    conversions.float value = .error .overflowError ↔
      ∃ n, value = .int n ∧ conversions.round n = none := by
  cases value with
  | int n => cases hn : conversions.round n <;> simp [Conversions.float, hn]
  | string text => cases htext : conversions.readFloat text <;> simp [Conversions.float, htext]
  | _ => simp [Conversions.float]

/-! ## The configuration -/

section Configuration

variable (library : DeviceLibrary) (configuration : Dict Value)

/-- `configuration.get("port", 22)`. -/
def portValue : Value := (configuration.get "port".toList).getD (.int 22)

/-- `configuration.get("connect_timeout", 5)`. -/
def connectTimeoutValue : Value := (configuration.get "connect_timeout".toList).getD (.int 5)

/-- `configuration.get("command_timeout", 10)`. -/
def commandTimeoutValue : Value := (configuration.get "command_timeout".toList).getD (.int 10)

/-- The host is an address or matches the pattern. -/
def acceptsHost : Bool :=
  let host := strippedParameter library.conversions.str configuration "host".toList
  (ipAddress host).isSome || hostPattern host

/-- The port and the timeouts are in their bounds. -/
structure InBounds (port : ℤ) (connectTimeout commandTimeout : PythonFloat) : Prop where
  port : 1 ≤ port ∧ port ≤ 65535
  connectTimeout : connectTimeout.isBetween (1 / 2) 60 = true
  commandTimeout : commandTimeout.isBetween (1 / 2) 120 = true

/-- Each value, where the checks before it let the validator get to it, is one whose conversion
raises no other exception. -/
structure ConvertsQuietly : Prop where
  port : acceptsHost library configuration = true →
    ∀ negative, portValue configuration ≠ .float (.infinite negative)
  connectTimeout : acceptsHost library configuration = true →
    ∀ port, library.conversions.int (portValue configuration) = .ok port →
    ∀ n, connectTimeoutValue configuration = .int n → library.conversions.round n ≠ none
  commandTimeout : acceptsHost library configuration = true →
    ∀ port, library.conversions.int (portValue configuration) = .ok port →
    ∀ connect, library.conversions.float (connectTimeoutValue configuration) = .ok connect →
    ∀ n, commandTimeoutValue configuration = .int n → library.conversions.round n ≠ none
  hostKey : acceptsHost library configuration = true →
    ∀ port, library.conversions.int (portValue configuration) = .ok port →
    ∀ connect, library.conversions.float (connectTimeoutValue configuration) = .ok connect →
    ∀ command, library.conversions.float (commandTimeoutValue configuration) = .ok command →
    InBounds port connect command → ∀ error, library.fromLine
      (strippedParameter library.conversions.str configuration "host_key".toList) ≠ .error error

end Configuration

section Validators

variable {library : DeviceLibrary} {configuration : Dict Value}

/-- The target, by the values in the order in which they are converted. -/
theorem onlyRejects_validateTarget {p : DeviceTarget → Prop} :
    OnlyRejects p (library.validateTarget configuration) ↔
      (acceptsHost library configuration = true →
        library.conversions.int (portValue configuration) ≠ .error .overflowError ∧
        ∀ port, library.conversions.int (portValue configuration) = .ok port →
        library.conversions.float (connectTimeoutValue configuration) ≠ .error .overflowError ∧
        ∀ connect, library.conversions.float (connectTimeoutValue configuration) = .ok connect →
        library.conversions.float (commandTimeoutValue configuration) ≠ .error .overflowError ∧
        ∀ command, library.conversions.float (commandTimeoutValue configuration) = .ok command →
        InBounds port connect command →
        p ⟨strippedParameter library.conversions.str configuration "host".toList, port, connect,
          command⟩) := by
  have hbounds : ∀ port connect command,
      InBounds port connect command ↔ (1 ≤ port && port ≤ 65535) = true ∧
        (connect.isBetween (1 / 2) 60 && command.isBetween (1 / 2) 120) = true := by
    intro port connect command
    simp only [Bool.and_eq_true, decide_eq_true_eq]
    exact ⟨fun h => ⟨h.port, h.connectTimeout, h.commandTimeout⟩, fun h => ⟨h.1, h.2.1, h.2.2⟩⟩
  simp only [DeviceLibrary.validateTarget, onlyRejects_bind, onlyRejects_demand,
    onlyRejects_ofConversion, onlyRejects_pure, hbounds, and_imp]
  rfl

/-- What leaves `validate_configuration`. -/
theorem onlyRejects_validateConfiguration_iff :
    OnlyRejects (fun accepted => InBounds accepted.port accepted.connectTimeout
      accepted.commandTimeout)
        (library.validateConfiguration configuration) ↔
      ConvertsQuietly library configuration := by
  rw [DeviceLibrary.validateConfiguration, onlyRejects_bind, onlyRejects_validateTarget]
  simp only [onlyRejects_bind, onlyRejects_fromLine, onlyRejects_demand, onlyRejects_pure, Ne,
    int_eq_overflow_iff, float_eq_overflow_iff]
  constructor
  · intro h
    refine ⟨fun hhost negative hvalue => ?_, fun hhost port hport n hvalue hround => ?_,
      fun hhost port hport connect hconnect n hvalue hround => ?_,
      fun hhost port hport connect hconnect command hcommand hbounds => ?_⟩
    · exact (h hhost).1 ⟨negative, hvalue⟩
    · exact ((h hhost).2 port hport).1 ⟨n, hvalue, hround⟩
    · exact (((h hhost).2 port hport).2 connect hconnect).1 ⟨n, hvalue, hround⟩
    · exact ((((h hhost).2 port hport).2 connect hconnect).2 command hcommand hbounds).1
  · intro h hhost
    refine ⟨?_, fun port hport =>
      ⟨?_, fun connect hconnect => ⟨?_, fun command hcommand hbounds => ?_⟩⟩⟩
    · rintro ⟨negative, hvalue⟩
      exact h.port hhost negative hvalue
    · rintro ⟨n, hvalue, hround⟩
      exact h.connectTimeout hhost port hport n hvalue hround
    · rintro ⟨n, hvalue, hround⟩
      exact h.commandTimeout hhost port hport connect hconnect n hvalue hround
    exact ⟨h.hostKey hhost port hport connect hconnect command hcommand hbounds, fun _ _ _ =>
      hbounds⟩

/-- The credentials are texts, whose conversion raises nothing. -/
theorem onlyRejects_validateCredentials (credentials : Dict Value) :
    OnlyRejects (fun _ => True) (library.validateCredentials credentials) := by
  simp only [DeviceLibrary.validateCredentials, onlyRejects_bind, onlyRejects_demand,
    onlyRejects_pure, implies_true]

/-- **What leaves the validators.** For any JSON values, they return a normalised dictionary within
its bounds or raise a `DriverValidationError`, exactly if every value of the configuration that is
reached is one that is converted quietly. -/
theorem onlyRejects_iff_convertsQuietly (library : DeviceLibrary)
    (configuration credentials parameters : Dict Value) :
    (OnlyRejects
          (fun accepted => InBounds accepted.port accepted.connectTimeout accepted.commandTimeout)
          (library.validateConfiguration configuration) ∧
        OnlyRejects (fun _ => True) (library.validateCredentials credentials) ∧
        OnlyRejects (fun _ => True)
          ((validateListenerParameters library.conversions.str parameters).mapError .rejected)) ↔
      ConvertsQuietly library configuration := by
  refine ⟨fun h => onlyRejects_validateConfiguration_iff.1 h.1, fun h =>
    ⟨onlyRejects_validateConfiguration_iff.2 h, onlyRejects_validateCredentials credentials, ?_⟩⟩
  cases validateListenerParameters library.conversions.str parameters with
  | ok listener => trivial
  | error error => exact ⟨error, rfl⟩

end Validators

/-! ## A port and a key -/

/-- A library that knows a malformed key when it sees one. -/
def keyLibrary : DeviceLibrary where
  conversions :=
    { print := fun _ => []
      readInt := fun _ => none
      readFloat := fun _ => none
      round := fun value => some value }
  fromLine line :=
    if line = "192.0.2.1 ssh-ed25519 A".toList then .error .invalidHostKey else .ok none

/-- A configuration that `json` reads from a request with the port `Infinity`. -/
def infinitePort : Dict Value :=
  [("host".toList, .string "192.0.2.1".toList), ("port".toList, .float (.infinite false))]

/-- A configuration with a malformed key. -/
def malformedKey : Dict Value :=
  [("host".toList, .string "192.0.2.1".toList),
    ("host_key".toList, .string "192.0.2.1 ssh-ed25519 A".toList)]

/-- For an infinite port an `OverflowError` leaves the validator, for a malformed key an
`InvalidHostKey`. -/
theorem not_onlyRejects_infinitePort :
    keyLibrary.validateConfiguration malformedKey = .error (.hostKey .invalidHostKey) ∧
      ¬ ∀ (library : DeviceLibrary) (configuration : Dict Value),
        OnlyRejects
          (fun accepted => InBounds accepted.port accepted.connectTimeout accepted.commandTimeout)
          (library.validateConfiguration configuration) := by
  refine ⟨by decide +kernel, fun hall => ?_⟩
  have hoverflow : keyLibrary.validateConfiguration infinitePort = .error .overflow := by
    decide +kernel
  obtain ⟨rejection, hrejection⟩ := hoverflow ▸ hall keyLibrary infinitePort
  cases hrejection

end Wolt.Wake
