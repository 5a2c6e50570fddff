/-
# Sending a wake command

`FortiGateSSHDriver.execute_wake` of `app/drivers/fortigate_ssh.py` and
`FortiGateClient.execute_wol` of `app/fortigate.py`, from the dictionaries to the firewall's answer.
What paramiko does with a connection is a parameter: connecting, the command and closing may each
fail, with an `OSError` or an `SSHException`.

Both clients close the connection in a `finally` block, outside the handlers that turn the failures
of paramiko into their own exception.
-/

import Wolt.Wake.DeviceValidation
import Mathlib.Data.List.Infix

namespace Wolt.Wake

open Wolt.Python

/-! ## The SSH layer -/

/-- How a call of paramiko fails. -/
inductive SshError
  /-- `socket.timeout`, an `OSError`. -/
  | timeout
  /-- `AuthenticationException`, an `SSHException`. -/
  | authentication
  /-- `BadHostKeyException`, an `SSHException`. -/
  | badHostKey
  /-- Any other `OSError`. -/
  | os
  /-- Any other `SSHException`. -/
  | ssh
  deriving DecidableEq

/-- `_reason`, the same in both clients. -/
def SshError.reason : SshError → Text
  | timeout => "ssh_timeout".toList
  | authentication => "ssh_authentication_failed".toList
  | badHostKey => "host_key_verification_failed".toList
  | os | ssh => "ssh_connection_failed".toList

/-- What the firewall answers to a command: the exit status, and the decoded output. -/
structure CommandOutput where
  status : ℤ
  output : Text
  deriving DecidableEq

/-- How one use of an SSH client goes. -/
structure SshOutcome where
  connect : Except SshError Unit
  command : Except SshError CommandOutput
  close : Except SshError Unit

/-- `str.lower`, as far as a search for ASCII letters can tell: beside these, the Kelvin sign and
the dotted capital I have an ASCII letter in lower case. -/
def lowered (text : Text) : Text :=
  text.flatMap fun c =>
    if c.toNat = 0x212a then ['k'] else if c.toNat = 0x130 then ['i', '\u0307'] else [c.toLower]

/-- `ERROR_MARKERS`, the same in both modules. -/
def errorMarkers : List Text :=
  ["command fail".toList, "parse error".toList, "unknown action".toList, "error".toList,
    "failed".toList]

/-- `any(marker in output.lower() for marker in ERROR_MARKERS)`. -/
def hasError (output : Text) : Bool :=
  errorMarkers.any fun marker => marker <:+: lowered output

/-! ## The driver -/

/-- What leaves `execute_wake` when it does not return. -/
inductive DriverError
  | validation (error : ValidationError)
  /-- `DriverOperationError`. -/
  | operation (reason : Text)
  /-- `ValueError` of `build_wol_command`. -/
  | value (message : String)
  /-- An exception of paramiko as it is. -/
  | ssh (error : SshError)
  deriving DecidableEq

/-- What `_connect` asks paramiko for. -/
structure SshConnection where
  host : Text
  port : ℤ
  username : Text
  password : Text
  timeout : PythonFloat
  /-- The name under which the key is expected. -/
  lookupName : Text
  key : Text
  deriving DecidableEq

/-- A connection, and the command for which it is made. -/
structure SshCall where
  connection : SshConnection
  command : Text
  commandTimeout : PythonFloat
  deriving DecidableEq

/-- `str(n)`. -/
def integerText (n : ℤ) : Text := (toString n).toList

/-- The part of `_connect` before its `try` block. -/
def DeviceLibrary.connection (library : DeviceLibrary) (configuration : DeviceConfiguration)
    (credentials : DeviceCredentials) : Except DriverError SshConnection := do
  let entry ← (library.fromLine configuration.hostKey).mapError fun error =>
    .validation (.hostKey error)
  match entry with
  | none => .error (.operation "host_key_verification_failed".toList)
  | some key =>
      .ok { host := configuration.host
            port := configuration.port
            username := credentials.username
            password := credentials.password
            timeout := configuration.connectTimeout
            lookupName :=
              if configuration.port = 22 then configuration.host
              else "[".toList ++ configuration.host ++ "]:".toList ++
                integerText configuration.port
            key := key }

/-- `execute_wake` up to the first call of paramiko. -/
def DeviceLibrary.prepareCall (library : DeviceLibrary)
    (configuration credentials parameters : Dict Value) (macAddress : Text) :
    Except DriverError SshCall := do
  let config ← (library.validateConfiguration configuration).mapError .validation
  let secret ← (library.validateCredentials credentials).mapError .validation
  let listener ← (validateListenerParameters library.conversions.str parameters).mapError
    fun error => .validation (.rejected error)
  let command ← (buildWolCommand listener.interface macAddress listener.gatewayIp).mapError .value
  let connection ← library.connection config secret
  pure ⟨connection, command, config.commandTimeout⟩

/-- `finally: client.close()`. -/
def closing {ε α : Type} (raised : SshError → ε) (close : Except SshError Unit)
    (result : Except ε α) : Except ε α :=
  match close with
  | .ok () => result
  | .error error => .error (raised error)

/-- The `try` block around the command. -/
def commandResult {ε : Type} (failed : Text → ε) : Except SshError CommandOutput → Except ε Unit
  | .ok answer =>
      if answer.status ≠ 0 || hasError answer.output then .error (failed "command_failed".toList)
      else .ok ()
  | .error error => .error (failed error.reason)

/-- Connecting, the command and closing. A connection that fails is closed as well. -/
def useClient {ε : Type} (failed : Text → ε) (raised : SshError → ε) (outcome : SshOutcome) :
    Except ε Unit :=
  match outcome.connect with
  | .ok () => closing raised outcome.close (commandResult failed outcome.command)
  | .error error => closing raised outcome.close (.error (failed error.reason))

/-- `FortiGateSSHDriver.execute_wake`. -/
def DeviceLibrary.executeWake (library : DeviceLibrary)
    (configuration credentials parameters : Dict Value) (macAddress : Text)
    (outcome : SshOutcome) : Except DriverError Unit := do
  let _ ← library.prepareCall configuration credentials parameters macAddress
  useClient .operation .ssh outcome

/-- The commands that are sent: the one that was built, if the connection is made. -/
def sentCommands {ε : Type} (outcome : SshOutcome) : Except ε Text → List Text
  | .ok command => if outcome.connect.toBool then [command] else []
  | .error _ => []

/-- The commands that `FortiGateSSHDriver.execute_wake` sends. -/
def DeviceLibrary.wakeCommands (library : DeviceLibrary)
    (configuration credentials parameters : Dict Value) (macAddress : Text)
    (outcome : SshOutcome) : List Text :=
  sentCommands outcome
    ((library.prepareCall configuration credentials parameters macAddress).map SshCall.command)

/-! ## What can go wrong -/

/-- The reasons of a `DriverOperationError`. -/
def operationReasons : List Text :=
  ["ssh_timeout".toList, "ssh_authentication_failed".toList,
    "host_key_verification_failed".toList, "ssh_connection_failed".toList,
    "command_failed".toList]

theorem SshError.reason_mem (error : SshError) : error.reason ∈ operationReasons := by
  cases error <;> decide

/-- While the connection can be closed, every failure of paramiko gets its reason. -/
theorem useClient_of_close {ε : Type} {failed : Text → ε} {raised : SshError → ε}
    {outcome : SshOutcome} (hclose : outcome.close = .ok ()) :
    useClient failed raised outcome = .ok () ∨
      ∃ reason ∈ operationReasons, useClient failed raised outcome = .error (failed reason) := by
  unfold useClient
  rw [hclose]
  cases outcome.connect with
  | error error => exact .inr ⟨_, error.reason_mem, rfl⟩
  | ok _ =>
      cases outcome.command with
      | error error => exact .inr ⟨_, error.reason_mem, rfl⟩
      | ok answer =>
          simp only [closing, commandResult]
          split
          · exact .inr ⟨"command_failed".toList, by decide, rfl⟩
          · exact .inl rfl

/-- A connection that cannot be closed is what the caller sees, whatever came of the command. -/
theorem useClient_of_close_error {ε : Type} {failed : Text → ε} {raised : SshError → ε}
    {outcome : SshOutcome} {error : SshError} (hclose : outcome.close = .error error) :
    useClient failed raised outcome = .error (raised error) := by
  unfold useClient
  rw [hclose]
  cases outcome.connect <;> rfl

section Stored

variable {library : DeviceLibrary}

/-- Two dictionaries that hold the same values, in any order. -/
def SameItems (dict dict' : Dict Value) : Prop := ∀ key, dict.get key = dict'.get key

theorem strippedParameter_congr {dict dict' : Dict Value} (h : SameItems dict dict')
    (str : Value → Text) (key : Text) :
    strippedParameter str dict key = strippedParameter str dict' key := by
  rw [strippedParameter, strippedParameter, h key]

theorem validateConfiguration_congr {dict dict' : Dict Value} (h : SameItems dict dict') :
    library.validateConfiguration dict = library.validateConfiguration dict' := by
  simp only [DeviceLibrary.validateConfiguration, DeviceLibrary.validateTarget,
    strippedParameter_congr h, h _]

theorem validateCredentials_congr {dict dict' : Dict Value} (h : SameItems dict dict') :
    library.validateCredentials dict = library.validateCredentials dict' := by
  simp only [DeviceLibrary.validateCredentials, strippedParameter_congr h, h _]

/-- The accepted parameters as a dictionary of JSON values. -/
def ListenerParameters.toDict (parameters : ListenerParameters) : Dict Value :=
  [("interface".toList, .string parameters.interface),
    ("gateway_ip".toList, .string parameters.gatewayIp)]

/-- The call for accepted dictionaries. -/
theorem prepareCall_of_accepted {configuration credentials parameters : Dict Value}
    {config : DeviceConfiguration} {secret : DeviceCredentials} {listener : ListenerParameters}
    {data : List UInt8} {packet : ParsedMagicPacket}
    (hconfig : library.validateConfiguration configuration = .ok config)
    (hsecret : library.validateCredentials credentials = .ok secret)
    (hlistener : validateListenerParameters library.conversions.str parameters = .ok listener)
    (hpacket : parseMagicPacket data = .ok packet) :
    ∃ call, library.prepareCall configuration credentials parameters packet.macAddress =
        .ok call ∧
      call.command = wolCommand listener.interface packet.macAddress listener.gatewayIp := by
  obtain ⟨_, _, key, hline⟩ := validateConfiguration_spec hconfig
  have hbuild := buildWolCommand_of_validateListenerParameters hlistener hpacket
  have hconnection : ∃ connection, library.connection config secret = .ok connection := by
    unfold DeviceLibrary.connection
    rw [hline]
    exact ⟨_, rfl⟩
  obtain ⟨connection, hconnection⟩ := hconnection
  refine ⟨⟨connection, wolCommand listener.interface packet.macAddress listener.gatewayIp,
    config.commandTimeout⟩, ?_, rfl⟩
  rw [DeviceLibrary.prepareCall, hconfig, hsecret, hlistener]
  simp only [Except.mapError, except_ok_bind, hbuild, hconnection]
  rfl

end Stored

end Wolt.Wake
