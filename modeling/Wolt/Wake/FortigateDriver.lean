/-
# The FortiGate driver

`app/drivers/fortigate_ssh.py`: what the driver demands of the parameters of a listener, and the
command that results when such a listener receives a magic packet. Values of a parameter
dictionary are of any type, and reach the driver through `str`.
-/

import Wolt.Python.Dict
import Wolt.Wake.FortigateCommand

namespace Wolt.Wake

open Wolt.Python

variable {V : Type}

/-- `DriverValidationError`, by its detail. -/
inductive DriverValidationError
  | unsupportedDriverType
  | invalidFortigateInterface
  | invalidGatewayIp
  | invalidAllowedSourceIp
  | udpPortOutsideAllowedRange
  | listenerNameRequired
  | deviceNameRequired
  | invalidDeviceHost
  | invalidDeviceTimeoutOrPort
  | invalidDevicePort
  | invalidDeviceTimeout
  | invalidOrMissingHostKey
  | invalidDeviceUsername
  | invalidDevicePassword
  deriving DecidableEq

/-- What `validate_listener_parameters` returns. -/
structure ListenerParameters where
  interface : Text
  gatewayIp : Text
  deriving DecidableEq

/-- `str(parameters.get(key, "")).strip()`. -/
def strippedParameter (str : V → Text) (parameters : Dict V) (key : Text) : Text :=
  strip (((parameters.get key).map str).getD [])

/-- `INTERFACE_PATTERN.fullmatch` of the driver, which bounds the length. -/
def driverInterfacePattern (text : Text) : Bool :=
  1 ≤ text.length && text.length ≤ 64 && text.all isInterfaceChar

/-- `FortiGateSSHDriver.validate_listener_parameters`. -/
def validateListenerParameters (str : V → Text) (parameters : Dict V) :
    Except DriverValidationError ListenerParameters :=
  let interface := strippedParameter str parameters "interface".toList
  if !driverInterfacePattern interface then .error .invalidFortigateInterface
  else
    match ipAddress (strippedParameter str parameters "gateway_ip".toList) with
    | none => .error .invalidGatewayIp
    | some address => .ok ⟨interface, address.str⟩

/-- The driver's pattern is the command builder's with a bound on the length. -/
theorem interfacePattern_of_driverInterfacePattern {text : Text}
    (h : driverInterfacePattern text = true) : interfacePattern text = true := by
  simp only [driverInterfacePattern, Bool.and_eq_true, decide_eq_true_eq] at h
  obtain ⟨⟨hpos, _⟩, hall⟩ := h
  have hne : text ≠ [] := List.ne_nil_of_length_pos hpos
  simp [interfacePattern, hne, hall]

/-- What accepted parameters are: a matching interface, and an address that was read. -/
theorem validateListenerParameters_spec {str : V → Text} {parameters : Dict V}
    {listener : ListenerParameters}
    (h : validateListenerParameters str parameters = .ok listener) :
    driverInterfacePattern listener.interface = true ∧
      ∃ address, ipAddress (strippedParameter str parameters "gateway_ip".toList) = some address ∧
        listener.gatewayIp = address.str := by
  unfold validateListenerParameters at h
  dsimp only at h
  split_ifs at h with hinterface
  simp only [Bool.not_eq_true', Bool.not_eq_false] at hinterface
  split at h
  · cases h
  · rename_i address haddress
    obtain rfl := Except.ok.inj h
    exact ⟨hinterface, address, haddress, rfl⟩

/-- What the driver returned it accepts again, unchanged. -/
theorem validateListenerParameters_again {str : V → Text} {parameters : Dict V}
    {listener : ListenerParameters}
    (h : validateListenerParameters str parameters = .ok listener) :
    validateListenerParameters (fun text : Text => text)
      [("interface".toList, listener.interface), ("gateway_ip".toList, listener.gatewayIp)] =
      .ok listener := by
  obtain ⟨hinterface, address, haddress, hgateway⟩ := validateListenerParameters_spec h
  have hword : IsWord listener.interface :=
    isWord_of_interfacePattern (interfacePattern_of_driverInterfacePattern hinterface)
  have hspace : ∀ c ∈ listener.interface, isSpace c = false := fun c hc =>
    (isClean_iff.1 (hword.2 c hc)).1
  have hstrip : strip listener.interface = listener.interface :=
    strip_eq_self (fun c hc => hspace c (List.mem_of_mem_head? hc))
      fun c hc => hspace c (List.mem_of_mem_getLast? hc)
  have hgatewayStrip : strip listener.gatewayIp = listener.gatewayIp := by
    rw [hgateway]
    exact strip_str_of_ipAddress (fun c hc => isSpace_of_getLast?_strip hc) haddress
  have hread : ipAddress listener.gatewayIp = some address := by
    rw [hgateway]
    exact ipAddress_str_of_ipAddress haddress
  simp [validateListenerParameters, strippedParameter, hstrip, hinterface, hgatewayStrip,
    hread, ← hgateway]

/-- The command builder accepts an interface, a parsed packet and a normalised address, and
normalising the address a second time changes nothing. -/
theorem buildWolCommand_of_interfacePattern {interface gatewayIp : Text} {address : IpAddress}
    {data : List UInt8} {packet : ParsedMagicPacket}
    (hinterface : interfacePattern interface = true)
    (haddress : ipAddress gatewayIp = some address)
    (hpacket : parseMagicPacket data = .ok packet) :
    buildWolCommand interface packet.macAddress address.str =
      .ok (wolCommand interface packet.macAddress address.str) := by
  obtain ⟨mac, hbuild, rfl⟩ := parseMagicPacket_eq_ok_iff.1 hpacket
  have hmac : macPattern (formatMac mac) = true :=
    macPattern_formatMac (length_of_buildMagicPacket hbuild)
  rw [buildWolCommand, if_neg (by simp [hinterface]), if_neg (by simp [hmac]),
    ipAddress_str_of_ipAddress haddress]

/-- The command builder accepts whatever the driver and the parser accepted. -/
theorem buildWolCommand_of_validateListenerParameters {str : V → Text} {parameters : Dict V}
    {listener : ListenerParameters} {data : List UInt8} {packet : ParsedMagicPacket}
    (hlistener : validateListenerParameters str parameters = .ok listener)
    (hpacket : parseMagicPacket data = .ok packet) :
    buildWolCommand listener.interface packet.macAddress listener.gatewayIp =
      .ok (wolCommand listener.interface packet.macAddress listener.gatewayIp) := by
  obtain ⟨hinterface, address, haddress, hgateway⟩ := validateListenerParameters_spec hlistener
  rw [hgateway]
  exact buildWolCommand_of_interfacePattern (interfacePattern_of_driverInterfacePattern hinterface)
    haddress hpacket

/-- **What reaches the firewall.** An accepted listener and an accepted packet always make a
command, and that command is one line of the seven intended words exactly when the scope of the
gateway address, the text after its `%`, is free of whitespace and control characters. -/
theorem isWakeCommand_iff_scope_isClean {str : V → Text} {parameters : Dict V}
    {listener : ListenerParameters} {data : List UInt8} {packet : ParsedMagicPacket}
    (hlistener : validateListenerParameters str parameters = .ok listener)
    (hpacket : parseMagicPacket data = .ok packet) :
    (∃ command,
      buildWolCommand listener.interface packet.macAddress listener.gatewayIp = .ok command ∧
      IsWakeCommand command listener.interface packet.macAddress listener.gatewayIp) ↔
    ∀ c ∈ scopeText (strippedParameter str parameters "gateway_ip".toList),
      isClean c = true := by
  have hbuild := buildWolCommand_of_validateListenerParameters hlistener hpacket
  obtain ⟨hinterface, address, haddress, hgateway⟩ := validateListenerParameters_spec hlistener
  rw [← isClean_str_iff haddress, ← hgateway]
  constructor
  · rintro ⟨command, hcommand, hwake⟩
    obtain rfl := Except.ok.inj (hbuild.symm.trans hcommand)
    exact isClean_of_isWakeCommand hwake
  · intro hclean
    obtain ⟨mac, hmac, rfl⟩ := parseMagicPacket_eq_ok_iff.1 hpacket
    have hword : IsWord listener.interface :=
      isWord_of_interfacePattern (interfacePattern_of_driverInterfacePattern hinterface)
    have hmacWord : IsWord (formatMac mac) :=
      isWord_of_macPattern (macPattern_formatMac (length_of_buildMagicPacket hmac))
    have hne : listener.gatewayIp ≠ [] := hgateway ▸ str_ne_nil_of_ipAddress haddress
    exact ⟨_, hbuild, isWakeCommand_wolCommand hword hmacWord ⟨hne, hclean⟩⟩

/-! ## Two listeners -/

/-- A packet for the machine `02:AA:BB:CC:DD:16`. -/
def samplePayload : List UInt8 :=
  List.replicate 6 0xff ++ (List.replicate 16 [0x02, 0xAA, 0xBB, 0xCC, 0xDD, 0x16]).flatten

/-- What `samplePayload` parses to. -/
def samplePacket : ParsedMagicPacket := ⟨"02:AA:BB:CC:DD:16".toList, 102⟩

/-- A listener with the gateway address `gatewayIp`. -/
def sampleParameters (gatewayIp : Text) : Dict Text :=
  [("interface".toList, "vlan16".toList), ("gateway_ip".toList, gatewayIp)]

/-- With an IPv4 gateway there is no scope, and the command is a wake command. -/
theorem isWakeCommand_sampleParameters :
    (∃ command,
      buildWolCommand "vlan16".toList samplePacket.macAddress "192.0.2.1".toList = .ok command ∧
      IsWakeCommand command "vlan16".toList samplePacket.macAddress "192.0.2.1".toList) ↔
    ∀ c ∈ scopeText (strippedParameter id (sampleParameters "192.0.2.1".toList)
      "gateway_ip".toList), isClean c = true :=
  isWakeCommand_iff_scope_isClean
    (show validateListenerParameters id (sampleParameters "192.0.2.1".toList) =
      .ok ⟨"vlan16".toList, "192.0.2.1".toList⟩ by decide +kernel)
    (show parseMagicPacket samplePayload = .ok samplePacket by decide +kernel)

/-- A scope that holds a newline is accepted, and the command built from it has a second line. -/
theorem scope_newline_adds_command_line :
    ∃ listener command,
      validateListenerParameters id (sampleParameters "fe80::1%a\nexecute reboot".toList) =
        .ok listener ∧
      parseMagicPacket samplePayload = .ok samplePacket ∧
      buildWolCommand listener.interface samplePacket.macAddress listener.gatewayIp =
        .ok command ∧
      splitlines command =
        ["execute wake-on-lan vlan16 02:AA:BB:CC:DD:16 2 9 fe80::1%a".toList,
          "execute reboot".toList] ∧
      ¬ IsWakeCommand command listener.interface samplePacket.macAddress listener.gatewayIp := by
  refine ⟨⟨"vlan16".toList, "fe80::1%a\nexecute reboot".toList⟩,
    "execute wake-on-lan vlan16 02:AA:BB:CC:DD:16 2 9 fe80::1%a\nexecute reboot".toList,
    by decide +kernel, by decide +kernel, by decide +kernel, by decide +kernel, ?_⟩
  intro hwake
  exact absurd hwake.line (by decide +kernel)

end Wolt.Wake
