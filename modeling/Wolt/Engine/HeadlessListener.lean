/-
# The headless listener

`load_mappings` of `app/config.py` and `UDPListener` of `app/listener.py`, beside the listener of
the web process. Both pipelines refine one abstract listener, which differs only in the text that it
makes of a MAC address: a datagram from the allowed source that is a magic packet sends that text,
unless the limiter refuses.

The two validations read the gateway address differently. The driver strips the text first,
`load_mappings` does not, and an IPv6 scope may end with whitespace.
-/

import Wolt.Engine.WakeResults

namespace Wolt.Engine

open Wolt.Python Wolt.Operations Wolt.Wake

/-! ## `load_mappings` -/

/-- What `yaml.load` returns. The keys of a mapping are not only texts. -/
inductive Yaml
  | scalar (value : Value)
  | mapping (items : List (Value × Yaml))

/-- `raw.get(key)` of a mapping. -/
def Yaml.get (key : Text) : Yaml → Option Yaml
  | .scalar _ => none
  | .mapping items => items.findSome? fun item =>
      match item.1 with
      | .string found => if found = key then some item.2 else none
      | _ => none

/-- `ConfigError` of `load_mappings`. -/
inductive ConfigError
  | noListeners
  | noListener
  | portNotInteger
  | portOutOfRange
  | duplicatePort (port : ℤ)
  | notObject (port : ℤ)
  | unexpectedKeys (port : ℤ)
  | invalidInterface (port : ℤ)
  | invalidGatewayIp (port : ℤ)
  deriving DecidableEq

/-- The text of the error. -/
def ConfigError.message : ConfigError → Text
  | noListeners => "mapping must contain a listeners object".toList
  | noListener => "mapping must define at least one listener".toList
  | portNotInteger => "listener port must be an integer".toList
  | portOutOfRange => "listener port must be between 1024 and 65535".toList
  | duplicatePort port => "duplicate listener port: ".toList ++ integerText port
  | notObject port => "mapping for port ".toList ++ integerText port ++ " must be an object".toList
  | unexpectedKeys port => "mapping for port ".toList ++ integerText port ++
      " must contain only interface and gateway_ip".toList
  | invalidInterface port => "invalid interface for port ".toList ++ integerText port
  | invalidGatewayIp port => "invalid gateway_ip for port ".toList ++ integerText port

/-- `InterfaceMapping`. -/
structure InterfaceMapping where
  interface : Text
  gatewayIp : Text
  deriving DecidableEq

/-- `_integer(str(raw_port), "listener port", 1024, 65535)`. -/
def listenerPort (conversions : Conversions) (rawPort : Value) : Except ConfigError ℤ :=
  match conversions.readInt (conversions.str rawPort) with
  | none => .error .portNotInteger
  | some port => if 1024 ≤ port ∧ port ≤ 65535 then .ok port else .error .portOutOfRange

/-- `set(raw_mapping) == {"interface", "gateway_ip"}`. -/
def hasMappingKeys (items : List (Value × Yaml)) : Bool :=
  (items.all fun item =>
    match item.1 with
    | .string key => key = "interface".toList || key = "gateway_ip".toList
    | _ => false) &&
  ((Yaml.mapping items).get "interface".toList).isSome &&
  ((Yaml.mapping items).get "gateway_ip".toList).isSome

/-- The body of the loop of `load_mappings`, after the port. -/
def readMapping (port : ℤ) : Yaml → Except ConfigError InterfaceMapping
  | .scalar _ => .error (.notObject port)
  | .mapping items =>
      if !hasMappingKeys items then .error (.unexpectedKeys port)
      else match (Yaml.mapping items).get "interface".toList with
        | some (.scalar (.string interface)) =>
            if !interfacePattern interface then .error (.invalidInterface port)
            else match (Yaml.mapping items).get "gateway_ip".toList with
              | some (.scalar (.string gatewayIp)) =>
                  match ipAddress gatewayIp with
                  | some address => .ok ⟨interface, address.str⟩
                  | none => .error (.invalidGatewayIp port)
              | _ => .error (.invalidGatewayIp port)
        | _ => .error (.invalidInterface port)

/-- The loop of `load_mappings`. -/
def readMappings (conversions : Conversions) :
    List (ℤ × InterfaceMapping) → List (Value × Yaml) →
      Except ConfigError (List (ℤ × InterfaceMapping))
  | mappings, [] => .ok mappings
  | mappings, (rawPort, rawMapping) :: items => do
      let port ← listenerPort conversions rawPort
      if port ∈ mappings.map Prod.fst then .error (.duplicatePort port)
      else
        let mapping ← readMapping port rawMapping
        readMappings conversions (mappings ++ [(port, mapping)]) items

/-- `load_mappings`, of the document that was read. -/
def loadMappings (conversions : Conversions) (document : Yaml) :
    Except ConfigError (List (ℤ × InterfaceMapping)) :=
  match document.get "listeners".toList with
  | some (.mapping []) => .error .noListener
  | some (.mapping items) => readMappings conversions [] items
  | _ => .error .noListeners

/-- The raw mapping belongs to this port of the document, and holds these two texts. -/
def IsRawMapping (conversions : Conversions) (document : Yaml) (port : ℤ)
    (interface gatewayIp : Text) : Prop :=
  ∃ items rawPort raw, document.get "listeners".toList = some (.mapping items) ∧
    (rawPort, raw) ∈ items ∧ listenerPort conversions rawPort = .ok port ∧
    raw.get "interface".toList = some (.scalar (.string interface)) ∧
    raw.get "gateway_ip".toList = some (.scalar (.string gatewayIp))

section Load

variable {conversions : Conversions}

/-- What the loop adds is what its body makes of an item. -/
theorem exists_readMapping_of_readMappings {mappings result : List (ℤ × InterfaceMapping)}
    {items : List (Value × Yaml)} (h : readMappings conversions mappings items = .ok result) :
    (∀ entry ∈ mappings, entry ∈ result) ∧
      (∀ rawPort raw, (rawPort, raw) ∈ items → ∃ port mapping,
        listenerPort conversions rawPort = .ok port ∧ readMapping port raw = .ok mapping ∧
          (port, mapping) ∈ result) ∧
      ((mappings.map Prod.fst).Nodup → (result.map Prod.fst).Nodup) := by
  induction items generalizing mappings with
  | nil =>
      obtain rfl := Except.ok.inj h
      exact ⟨fun _ hentry => hentry, fun _ _ hmem => absurd hmem List.not_mem_nil, id⟩
  | cons item items ih =>
      obtain ⟨rawPort, raw⟩ := item
      obtain ⟨port, hport, h⟩ := of_except_bind h
      split at h
      · cases h
      · rename_i hfresh
        obtain ⟨mapping, hmapping, h⟩ := of_except_bind h
        obtain ⟨hkept, hitems, hnodup⟩ := ih h
        refine ⟨fun entry hentry => hkept entry (List.mem_append_left _ hentry), ?_, ?_⟩
        · intro rawPort' raw' hmem
          rcases List.mem_cons.1 hmem with heq | hmem
          · obtain ⟨rfl, rfl⟩ := Prod.mk.inj heq
            exact ⟨port, mapping, hport, hmapping,
              hkept _ (List.mem_append_right _ (List.mem_singleton_self _))⟩
          · exact hitems rawPort' raw' hmem
        · intro hbefore
          refine hnodup ?_
          rw [List.map_append, List.map_singleton, List.nodup_append]
          refine ⟨hbefore, List.nodup_singleton _, fun other hother found hfound heq => ?_⟩
          rw [List.mem_singleton] at hfound
          rw [heq, hfound] at hother
          exact hfresh hother

/-- An accepted raw mapping. -/
theorem readMapping_spec {port : ℤ} {raw : Yaml} {mapping : InterfaceMapping}
    {interface gatewayIp : Text} (h : readMapping port raw = .ok mapping)
    (hinterface : raw.get "interface".toList = some (.scalar (.string interface)))
    (hgateway : raw.get "gateway_ip".toList = some (.scalar (.string gatewayIp))) :
    mapping.interface = interface ∧ interfacePattern interface = true ∧
      ∃ address, ipAddress gatewayIp = some address ∧ mapping.gatewayIp = address.str := by
  cases raw with
  | scalar value => cases h
  | mapping items =>
      rw [readMapping, hinterface, hgateway] at h
      simp only at h
      split_ifs at h with _ hpattern
      cases haddress : ipAddress gatewayIp with
      | none => simp [haddress] at h
      | some address =>
          simp only [haddress] at h
          obtain rfl := Except.ok.inj h
          exact ⟨rfl, by simpa using hpattern, address, rfl, rfl⟩

/-- **`load_mappings`.** The mapping of a port is what was read of its raw mapping. -/
theorem loadMappings_spec {document : Yaml} {mappings : List (ℤ × InterfaceMapping)} {port : ℤ}
    {mapping : InterfaceMapping} {interface gatewayIp : Text}
    (h : loadMappings conversions document = .ok mappings) (hmapping : (port, mapping) ∈ mappings)
    (hraw : IsRawMapping conversions document port interface gatewayIp) :
    mapping.interface = interface ∧ interfacePattern interface = true ∧
      ∃ address, ipAddress gatewayIp = some address ∧ mapping.gatewayIp = address.str := by
  obtain ⟨items, rawPort, raw, hitems, hmem, hport, hinterface, hgateway⟩ := hraw
  have hread : readMappings conversions [] items = .ok mappings := by
    rw [loadMappings, hitems] at h
    cases items with
    | nil => cases h
    | cons item items => exact h
  obtain ⟨_, hlisted, hnodup⟩ := exists_readMapping_of_readMappings hread
  obtain ⟨port', found, hport', hfound, hentry⟩ := hlisted rawPort raw hmem
  obtain rfl := Except.ok.inj (hport.symm.trans hport')
  have hsame : found = mapping := by
    have hinjective := List.inj_on_of_nodup_map (hnodup List.nodup_nil)
    exact (Prod.mk.inj (hinjective hentry hmapping rfl)).2
  exact readMapping_spec (hsame ▸ hfound) hinterface hgateway

end Load

/-! ## The abstract listener -/

/-- A datagram and its time, with the two firewalls' answers if it comes to a command. They are one
device, so they accept a connection or not alike. -/
structure Delivery where
  datagram : Datagram
  time : ℚ
  headless : SshOutcome
  web : SshOutcome
  sameDevice : headless.connect.toBool = web.connect.toBool

/-- The datagrams arrive in the order of their times. -/
def AreInOrder (deliveries : List Delivery) : Prop :=
  deliveries.Pairwise fun earlier later => earlier.time ≤ later.time

/-- What a listener with this port and this text sends for each datagram. -/
def sentFor (accepts : Datagram → Option Text) (port : ℤ) (command : Text → Text) :
    RateLimiter → List Delivery → List (List Text)
  | _, [] => []
  | limiter, delivery :: deliveries =>
      match accepts delivery.datagram with
      | none => [] :: sentFor accepts port command limiter deliveries
      | some macAddress =>
          (if limiter.isOver (port, macAddress) delivery.time = true ∧
              delivery.web.connect.toBool = true then [command macAddress] else []) ::
            sentFor accepts port command (limiter.allow (port, macAddress) delivery.time).2
              deliveries

/-! ## The headless listener -/

/-- What leaves `FortiGateClient.execute_wol` when it does not return. -/
inductive HeadlessError
  /-- `ValueError` of `build_wol_command`. -/
  | value (message : String)
  /-- `FortiGateError`. -/
  | fortigate (reason : Text)
  /-- An exception of paramiko as it is. -/
  | ssh (error : SshError)
  deriving DecidableEq

/-- `FortiGateClient.execute_wol`: the commands that it sends, and how it ends. -/
def executeWol (interface macAddress gatewayIp : Text) (outcome : SshOutcome) :
    List Text × Except HeadlessError Unit :=
  let command := buildWolCommand interface macAddress gatewayIp
  (sentCommands outcome command, do
    let _ ← command.mapError .value
    useClient .fortigate .ssh outcome)

/-- `UDPListener`. -/
structure UdpListener where
  port : ℤ
  mapping : InterfaceMapping
  allowedIp : Text
  deriving DecidableEq

/-- The MAC address of a datagram that comes from the allowed source and is a magic packet. -/
def UdpListener.accepts (listener : UdpListener) (datagram : Datagram) : Option Text :=
  if datagram.sourceIp ≠ listener.allowedIp then none
  else match parseMagicPacket datagram.data with
    | .ok packet => some packet.macAddress
    | .error _ => none

/-- `UDPListener._handle`: the commands that it sends, what it raises besides a `FortiGateError`,
and the limiter. `run` logs what is raised and goes on. -/
def UdpListener.handle (listener : UdpListener) (limiter : RateLimiter) (delivery : Delivery) :
    List Text × Option HeadlessError × RateLimiter :=
  match listener.accepts delivery.datagram with
  | none => ([], none, limiter)
  | some macAddress =>
      let (allowed, limiter) := limiter.allow (listener.port, macAddress) delivery.time
      if allowed then
        let (commands, result) := executeWol listener.mapping.interface macAddress
          listener.mapping.gatewayIp delivery.headless
        match result with
        | .ok () | .error (.fortigate _) => (commands, none, limiter)
        | .error error => (commands, some error, limiter)
      else ([], none, limiter)

/-- The loop of `UDPListener.run`, as the commands for each datagram. -/
def UdpListener.run (listener : UdpListener) : RateLimiter → List Delivery → List (List Text)
  | _, [] => []
  | limiter, delivery :: deliveries =>
      let (commands, _, limiter) := listener.handle limiter delivery
      commands :: listener.run limiter deliveries

/-- The commands of the web process for each datagram, while the tables stay as they are. -/
def WakeLibrary.webCommands (library : WakeLibrary) (cipher : Option CredentialCipher)
    (mapping : RuntimeMapping) (data : Data) (limiter : RateLimiter) (deliveries : List Delivery) :
    List (List Text) :=
  (library.occurrences cipher mapping data limiter (deliveries.map fun delivery =>
    .datagram delivery.datagram delivery.time delivery.web data)).map fun occurrence =>
      occurrence.handling.commands

/-! ## Both refine the abstract one -/

/-- The commands of one turn do not depend on how it ends. -/
theorem UdpListener.handle_of_accepts {listener : UdpListener} {limiter : RateLimiter}
    {delivery : Delivery} {macAddress : Text}
    (haccepts : listener.accepts delivery.datagram = some macAddress) :
    (listener.handle limiter delivery).1 =
        (if limiter.isOver (listener.port, macAddress) delivery.time = true then
          (executeWol listener.mapping.interface macAddress listener.mapping.gatewayIp
            delivery.headless).1
        else []) ∧
      (listener.handle limiter delivery).2.2 =
        (limiter.allow (listener.port, macAddress) delivery.time).2 := by
  unfold UdpListener.handle
  rw [haccepts]
  simp only [RateLimiter.allow]
  split
  · simp only [if_true]
    split <;> exact ⟨rfl, rfl⟩
  · exact ⟨rfl, rfl⟩

/-- **The headless listener** is the abstract one with the text of its mapping. -/
theorem run_eq_sentFor {listener : UdpListener} {gatewayIp : Text} {address : IpAddress}
    (hinterface : interfacePattern listener.mapping.interface = true)
    (haddress : ipAddress gatewayIp = some address)
    (hgateway : listener.mapping.gatewayIp = address.str) (limiter : RateLimiter)
    (deliveries : List Delivery) :
    listener.run limiter deliveries =
      sentFor listener.accepts listener.port (fun macAddress => wolCommand
        listener.mapping.interface macAddress listener.mapping.gatewayIp) limiter deliveries := by
  induction deliveries generalizing limiter with
  | nil => rfl
  | cons delivery deliveries ih =>
      cases haccepts : listener.accepts delivery.datagram with
      | none =>
          simp only [UdpListener.run, UdpListener.handle, sentFor, haccepts]
          exact congrArg _ (ih limiter)
      | some macAddress =>
          obtain ⟨hcommands, hlimiter⟩ :=
            @UdpListener.handle_of_accepts listener limiter delivery macAddress haccepts
          have hpacket : ∃ packet, parseMagicPacket delivery.datagram.data = .ok packet ∧
              packet.macAddress = macAddress := by
            unfold UdpListener.accepts at haccepts
            split_ifs at haccepts
            cases hparse : parseMagicPacket delivery.datagram.data with
            | error error => simp [hparse] at haccepts
            | ok packet => exact ⟨packet, rfl, by simpa [hparse] using haccepts⟩
          obtain ⟨packet, hpacket, rfl⟩ := hpacket
          have hbuild := buildWolCommand_of_interfacePattern hinterface haddress hpacket
          simp only [UdpListener.run, sentFor, haccepts, hcommands, hlimiter, ih, executeWol,
            hgateway, hbuild, sentCommands, delivery.sameDevice, ite_and]

/-- The listener of the web process has the material of every wake. -/
structure IsAvailable (library : WakeLibrary) (key : MasterKey) (data : Data) (deviceId : ℕ) :
    Prop where
  stored : StoredByServices library key data
  found : (library.wakeMaterial (some key.cipher) (data.devices.lookup deviceId)
    (data.credentials.lookup deviceId)).toBool = true

/-- The commands of one wake with its material. -/
theorem webWake_commands {library : WakeLibrary} {key : MasterKey} {data : Data}
    {mapping : RuntimeMapping} (havailable : IsAvailable library key data mapping.deviceId)
    (hlistener : validateListenerParameters library.conversions.str
      mapping.driverParameters.toDict = .ok mapping.driverParameters)
    {arrival : Arrival} {macAddress : Text}
    (haccepts : mapping.accepts arrival.datagram = some macAddress)
    (hdevice : arrival.device = data.devices.lookup mapping.deviceId)
    (hcredential : arrival.credential = data.credentials.lookup mapping.deviceId) :
    (library.wake (some key.cipher) mapping macAddress arrival).2.1 =
      @sentCommands DriverError arrival.ssh (.ok (wolCommand mapping.driverParameters.interface
        macAddress mapping.driverParameters.gatewayIp)) := by
  obtain ⟨packet, hpacket, rfl⟩ := exists_packet_of_accepts haccepts
  rcases wake_of_stored ⟨_, hlistener⟩ haccepts
      (fun row hrow => havailable.stored.device _ row (hdevice ▸ hrow))
      (fun row hrow => havailable.stored.credential _ row (hcredential ▸ hrow)) with
    ⟨hmissing, _⟩ | ⟨_, configuration, credentials, config, secret, _, hconfig, hsecret, hwake⟩
  · rw [hdevice, hcredential, havailable.found] at hmissing
    cases hmissing
  · obtain ⟨call, hcall, hcommand⟩ := prepareCall_of_accepted hconfig hsecret hlistener hpacket
    rw [hwake]
    simp only [DeviceLibrary.wakeCommands, hcall, Except.map, hcommand]

/-- **The listener of the web process** is the abstract one with the text of its parameters. -/
theorem webCommands_eq_sentFor {library : WakeLibrary} {key : MasterKey} {data : Data}
    {mapping : RuntimeMapping} (havailable : IsAvailable library key data mapping.deviceId)
    (hlistener : validateListenerParameters library.conversions.str
      mapping.driverParameters.toDict = .ok mapping.driverParameters)
    (limiter : RateLimiter) (deliveries : List Delivery) :
    library.webCommands (some key.cipher) mapping data limiter deliveries =
      sentFor mapping.accepts mapping.port (fun macAddress => wolCommand
        mapping.driverParameters.interface macAddress mapping.driverParameters.gatewayIp) limiter
          deliveries := by
  induction deliveries generalizing limiter with
  | nil => rfl
  | cons delivery deliveries ih =>
      obtain ⟨arrival, harrival⟩ : ∃ arrival : Arrival, arrival =
        ⟨delivery.datagram, delivery.time, data.devices.lookup mapping.deviceId,
          data.credentials.lookup mapping.deviceId, delivery.web⟩ := ⟨_, rfl⟩
      have hcons : library.webCommands (some key.cipher) mapping data limiter
          (delivery :: deliveries) =
          (library.handle (some key.cipher) mapping limiter arrival).commands ::
            library.webCommands (some key.cipher) mapping data
              (library.handle (some key.cipher) mapping limiter arrival).limiter deliveries := by
        rw [harrival]
        rfl
      rw [hcons, ih]
      cases haccepts : mapping.accepts delivery.datagram with
      | none =>
          have harrived : mapping.accepts arrival.datagram = none := harrival ▸ haccepts
          simp only [sentFor, haccepts, WakeLibrary.handle, harrived]
      | some macAddress =>
          have harrived : mapping.accepts arrival.datagram = some macAddress := harrival ▸ haccepts
          have htime : arrival.time = delivery.time := harrival ▸ rfl
          simp only [sentFor, haccepts]
          cases hover : limiter.isOver (mapping.port, macAddress) delivery.time with
          | false =>
              rw [handle_of_refuse harrived (htime.symm ▸ hover)]
              simp [RateLimiter.allow, hover]
          | true =>
              rw [handle_of_allow harrived (htime.symm ▸ hover),
                webWake_commands havailable hlistener
                harrived (harrival ▸ rfl) (harrival ▸ rfl), htime, harrival]
              simp [sentCommands]

/-! ## The same commands -/

/-- The dictionary of a listener that is created with these texts. -/
def listenerDict (interface gatewayIp : Text) : Dict Value :=
  [("interface".toList, .string interface), ("gateway_ip".toList, .string gatewayIp)]

/-- An interface that both patterns accept is the same in both pipelines. -/
theorem validateListenerParameters_listenerDict {conversions : Conversions}
    {interface gatewayIp : Text} {parameters : ListenerParameters}
    (h : validateListenerParameters conversions.str (listenerDict interface gatewayIp) =
      .ok parameters) (hpattern : interfacePattern interface = true) :
    parameters.interface = interface ∧ ∃ address, ipAddress (strip gatewayIp) = some address ∧
      parameters.gatewayIp = address.str := by
  have hclean := (isWord_of_interfacePattern hpattern).2
  have hstrip : strip interface = interface :=
    strip_eq_self (fun c hc => (isClean_iff.1 (hclean c (List.mem_of_mem_head? hc))).1)
      fun c hc => (isClean_iff.1 (hclean c (List.mem_of_mem_getLast? hc))).1
  have hinterface : strippedParameter conversions.str (listenerDict interface gatewayIp)
      "interface".toList = strip interface := rfl
  have hgateway : strippedParameter conversions.str (listenerDict interface gatewayIp)
      "gateway_ip".toList = strip gatewayIp := rfl
  rw [validateListenerParameters, hinterface, hgateway, hstrip] at h
  split_ifs at h
  split at h
  · cases h
  · rename_i address haddress
    obtain rfl := Except.ok.inj h
    exact ⟨rfl, address, haddress, rfl⟩

/-- The last word can be read off the command. -/
theorem wolCommand_injective {interface macAddress gatewayIp gatewayIp' : Text}
    (h : wolCommand interface macAddress gatewayIp = wolCommand interface macAddress gatewayIp') :
    gatewayIp = gatewayIp' :=
  List.append_cancel_left h

/-- A magic packet that the firewall is sent a command for. -/
def firstDelivery (allowedIp : Text) : Delivery where
  datagram := magicDatagram allowedIp
  time := 0
  headless := ⟨.ok (), .ok ⟨0, []⟩, .ok ()⟩
  web := ⟨.ok (), .ok ⟨0, []⟩, .ok ()⟩
  sameDevice := rfl

/-- The first magic packet is not refused. -/
theorem sentFor_firstDelivery {mapping : RuntimeMapping} {command : Text → Text} {interval : ℚ} :
    sentFor mapping.accepts mapping.port command (.new interval)
        [firstDelivery mapping.allowedSourceIp] =
      [[command "01:02:03:04:05:06".toList]] := by
  have hparse : parseMagicPacket (magicDatagram mapping.allowedSourceIp).data =
      .ok ⟨"01:02:03:04:05:06".toList, 102⟩ := by
    show parseMagicPacket (magicDatagram []).data = _
    decide +kernel
  have haccepts : mapping.accepts (firstDelivery mapping.allowedSourceIp).datagram =
      some "01:02:03:04:05:06".toList := by
    show mapping.accepts (magicDatagram mapping.allowedSourceIp) = _
    rw [RuntimeMapping.accepts, if_neg (by simp [magicDatagram]), hparse]
  simp only [sentFor, haccepts]
  rfl

/-- **The two listeners.** A document and the parameters of a mapping are accepted with the same
interface and the same gateway address. Then the headless listener and the one of the web process
send the same commands for the same datagrams, in every run and whatever comes of the commands, if
and only if the text of the address is stripped already. -/
theorem run_eq_webCommands_iff {library : WakeLibrary} {key : MasterKey} {data : Data}
    {document : Yaml} {mappings : List (ℤ × InterfaceMapping)} {port : ℤ}
    {headless : InterfaceMapping} {interface gatewayIp allowedIp : Text}
    {parameters : ListenerParameters} {id deviceId : ℕ} {interval : ℚ}
    (hload : loadMappings library.conversions document = .ok mappings)
    (hheadless : (port, headless) ∈ mappings)
    (hraw : IsRawMapping library.conversions document port interface gatewayIp)
    (hweb : validateListenerParameters library.conversions.str (listenerDict interface gatewayIp) =
      .ok parameters)
    (havailable : IsAvailable library key data deviceId) :
    (∀ deliveries, AreInOrder deliveries →
      (⟨port, headless, allowedIp⟩ : UdpListener).run (.new interval) deliveries =
        library.webCommands (some key.cipher) ⟨id, deviceId, port, allowedIp, parameters⟩ data
          (.new interval) deliveries) ↔
      strip gatewayIp = gatewayIp := by
  obtain ⟨hinterface, hpattern, address, haddress, hgateway⟩ :=
    loadMappings_spec hload hheadless hraw
  obtain ⟨hinterface', address', haddress', hgateway'⟩ :=
    validateListenerParameters_listenerDict hweb hpattern
  have hagain : validateListenerParameters library.conversions.str parameters.toDict =
      .ok parameters := validateListenerParameters_again hweb
  have hrun : ∀ deliveries,
      (⟨port, headless, allowedIp⟩ : UdpListener).run (.new interval) deliveries =
        sentFor (⟨id, deviceId, port, allowedIp, parameters⟩ : RuntimeMapping).accepts port
          (fun macAddress => wolCommand interface macAddress address.str) (.new interval)
            deliveries := by
    intro deliveries
    have hsent := @run_eq_sentFor ⟨port, headless, allowedIp⟩ gatewayIp address
      (by rw [hinterface]; exact hpattern) haddress hgateway (.new interval) deliveries
    simp only [hinterface, hgateway] at hsent
    exact hsent
  have hcommands : ∀ deliveries,
      library.webCommands (some key.cipher) ⟨id, deviceId, port, allowedIp, parameters⟩ data
          (.new interval) deliveries =
        sentFor (⟨id, deviceId, port, allowedIp, parameters⟩ : RuntimeMapping).accepts port
          (fun macAddress => wolCommand interface macAddress address'.str) (.new interval)
            deliveries := by
    intro deliveries
    have hsent := @webCommands_eq_sentFor library key data
      ⟨id, deviceId, port, allowedIp, parameters⟩ havailable hagain (.new interval) deliveries
    simp only [hinterface', hgateway'] at hsent
    exact hsent
  constructor
  · intro hsame
    have hfirst := hsame [firstDelivery allowedIp] (List.pairwise_singleton _ _)
    rw [hrun, hcommands] at hfirst
    have hsent : ∀ command, sentFor (⟨id, deviceId, port, allowedIp, parameters⟩ :
        RuntimeMapping).accepts port command (.new interval) [firstDelivery allowedIp] =
          [[command "01:02:03:04:05:06".toList]] := fun command =>
      @sentFor_firstDelivery ⟨id, deviceId, port, allowedIp, parameters⟩ command interval
    rw [hsent, hsent, List.cons.injEq, List.cons.injEq] at hfirst
    exact (str_strip_eq_iff haddress haddress').1 (wolCommand_injective hfirst.1.1).symm
  · intro hstrip deliveries _
    rw [hrun, hcommands, (str_strip_eq_iff haddress haddress').2 hstrip]

/-! ## A scope that ends with a blank -/

/-- A mapping file with one listener. -/
def sampleDocument (gatewayIp : Text) : Yaml :=
  .mapping [(.string "listeners".toList, .mapping [(.string "40000".toList, .mapping
    [(.string "interface".toList, .scalar (.string "vlan16".toList)),
      (.string "gateway_ip".toList, .scalar (.string gatewayIp))])])]

theorem isRawMapping_sampleDocument (gatewayIp : Text) :
    IsRawMapping sampleLibrary.conversions (sampleDocument gatewayIp) 40000 "vlan16".toList
      gatewayIp :=
  ⟨_, _, _, rfl, List.mem_singleton_self _, rfl, rfl, rfl⟩

theorem isAvailable_wakeData : IsAvailable sampleLibrary sampleKey wakeData 0 :=
  ⟨storedByServices_wakeData, by decide +kernel⟩

/-- An IPv4 address has no scope, and the commands are the same. -/
theorem run_eq_webCommands_sampleDocument :
    loadMappings sampleLibrary.conversions (sampleDocument "192.0.2.17".toList) =
        .ok [(40000, ⟨"vlan16".toList, "192.0.2.17".toList⟩)] ∧
      ∀ deliveries, AreInOrder deliveries →
        (⟨40000, ⟨"vlan16".toList, "192.0.2.17".toList⟩, "192.0.2.9".toList⟩ : UdpListener).run
            (.new 30) deliveries =
          sampleLibrary.webCommands (some sampleKey.cipher) wakeListener.mapping wakeData (.new 30)
            deliveries := by
  have hloaded : loadMappings sampleLibrary.conversions (sampleDocument "192.0.2.17".toList) =
      .ok [(40000, ⟨"vlan16".toList, "192.0.2.17".toList⟩)] := by decide +kernel
  have hvalidated : validateListenerParameters sampleLibrary.conversions.str
      (listenerDict "vlan16".toList "192.0.2.17".toList) =
        .ok ⟨"vlan16".toList, "192.0.2.17".toList⟩ := by decide +kernel
  exact ⟨hloaded, (run_eq_webCommands_iff hloaded (List.mem_singleton_self _)
    (isRawMapping_sampleDocument _) hvalidated isAvailable_wakeData).2 (by decide +kernel)⟩

/-- A mapping whose scope ends with a blank, as the headless listener loads it. -/
def blankListener : UdpListener :=
  ⟨40000, ⟨"vlan16".toList, "fe80::1%a ".toList⟩, "192.0.2.9".toList⟩

/-- The same mapping, as the web process stores it. -/
def blankMapping : RuntimeMapping :=
  ⟨0, 0, 40000, "192.0.2.9".toList, ⟨"vlan16".toList, "fe80::1%a".toList⟩⟩

/-- Both accept the listener, and one datagram leads to two texts. -/
theorem scope_blank_changes_command :
    loadMappings sampleLibrary.conversions (sampleDocument "fe80::1%a ".toList) =
        .ok [(40000, blankListener.mapping)] ∧
      validateListenerParameters sampleLibrary.conversions.str
        (listenerDict "vlan16".toList "fe80::1%a ".toList) = .ok blankMapping.driverParameters ∧
      blankListener.run (.new 30) [firstDelivery "192.0.2.9".toList] =
        [["execute wake-on-lan vlan16 01:02:03:04:05:06 2 9 fe80::1%a ".toList]] ∧
      sampleLibrary.webCommands (some sampleKey.cipher) blankMapping wakeData (.new 30)
          [firstDelivery "192.0.2.9".toList] =
        [["execute wake-on-lan vlan16 01:02:03:04:05:06 2 9 fe80::1%a".toList]] ∧
      ¬ ∀ deliveries, AreInOrder deliveries → blankListener.run (.new 30) deliveries =
        sampleLibrary.webCommands (some sampleKey.cipher) blankMapping wakeData (.new 30)
          deliveries := by
  have hheadless : blankListener.run (.new 30) [firstDelivery "192.0.2.9".toList] =
      [["execute wake-on-lan vlan16 01:02:03:04:05:06 2 9 fe80::1%a ".toList]] := by decide +kernel
  have hweb : sampleLibrary.webCommands (some sampleKey.cipher) blankMapping wakeData (.new 30)
      [firstDelivery "192.0.2.9".toList] =
        [["execute wake-on-lan vlan16 01:02:03:04:05:06 2 9 fe80::1%a".toList]] := by
    decide +kernel
  refine ⟨by decide +kernel, by decide +kernel, hheadless, hweb, fun hsame => ?_⟩
  have hfirst := hsame [firstDelivery "192.0.2.9".toList] (List.pairwise_singleton _ _)
  rw [hheadless, hweb] at hfirst
  exact absurd hfirst (by decide +kernel)

end Wolt.Engine
