/-
# The wake command

`app/fortigate.py`: the only text the program ever sends to a FortiGate. `build_wol_command` checks
the interface and the MAC address against a pattern and normalises the gateway address, and puts
them into a fixed sentence of seven words. Whether the sentence stays one line of seven words
depends on its last word alone, because both patterns exclude every separator.
-/

import Wolt.Python.IpAddress
import Wolt.Wake.MagicPacket

namespace Wolt.Wake

open Wolt.Python

/-! ## Patterns -/

/-- `[A-Za-z0-9_.-]`. -/
def isInterfaceChar (c : Char) : Bool :=
  c.isAlphanum || c == '_' || c == '.' || c == '-'

/-- `INTERFACE_PATTERN.fullmatch` of `app/config.py`. -/
def interfacePattern (text : Text) : Bool :=
  !text.isEmpty && text.all isInterfaceChar

/-- `MAC_PATTERN.fullmatch`: six pairs of upper-case digits between colons. -/
def macPattern (text : Text) : Bool :=
  let pairs := text.splitOn ':'
  pairs.length == 6 && pairs.all fun pair => pair.length == 2 && pair.all isUpperHexDigit

theorem isClean_of_isInterfaceChar {c : Char} (h : isInterfaceChar c = true) :
    isClean c = true := by
  have hrange : (48 ≤ c.toNat ∧ c.toNat ≤ 57) ∨ (65 ≤ c.toNat ∧ c.toNat ≤ 90) ∨
      (97 ≤ c.toNat ∧ c.toNat ≤ 122) ∨ c.toNat = 95 ∨ c.toNat = 46 ∨ c.toNat = 45 := by
    simp only [isInterfaceChar, Char.isAlphanum, Char.isDigit, Bool.or_eq_true, Bool.and_eq_true,
      decide_eq_true_eq, beq_iff_eq, ge_iff_le, UInt32.le_iff_toNat_le] at h
    rcases h with (((halpha | hdigit) | rfl) | rfl) | rfl
    · exact .inr ((toNat_of_isAlpha halpha).imp id .inl)
    · exact .inl hdigit
    · decide
    · decide
    · decide
  simp only [isClean, isSpace, isControl, Bool.and_eq_true, Bool.not_eq_true',
    Bool.or_eq_false_iff, Bool.and_eq_false_iff, decide_eq_false_iff_not, beq_eq_false_iff_ne]
  omega

theorem isHexDigit_of_isUpperHexDigit {c : Char} (h : isUpperHexDigit c = true) :
    isHexDigit c = true := by
  simp only [isUpperHexDigit, isHexDigit, Bool.or_eq_true] at h ⊢
  rcases h with h | h
  · exact .inl (.inl h)
  · exact .inr h

/-- A text that is non-empty and clean fits into the sentence as one word. -/
def IsWord (text : Text) : Prop :=
  text ≠ [] ∧ ∀ c ∈ text, isClean c = true

theorem isWord_of_interfacePattern {text : Text} (h : interfacePattern text = true) :
    IsWord text := by
  simp only [interfacePattern, Bool.and_eq_true, Bool.not_eq_true', List.isEmpty_eq_false_iff,
    List.all_eq_true] at h
  exact ⟨h.1, fun c hc => isClean_of_isInterfaceChar (h.2 c hc)⟩

theorem isWord_of_macPattern {text : Text} (h : macPattern text = true) : IsWord text := by
  simp only [macPattern, Bool.and_eq_true, beq_iff_eq, List.all_eq_true] at h
  obtain ⟨hlength, hpairs⟩ := h
  have hjoin : join ':' (text.splitOn ':') = text := List.intercalate_splitOn ':'
  constructor
  · rintro rfl
    revert hlength
    decide
  · intro c hc
    rw [← hjoin] at hc
    rcases mem_join hc with rfl | ⟨pair, hpair, hmem⟩
    · decide
    · have hdigit := isHexDigit_of_isUpperHexDigit ((hpairs pair hpair).2 c hmem)
      exact (isHexDigit_not_separator hdigit).2.2.2.2

theorem colon_not_mem_formatByte (byte : UInt8) : ':' ∉ formatByte byte := fun hmem =>
  absurd ((formatByte_spec byte).2 ':' hmem) (by decide)

theorem splitOn_formatMac {mac : List UInt8} (hne : mac ≠ []) :
    (formatMac mac).splitOn ':' = mac.map formatByte := by
  refine List.splitOn_intercalate ':' ?_ (by simpa using hne)
  rintro pair hpair
  obtain ⟨byte, _, rfl⟩ := List.mem_map.1 hpair
  exact colon_not_mem_formatByte byte

/-- Every six bytes print as an address the command builder accepts. -/
theorem macPattern_formatMac {mac : List UInt8} (hlength : mac.length = 6) :
    macPattern (formatMac mac) = true := by
  have hne : mac ≠ [] := by
    rintro rfl
    cases hlength
  simp only [macPattern, splitOn_formatMac hne, Bool.and_eq_true, beq_iff_eq, List.length_map,
    List.all_eq_true, List.mem_map]
  refine ⟨hlength, ?_⟩
  rintro pair ⟨byte, _, rfl⟩
  exact formatByte_spec byte

/-- Distinct addresses of six bytes print differently. -/
theorem formatMac_injOn {mac mac' : List UInt8} (hlength : mac.length = 6)
    (hlength' : mac'.length = 6)
    (h : formatMac mac = formatMac mac') : mac = mac' := by
  have hne : ∀ {mac : List UInt8}, mac.length = 6 → mac ≠ [] := by
    rintro _ hmac rfl
    cases hmac
  have hpairs : mac.map formatByte = mac'.map formatByte := by
    rw [← splitOn_formatMac (hne hlength), h, splitOn_formatMac (hne hlength')]
  exact List.map_injective_iff.2 formatByte_injective hpairs

/-- The builder makes different payloads of different addresses. -/
theorem eq_of_buildMagicPacket {mac mac' data : List UInt8} (h : buildMagicPacket mac = .ok data)
    (h' : buildMagicPacket mac' = .ok data) : mac = mac' := by
  have hbytes : ∀ {mac : List UInt8}, buildMagicPacket mac = .ok data →
      (data.drop 6).take 6 = mac := by
    intro mac hbuild
    have hmac := length_of_buildMagicPacket hbuild
    rw [buildMagicPacket, if_neg (by simp [hmac])] at hbuild
    rw [← Except.ok.inj hbuild, List.drop_left' (by simp), List.replicate_succ, List.flatten_cons]
    exact List.take_left' hmac
  rw [← hbytes h, hbytes h']

/-- **The recogniser is exact.** It accepts a payload just when the builder makes it of six bytes,
which are then unique; the address it returns is those bytes as pairs of digits, which the command
builder accepts and which no other six bytes have. Every other payload is refused with a message. -/
theorem parseMagicPacket_exact (data : List UInt8) :
    ((∃ packet, parseMagicPacket data = .ok packet) ↔
      ∃ mac, mac.length = 6 ∧ buildMagicPacket mac = .ok data) ∧
    (∀ packet, parseMagicPacket data = .ok packet →
      (∃! mac, mac.length = 6 ∧ buildMagicPacket mac = .ok data) ∧
      ∀ mac, buildMagicPacket mac = .ok data →
        packet.macAddress = join ':' (mac.map formatByte) ∧
        macPattern packet.macAddress = true ∧
        ∀ mac', mac'.length = 6 → formatMac mac' = packet.macAddress → mac' = mac) ∧
    ((¬ ∃ mac, mac.length = 6 ∧ buildMagicPacket mac = .ok data) →
      ∃ message, parseMagicPacket data = .error message) := by
  have haccepts : (∃ packet, parseMagicPacket data = .ok packet) ↔
      ∃ mac, mac.length = 6 ∧ buildMagicPacket mac = .ok data := by
    constructor
    · rintro ⟨packet, hparse⟩
      obtain ⟨mac, hbuild, -⟩ := parseMagicPacket_eq_ok_iff.1 hparse
      exact ⟨mac, length_of_buildMagicPacket hbuild, hbuild⟩
    · rintro ⟨mac, -, hbuild⟩
      exact ⟨_, parseMagicPacket_eq_ok_iff.2 ⟨mac, hbuild, rfl⟩⟩
  refine ⟨haccepts, fun packet hparse => ?_, fun hnone => ?_⟩
  · obtain ⟨mac, hbuild, rfl⟩ := parseMagicPacket_eq_ok_iff.1 hparse
    have hlength := length_of_buildMagicPacket hbuild
    refine ⟨⟨mac, ⟨hlength, hbuild⟩, fun other hother =>
      eq_of_buildMagicPacket hother.2 hbuild⟩, ?_⟩
    rintro other hother
    obtain rfl := eq_of_buildMagicPacket hbuild hother
    exact ⟨rfl, macPattern_formatMac hlength, fun mac' hlength' h =>
      formatMac_injOn hlength' hlength h⟩
  · cases hparse : parseMagicPacket data with
    | ok packet => exact absurd (haccepts.1 ⟨packet, hparse⟩) hnone
    | error message => exact ⟨message, rfl⟩

/-! ## The sentence -/

/-- `f"execute wake-on-lan {interface} {mac_address} 2 9 {normalized_ip}"`. -/
def wolCommand (interface macAddress normalizedIp : Text) : Text :=
  "execute wake-on-lan ".toList ++ interface ++ [' '] ++ macAddress ++ " 2 9 ".toList ++
    normalizedIp

/-- `build_wol_command`. An error is the message of its `ValueError`. -/
def buildWolCommand (interface macAddress gatewayIp : Text) : Except String Text :=
  if !interfacePattern interface then .error "invalid FortiGate interface"
  else if !macPattern macAddress then .error "invalid MAC address"
  else
    match ipAddress gatewayIp with
    | none => .error "invalid gateway IP"
    | some address => .ok (wolCommand interface macAddress address.str)

/-- The seven words of the sentence. -/
def wakeWords (interface macAddress ip : Text) : List Text :=
  ["execute".toList, "wake-on-lan".toList, interface, macAddress, "2".toList, "9".toList, ip]

/-- What may be sent over SSH: one line, whose words are the seven intended ones, without a
control character. -/
structure IsWakeCommand (command interface macAddress ip : Text) : Prop where
  /-- There is no second command line. -/
  line : splitlines command = [command]
  /-- There is no further word. -/
  words : split command = wakeWords interface macAddress ip
  /-- The terminal sees plain text. -/
  noControl : ∀ c ∈ command, isControl c = false

theorem wolCommand_eq_join (interface macAddress ip : Text) :
    wolCommand interface macAddress ip = join ' ' (wakeWords interface macAddress ip) := by
  have hhead : "execute wake-on-lan ".toList =
      "execute".toList ++ ([' '] ++ ("wake-on-lan".toList ++ [' '])) := by decide
  have hports : " 2 9 ".toList = [' '] ++ ("2".toList ++ ([' '] ++ ("9".toList ++ [' ']))) := by
    decide
  simp only [wakeWords, join, List.intercalate_cons_cons, List.intercalate_singleton,
    List.append_assoc]
  unfold wolCommand
  rw [hhead, hports]
  simp only [List.append_assoc]

theorem mem_wolCommand_of_mem_ip {interface macAddress ip : Text} {c : Char} (hc : c ∈ ip) :
    c ∈ wolCommand interface macAddress ip :=
  List.mem_append_right _ hc

theorem wolCommand_ne_nil (interface macAddress ip : Text) :
    wolCommand interface macAddress ip ≠ [] := by
  rw [wolCommand_eq_join]
  exact List.cons_ne_nil 'e' _

theorem isWord_of_mem_wakeWords {interface macAddress ip word : Text}
    (hinterface : IsWord interface)
    (hmac : IsWord macAddress) (hip : IsWord ip)
    (hword : word ∈ wakeWords interface macAddress ip) :
    IsWord word := by
  have hfixed : ∀ fixed ∈ ["execute".toList, "wake-on-lan".toList, "2".toList, "9".toList],
      IsWord fixed := by
    have hall : (["execute".toList, "wake-on-lan".toList, "2".toList, "9".toList].all
        fun fixed => fixed ≠ [] && fixed.all isClean) = true := by decide
    intro fixed hfixed
    simpa [IsWord] using List.all_eq_true.1 hall fixed hfixed
  simp only [wakeWords, List.mem_cons, List.not_mem_nil, or_false] at hword
  rcases hword with rfl | rfl | rfl | rfl | rfl | rfl | rfl
  · exact hfixed _ (by simp)
  · exact hfixed _ (by simp)
  · exact hinterface
  · exact hmac
  · exact hfixed _ (by simp)
  · exact hfixed _ (by simp)
  · exact hip

/-- Between words the sentence has blanks only, so clean words make a wake command. -/
theorem isWakeCommand_wolCommand {interface macAddress ip : Text} (hinterface : IsWord interface)
    (hmac : IsWord macAddress) (hip : IsWord ip) :
    IsWakeCommand (wolCommand interface macAddress ip) interface macAddress ip := by
  have hwords : ∀ word ∈ wakeWords interface macAddress ip, IsWord word := fun _ =>
    isWord_of_mem_wakeWords hinterface hmac hip
  have hchar : ∀ c ∈ wolCommand interface macAddress ip, c = ' ' ∨ isClean c = true := by
    intro c hc
    rw [wolCommand_eq_join] at hc
    rcases mem_join hc with rfl | ⟨word, hword, hmem⟩
    · exact .inl rfl
    · exact .inr ((hwords word hword).2 c hmem)
  constructor
  · refine splitlines_of_forall (wolCommand_ne_nil _ _ _) fun c hc => ?_
    rcases hchar c hc with rfl | hclean
    · decide
    · exact isLineBreak_eq_false_of_isSpace_eq_false (isClean_iff.1 hclean).1
  · rw [wolCommand_eq_join]
    refine split_join fun word hword => ?_
    obtain ⟨hword, hclean⟩ := hwords word hword
    exact ⟨hword, fun c hc => (isClean_iff.1 (hclean c hc)).1⟩
  · intro c hc
    rcases hchar c hc with rfl | hclean
    · decide
    · exact (isClean_iff.1 hclean).2

/-- The last word of a wake command is clean: whitespace in it would split it, and a control
character in it would be one in the command. -/
theorem isClean_of_isWakeCommand {interface macAddress ip : Text}
    (h : IsWakeCommand (wolCommand interface macAddress ip) interface macAddress ip) :
    ∀ c ∈ ip, isClean c = true := by
  have hmem : ip ∈ split (wolCommand interface macAddress ip) := by simp [h.words, wakeWords]
  intro c hc
  have hspace := isSpace_eq_false_of_mem_split hmem c hc
  have hcontrol := h.noControl c (mem_wolCommand_of_mem_ip hc)
  exact isClean_iff.2 ⟨hspace, hcontrol⟩

end Wolt.Wake
