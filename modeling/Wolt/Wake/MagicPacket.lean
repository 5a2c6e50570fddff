/-
# Magic packets

`app/parser.py`: the recogniser of 102-byte Wake-on-LAN payloads and its builder. The recogniser
accepts exactly what the builder makes, and the MAC address it returns is the six bytes as pairs of
upper-case hexadecimal digits between colons.
-/

import Wolt.Python.Text

namespace Wolt.Wake

open Wolt.Python

/-- `ParsedMagicPacket`. -/
structure ParsedMagicPacket where
  macAddress : Text
  packetLength : ℕ
  deriving DecidableEq

/-- One digit of `"%X"`. -/
def upperHexDigit (d : ℕ) : Char := (Nat.digitChar d).toUpper

/-- `f"{byte:02X}"`. -/
def formatByte (byte : UInt8) : Text :=
  [upperHexDigit (byte.toNat / 16), upperHexDigit (byte.toNat % 16)]

/-- `":".join(f"{byte:02X}" for byte in mac)`. -/
def formatMac (mac : List UInt8) : Text :=
  join ':' (mac.map formatByte)

/-- `parse_magic_packet`. An error is the message of its `InvalidMagicPacketError`. -/
def parseMagicPacket (data : List UInt8) : Except String ParsedMagicPacket :=
  if data.length ≠ 102 then .error "magic packet must be exactly 102 bytes"
  else if data.take 6 ≠ List.replicate 6 0xff then .error "invalid magic packet header"
  else
    let mac := (data.take 12).drop 6
    if data.drop 6 ≠ (List.replicate 16 mac).flatten then
      .error "destination MAC is not repeated 16 times"
    else .ok ⟨formatMac mac, data.length⟩

/-- `build_magic_packet`. -/
def buildMagicPacket (mac : List UInt8) : Except String (List UInt8) :=
  if mac.length ≠ 6 then .error "MAC must contain exactly 6 bytes"
  else .ok (List.replicate 6 0xff ++ (List.replicate 16 mac).flatten)

theorem length_of_buildMagicPacket {mac data : List UInt8}
    (h : buildMagicPacket mac = .ok data) : mac.length = 6 := by
  by_contra hlength
  rw [buildMagicPacket, if_pos hlength] at h
  cases h

/-- The recogniser accepts a payload exactly when the builder makes it. -/
theorem parseMagicPacket_eq_ok_iff {data : List UInt8} {packet : ParsedMagicPacket} :
    parseMagicPacket data = .ok packet ↔
      ∃ mac, buildMagicPacket mac = .ok data ∧ packet = ⟨formatMac mac, 102⟩ := by
  constructor
  · intro hparse
    unfold parseMagicPacket at hparse
    dsimp only at hparse
    split_ifs at hparse with hlength hheader hbody
    rw [not_not] at hlength hheader hbody
    refine ⟨(data.take 12).drop 6, ?_, ?_⟩
    · rw [buildMagicPacket, if_neg (by simp [hlength]), ← hheader, ← hbody, List.take_append_drop]
    · rw [← Except.ok.inj hparse, hlength]
  · rintro ⟨mac, hbuild, rfl⟩
    rw [buildMagicPacket] at hbuild
    split_ifs at hbuild with hmac
    rw [not_not] at hmac
    obtain rfl := Except.ok.inj hbuild
    have hlength : (List.replicate 6 (0xff : UInt8) ++ (List.replicate 16 mac).flatten).length =
        102 := by simp [hmac]
    have htake : (List.replicate 6 (0xff : UInt8) ++ (List.replicate 16 mac).flatten).take 6 =
        List.replicate 6 0xff := List.take_left' (by simp)
    have hdrop : (List.replicate 6 (0xff : UInt8) ++ (List.replicate 16 mac).flatten).drop 6 =
        (List.replicate 16 mac).flatten := List.drop_left' (by simp)
    have hfirst : ((List.replicate 16 mac).flatten).take 6 = mac := by
      rw [List.replicate_succ, List.flatten_cons]
      exact List.take_left' hmac
    have hbytes : ((List.replicate 6 (0xff : UInt8) ++ (List.replicate 16 mac).flatten).take
        12).drop 6 = mac := by
      rw [List.drop_take, hdrop]
      exact hfirst
    rw [parseMagicPacket, if_neg (not_not.2 hlength), if_neg (not_not.2 htake)]
    simp only [hbytes, hdrop, hlength, ne_eq, not_true_eq_false, if_false]

/-- The digits of a formatted byte. -/
def isUpperHexDigit (c : Char) : Bool :=
  c.isDigit || ('A' ≤ c && c ≤ 'F')

theorem isUpperHexDigit_upperHexDigit {d : ℕ} (h : d < 16) :
    isUpperHexDigit (upperHexDigit d) = true := by
  have hall : ∀ d < 16, isUpperHexDigit (upperHexDigit d) = true := by decide
  exact hall d h

/-- A formatted byte is two upper-case hexadecimal digits. -/
theorem formatByte_spec (byte : UInt8) :
    (formatByte byte).length = 2 ∧ ∀ c ∈ formatByte byte, isUpperHexDigit c = true := by
  have hbyte : byte.toNat < 256 := byte.toNat_lt
  refine ⟨rfl, fun c hc => ?_⟩
  rcases List.mem_pair.1 hc with rfl | rfl
  · exact isUpperHexDigit_upperHexDigit (by omega)
  · exact isUpperHexDigit_upperHexDigit (by omega)

/-- Distinct bytes print differently. -/
theorem formatByte_injective : Function.Injective formatByte := by
  have hdigit : ∀ d < 16, ∀ e < 16, upperHexDigit d = upperHexDigit e → d = e := by decide
  intro a b hab
  have ha : a.toNat < 256 := a.toNat_lt
  have hb : b.toNat < 256 := b.toNat_lt
  simp only [formatByte, List.cons.injEq, and_true] at hab
  have hhigh := hdigit _ (by omega) _ (by omega) hab.1
  have hlow := hdigit _ (by omega) _ (by omega) hab.2
  exact UInt8.toNat_inj.1 (by omega)

end Wolt.Wake
