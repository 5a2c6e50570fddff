/-
# Base64

`base64.urlsafe_b64encode` and `base64.urlsafe_b64decode`. The decoder reads one character after the
other with the bits that are left over from those before. It accepts both alphabets, ignores every
other character, and stops at the padding that completes a group; a text that ends within a group is
an error.
-/

import Wolt.Python.Text
import Mathlib.Tactic.IntervalCases

namespace Wolt.Python

/-- A Python `bytes`. -/
abbrev Bytes := List UInt8

/-! ## Sextets -/

/-- The character of six bits, in the alphabet that is safe in a URL. -/
def sextetChar (sextet : ℕ) : Char :=
  if sextet < 26 then Char.ofNat (65 + sextet)
  else if sextet < 52 then Char.ofNat (71 + sextet)
  else if sextet < 62 then Char.ofNat (sextet - 4)
  else if sextet = 62 then '-' else '_'

/-- The six bits of a character, in both alphabets. -/
def charSextet (c : Char) : Option ℕ :=
  let n := c.toNat
  if 65 ≤ n && n ≤ 90 then some (n - 65)
  else if 97 ≤ n && n ≤ 122 then some (n - 71)
  else if 48 ≤ n && n ≤ 57 then some (n + 4)
  else if c = '-' || c = '+' then some 62
  else if c = '_' || c = '/' then some 63
  else none

theorem charSextet_sextetChar {sextet : ℕ} (h : sextet < 64) :
    charSextet (sextetChar sextet) = some sextet := by
  interval_cases sextet <;> rfl

theorem sextetChar_ne_pad {sextet : ℕ} (h : sextet < 64) : sextetChar sextet ≠ '=' := by
  interval_cases sextet <;> decide

theorem isAscii_sextetChar {sextet : ℕ} (h : sextet < 64) : (sextetChar sextet).toNat < 128 := by
  interval_cases sextet <;> decide

/-! ## The encoder -/

/-- `base64.urlsafe_b64encode(data).decode("ascii")`: four characters for three bytes, and padding
after a rest of one or two. -/
def urlsafeB64encode : Bytes → Text
  | [] => []
  | [a] => [sextetChar (a.toNat / 4), sextetChar (a.toNat % 4 * 16), '=', '=']
  | [a, b] =>
      [sextetChar (a.toNat / 4), sextetChar (a.toNat % 4 * 16 + b.toNat / 16),
        sextetChar (b.toNat % 16 * 4), '=']
  | a :: b :: c :: rest =>
      sextetChar (a.toNat / 4) :: sextetChar (a.toNat % 4 * 16 + b.toNat / 16) ::
        sextetChar (b.toNat % 16 * 4 + c.toNat / 64) :: sextetChar (c.toNat % 64) ::
        urlsafeB64encode rest

/-! ## The decoder -/

/-- How many characters of a group have been read, with the bits that are left over from the last
one, and whether there was a first padding after two. -/
inductive Group
  | empty
  | one (left : ℕ)
  | two (left : ℕ) (padded : Bool)
  | three (left : ℕ)
  deriving DecidableEq

/-- `binascii.a2b_base64` within a group. Without an answer it raises `binascii.Error`. -/
def a2bBase64 : Group → Text → Option Bytes
  | group, [] => if group = .empty then some [] else none
  | group, c :: rest =>
      if c = '=' then
        match group with
        | .empty | .one _ => a2bBase64 group rest
        | .two left false => a2bBase64 (.two left true) rest
        | .two _ true | .three _ => some []
      else
        match charSextet c with
        | none => a2bBase64 group rest
        | some value =>
            match group with
            | .empty => a2bBase64 (.one value) rest
            | .one left =>
                (a2bBase64 (.two (value % 16) false) rest).map
                  fun bytes => UInt8.ofNat (left * 4 + value / 16) :: bytes
            | .two left _ =>
                (a2bBase64 (.three (value % 4)) rest).map
                  fun bytes => UInt8.ofNat (left * 16 + value / 4) :: bytes
            | .three left =>
                (a2bBase64 .empty rest).map fun bytes => UInt8.ofNat (left * 64 + value) :: bytes

/-- `base64.urlsafe_b64decode`. -/
def urlsafeB64decode (text : Text) : Option Bytes := a2bBase64 .empty text

/-- What the decoder does with a character of the alphabet. -/
def Group.take (value : ℕ) (rest : Text) : Group → Option Bytes
  | .empty => a2bBase64 (.one value) rest
  | .one left => (a2bBase64 (.two (value % 16) false) rest).map
      fun bytes => UInt8.ofNat (left * 4 + value / 16) :: bytes
  | .two left _ => (a2bBase64 (.three (value % 4)) rest).map
      fun bytes => UInt8.ofNat (left * 16 + value / 4) :: bytes
  | .three left => (a2bBase64 .empty rest).map fun bytes => UInt8.ofNat (left * 64 + value) :: bytes

theorem a2bBase64_sextetChar {sextet : ℕ} (h : sextet < 64) (group : Group) (rest : Text) :
    a2bBase64 group (sextetChar sextet :: rest) = group.take sextet rest := by
  cases group <;> rw [a2bBase64.eq_def] <;>
    simp only [if_neg (sextetChar_ne_pad h), charSextet_sextetChar h, Group.take]

section Steps

variable {sextet left : ℕ} {padded : Bool} {rest : Text} (h : sextet < 64)
include h

theorem a2bBase64_empty :
    a2bBase64 .empty (sextetChar sextet :: rest) = a2bBase64 (.one sextet) rest :=
  a2bBase64_sextetChar h .empty rest

theorem a2bBase64_one :
    a2bBase64 (.one left) (sextetChar sextet :: rest) =
      (a2bBase64 (.two (sextet % 16) false) rest).map
        fun bytes => UInt8.ofNat (left * 4 + sextet / 16) :: bytes :=
  a2bBase64_sextetChar h (.one left) rest

theorem a2bBase64_two :
    a2bBase64 (.two left padded) (sextetChar sextet :: rest) =
      (a2bBase64 (.three (sextet % 4)) rest).map
        fun bytes => UInt8.ofNat (left * 16 + sextet / 4) :: bytes :=
  a2bBase64_sextetChar h (.two left padded) rest

theorem a2bBase64_three :
    a2bBase64 (.three left) (sextetChar sextet :: rest) =
      (a2bBase64 .empty rest).map fun bytes => UInt8.ofNat (left * 64 + sextet) :: bytes :=
  a2bBase64_sextetChar h (.three left) rest

end Steps

/-- The first byte of a group is in the first sextet and the upper bits of the second one. -/
theorem ofNat_first (a : UInt8) {second : ℕ} (h : second / 16 = a.toNat % 4) :
    UInt8.ofNat (a.toNat / 4 * 4 + second / 16) = a := by
  have hvalue : a.toNat / 4 * 4 + second / 16 = a.toNat := by omega
  rw [hvalue, UInt8.ofNat_toNat]

/-- The second byte is in the lower bits of the second sextet and the upper bits of the third
one. -/
theorem ofNat_second (b : UInt8) {second third : ℕ} (h : second % 16 = b.toNat / 16)
    (h' : third / 4 = b.toNat % 16) : UInt8.ofNat (second % 16 * 16 + third / 4) = b := by
  have hvalue : second % 16 * 16 + third / 4 = b.toNat := by omega
  rw [hvalue, UInt8.ofNat_toNat]

/-- The third byte is in the lower bits of the third sextet and the fourth one. -/
theorem ofNat_third (c : UInt8) {third : ℕ} (h : third % 4 = c.toNat / 64) :
    UInt8.ofNat (third % 4 * 64 + c.toNat % 64) = c := by
  have hvalue : third % 4 * 64 + c.toNat % 64 = c.toNat := by omega
  rw [hvalue, UInt8.ofNat_toNat]

/-- Decoding what was encoded. -/
theorem urlsafeB64decode_encode (bytes : Bytes) :
    urlsafeB64decode (urlsafeB64encode bytes) = some bytes := by
  unfold urlsafeB64decode
  fun_induction urlsafeB64encode bytes with
  | case1 => rfl
  | case2 a =>
      have ha := a.toNat_lt
      rw [a2bBase64_empty (by omega), a2bBase64_one (by omega), ofNat_first a (by omega)]
      rfl
  | case3 a b =>
      have ha := a.toNat_lt
      have hb := b.toNat_lt
      rw [a2bBase64_empty (by omega), a2bBase64_one (by omega), ofNat_first a (by omega),
        a2bBase64_two (by omega), ofNat_second b (by omega) (by omega)]
      rfl
  | case4 a b c rest ih =>
      have ha := a.toNat_lt
      have hb := b.toNat_lt
      have hc := c.toNat_lt
      rw [a2bBase64_empty (by omega), a2bBase64_one (by omega), ofNat_first a (by omega),
        a2bBase64_two (by omega), ofNat_second b (by omega) (by omega),
        a2bBase64_three (by omega), ofNat_third c (by omega), ih]
      rfl

/-- What is encoded is ASCII. -/
theorem isAscii_urlsafeB64encode (bytes : Bytes) : ∀ c ∈ urlsafeB64encode bytes, c.toNat < 128 := by
  have hpad : '='.toNat < 128 := by decide
  fun_induction urlsafeB64encode bytes with
  | case1 => exact fun c hc => by cases hc
  | case2 a =>
      have ha := a.toNat_lt
      simp only [List.forall_mem_cons]
      exact ⟨isAscii_sextetChar (by omega), isAscii_sextetChar (by omega), hpad, hpad,
        fun c hc => by cases hc⟩
  | case3 a b =>
      have ha := a.toNat_lt
      have hb := b.toNat_lt
      simp only [List.forall_mem_cons]
      exact ⟨isAscii_sextetChar (by omega), isAscii_sextetChar (by omega),
        isAscii_sextetChar (by omega), hpad, fun c hc => by cases hc⟩
  | case4 a b c rest ih =>
      have ha := a.toNat_lt
      have hb := b.toNat_lt
      have hc := c.toNat_lt
      simp only [List.forall_mem_cons]
      exact ⟨isAscii_sextetChar (by omega), isAscii_sextetChar (by omega),
        isAscii_sextetChar (by omega), isAscii_sextetChar (by omega), ih⟩

end Wolt.Python
