/-
# The `ipaddress` module

`ipaddress.ip_address` and the `str` of its results, as Python 3.12 computes them: dotted decimal
IPv4, colon-separated IPv6 with one `::`, an optional IPv4 tail and an optional `%scope`. An address
is kept as its octets or hextets, most significant first. The scope is any non-empty text without a
further `%` or a `/`, and `str` repeats it verbatim.

The main result is that reading what `str` wrote gives the same address back, so normalising an
address twice changes nothing.
-/

import Wolt.Python.Text
import Mathlib.Data.List.Basic
import Mathlib.Tactic.Linarith

namespace Wolt.Python

/-- The result of `ipaddress.ip_address`. -/
inductive IpAddress
  | v4 (octets : List ℕ)
  | v6 (hextets : List ℕ) (scope : Option Text)
  deriving DecidableEq

/-! ## Numerals -/

/-- `str(n)`. -/
def decimal (n : ℕ) : Text := Nat.toDigits 10 n

/-- `"%x" % n`. -/
def hexadecimal (n : ℕ) : Text := Nat.toDigits 16 n

/-- The members of `_HEX_DIGITS`. -/
def isHexDigit (c : Char) : Bool :=
  c.isDigit || ('a' ≤ c && c ≤ 'f') || ('A' ≤ c && c ≤ 'F')

/-- The value of one hexadecimal digit. -/
def hexValue (c : Char) : ℕ :=
  if c.isDigit then c.toNat - 48
  else if 'a' ≤ c then c.toNat - 87
  else c.toNat - 55

/-- `int(text, 16)` for a text of hexadecimal digits. -/
def ofHexDigits (text : Text) : ℕ :=
  text.foldl (fun value c => 16 * value + hexValue c) 0

theorem hexValue_digitChar {d : ℕ} (h : d < 16) : hexValue d.digitChar = d := by
  have hall : ∀ d < 16, hexValue (Nat.digitChar d) = d := by decide
  exact hall d h

theorem isHexDigit_digitChar {d : ℕ} (h : d < 16) : isHexDigit d.digitChar = true := by
  have hall : ∀ d < 16, isHexDigit (Nat.digitChar d) = true := by decide
  exact hall d h

theorem ofHexDigits_hexadecimal (n : ℕ) : ofHexDigits (hexadecimal n) = n := by
  induction n using Nat.strongRecOn with
  | ind n ih =>
      rw [hexadecimal, Nat.toDigits_eq_if (by decide)]
      split_ifs with hsmall
      · simp [ofHexDigits, hexValue_digitChar hsmall]
      · have hlt : n / 16 < n := by omega
        have hlast := hexValue_digitChar (Nat.mod_lt n (by decide : 0 < 16))
        have hinit := ih (n / 16) hlt
        rw [ofHexDigits, hexadecimal] at hinit
        rw [ofHexDigits, List.foldl_append, hinit]
        simp only [List.foldl_cons, List.foldl_nil, hlast]
        omega

theorem isHexDigit_of_mem_hexadecimal {n : ℕ} : ∀ c ∈ hexadecimal n, isHexDigit c = true := by
  induction n using Nat.strongRecOn with
  | ind n ih =>
      rw [hexadecimal, Nat.toDigits_eq_if (by decide)]
      split_ifs with hsmall
      · simpa using isHexDigit_digitChar hsmall
      · intro c hc
        rcases List.mem_append.1 hc with hc | hc
        · exact ih (n / 16) (by omega) c hc
        · obtain rfl := List.mem_singleton.1 hc
          exact isHexDigit_digitChar (Nat.mod_lt n (by decide))

theorem hexadecimal_ne_nil (n : ℕ) : hexadecimal n ≠ [] := Nat.toDigits_ne_nil

theorem length_hexadecimal_le {n : ℕ} (h : n < 65536) : (hexadecimal n).length ≤ 4 :=
  (Nat.length_toDigits_le_iff (by decide) (by decide)).2 h

/-- A hexadecimal digit is none of the separators of an address, and is clean. -/
theorem isHexDigit_not_separator {c : Char} (h : isHexDigit c = true) :
    c ≠ ':' ∧ c ≠ '.' ∧ c ≠ '%' ∧ c ≠ '/' ∧ isClean c = true := by
  have hrange : (48 ≤ c.toNat ∧ c.toNat ≤ 57) ∨ (97 ≤ c.toNat ∧ c.toNat ≤ 102) ∨
      (65 ≤ c.toNat ∧ c.toNat ≤ 70) := by
    simp only [isHexDigit, Char.isDigit, Bool.or_eq_true, Bool.and_eq_true, decide_eq_true_eq,
      ge_iff_le, UInt32.le_iff_toNat_le, Char.le_def] at h
    simp only [Char.toNat]
    rcases h with (h | h) | h
    · exact .inl h
    · exact .inr (.inl h)
    · exact .inr (.inr h)
  refine ⟨?_, ?_, ?_, ?_, ?_⟩
  · rintro rfl; revert hrange; decide
  · rintro rfl; revert hrange; decide
  · rintro rfl; revert hrange; decide
  · rintro rfl; revert hrange; decide
  · simp only [isClean, isSpace, isControl, Bool.and_eq_true, Bool.not_eq_true',
      Bool.or_eq_false_iff, Bool.and_eq_false_iff, decide_eq_false_iff_not, beq_eq_false_iff_ne]
    omega

theorem isHexDigit_of_isDigit {c : Char} (h : c.isDigit = true) : isHexDigit c = true := by
  simp [isHexDigit, h]

/-! ## IPv4 -/

/-- `IPv4Address._parse_octet`. -/
def parseOctet (text : Text) : Option ℕ :=
  if text = [] then none
  else if !text.all Char.isDigit then none
  else if text.length > 3 then none
  else if text ≠ ['0'] ∧ text.head? = some '0' then none
  else
    let octet := Nat.ofDigitChars 10 text 0
    if octet > 255 then none else some octet

/-- `IPv4Address(text)`, as its four octets. -/
def parseIPv4 (text : Text) : Option (List ℕ) :=
  if '/' ∈ text then none
  else if text = [] then none
  else
    let octets := text.splitOn '.'
    if octets.length ≠ 4 then none else octets.mapM parseOctet

/-- `str(IPv4Address)`. -/
def formatIPv4 (octets : List ℕ) : Text :=
  join '.' (octets.map decimal)

/-! ## IPv6 -/

/-- `IPv6Address._parse_hextet`; `int` refuses the empty text. -/
def parseHextet (text : Text) : Option ℕ :=
  if !text.all isHexDigit then none
  else if text.length > 4 then none
  else if text = [] then none
  else some (ofHexDigits text)

/-- Replace an IPv4 tail by the two hextets it stands for. -/
def expandIPv4Suffix (parts : List Text) : Option (List Text) :=
  match parts.getLast? with
  | none => some parts
  | some last =>
      if '.' ∈ last then
        match parseIPv4 last with
        | some [a, b, c, d] =>
            some (parts.dropLast ++ [hexadecimal (a * 256 + b), hexadecimal (c * 256 + d)])
        | _ => none
      else some parts

/-- The positions of the empty parts strictly between the two endpoints. -/
def skipPositions (parts : List Text) : List ℕ :=
  ((parts.tail.dropLast.zipIdx 1).filter fun part => part.1 = []).map Prod.snd

/-- The second half of `IPv6Address._ip_int_from_string`: the hextets on both sides of a `::`. -/
def readParts (parts : List Text) : Option (List ℕ) :=
  match skipPositions parts with
  | [] =>
      if parts.length ≠ 8 then none
      else if parts.head? = some [] then none
      else if parts.getLast? = some [] then none
      else parts.mapM parseHextet
  | [skip] =>
      let high := if parts.head? = some [] then skip - 1 else skip
      let low := if parts.getLast? = some [] then parts.length - skip - 2
        else parts.length - skip - 1
      -- "::" only absorbs an endpoint that it touches
      if parts.head? = some [] ∧ high ≠ 0 then none
      else if parts.getLast? = some [] ∧ low ≠ 0 then none
      else if 8 < high + low + 1 then none
      else do
        let leading ← (parts.take high).mapM parseHextet
        let trailing ← (parts.drop (parts.length - low)).mapM parseHextet
        return leading ++ List.replicate (8 - (high + low)) 0 ++ trailing
  | _ => none

/-- `IPv6Address._ip_int_from_string`, as its eight hextets. -/
def parseHextets (text : Text) : Option (List ℕ) :=
  if text = [] then none
  else
    let parts := text.splitOn ':'
    if parts.length < 3 then none
    else
      match expandIPv4Suffix parts with
      | none => none
      | some parts => if parts.length > 9 then none else readParts parts

/-- `str.partition("%")` of an address: the part before the first `%`. -/
def addressText (text : Text) : Text := text.takeWhile (· ≠ '%')

/-- The part after the first `%`; empty when there is none. -/
def scopeText (text : Text) : Text := (text.dropWhile (· ≠ '%')).tail

/-- `IPv6Address._split_scope_id`: the scope, `none` inside when there is no `%`. -/
def splitScopeId (text : Text) : Option (Option Text) :=
  if '%' ∈ text then
    if scopeText text = [] ∨ '%' ∈ scopeText text then none else some (some (scopeText text))
  else some none

/-- `IPv6Address(text)`. -/
def parseIPv6 (text : Text) : Option IpAddress :=
  if '/' ∈ text then none
  else
    match splitScopeId text with
    | none => none
    | some scope => (parseHextets (addressText text)).map fun hextets => .v6 hextets scope

/-- The accumulator of `_compress_hextets`: the best run of zeros so far and the current one. -/
structure ZeroRuns where
  bestStart : ℕ
  bestLength : ℕ
  start : Option ℕ
  length : ℕ

/-- One turn of the loop of `_compress_hextets`. -/
def ZeroRuns.next (runs : ZeroRuns) (index : ℕ) (hextet : Text) : ZeroRuns :=
  if hextet = ['0'] then
    let start := runs.start.getD index
    let length := runs.length + 1
    if length > runs.bestLength then
      { bestStart := start, bestLength := length, start := some start, length := length }
    else { runs with start := some start, length := length }
  else { runs with start := none, length := 0 }

/-- The loop of `_compress_hextets`. -/
def zeroRuns (hextets : List Text) : ZeroRuns :=
  hextets.zipIdx.foldl (fun runs entry => runs.next entry.2 entry.1) ⟨0, 0, none, 0⟩

/-- `IPv6Address._compress_hextets`. -/
def compressHextets (hextets : List Text) : List Text :=
  let runs := zeroRuns hextets
  if runs.bestLength > 1 then
    let stop := runs.bestStart + runs.bestLength
    let hextets' := if stop = hextets.length then hextets ++ [[]] else hextets
    let hextets' := hextets'.take runs.bestStart ++ [[]] ++ hextets'.drop stop
    if runs.bestStart = 0 then [] :: hextets' else hextets'
  else hextets

/-- `IPv6Address._string_from_ip_int`. -/
def formatHextets (hextets : List ℕ) : Text :=
  join ':' (compressHextets (hextets.map hexadecimal))

/-! ## Addresses -/

/-- `ipaddress.ip_address(text)`; `none` is the `ValueError`. -/
def ipAddress (text : Text) : Option IpAddress :=
  match parseIPv4 text with
  | some octets => some (.v4 octets)
  | none => parseIPv6 text

/-- `str(address)`. -/
def IpAddress.str : IpAddress → Text
  | .v4 octets => formatIPv4 octets
  | .v6 hextets none => formatHextets hextets
  | .v6 hextets (some scope) => formatHextets hextets ++ '%' :: scope

/-! ## Traversals -/

/-- A traversal in `Option` succeeds exactly when every element does. -/
theorem mapM_eq_some_iff {α β : Type} {f : α → Option β} {xs : List α} {ys : List β} :
    xs.mapM f = some ys ↔ xs.map f = ys.map some := by
  induction xs generalizing ys with
  | nil => cases ys <;> simp
  | cons x xs ih =>
      rw [List.mapM_cons]
      cases ys with
      | nil => cases hx : f x <;> cases hxs : xs.mapM f <;> simp
      | cons y ys =>
          cases hx : f x with
          | none => simp [hx]
          | some z => cases hxs : xs.mapM f <;> simp [hx, ← ih, hxs]

/-- Reading back a rendered list. -/
theorem mapM_map_of_forall {α β : Type} {f : β → Option α} {g : α → β} {xs : List α}
    (h : ∀ x ∈ xs, f (g x) = some x) : (xs.map g).mapM f = some xs := by
  rw [mapM_eq_some_iff, List.map_map]
  exact List.map_congr_left h

/-! ## IPv4 round trip -/

theorem parseOctet_lt {text : Text} {octet : ℕ} (h : parseOctet text = some octet) :
    octet < 256 := by
  simp only [parseOctet] at h
  split_ifs at h with _ _ _ _ hrange
  simp only [Option.some.injEq] at h
  omega

theorem isDigit_of_parseOctet {text : Text} {octet : ℕ} (h : parseOctet text = some octet) :
    ∀ c ∈ text, c.isDigit = true := by
  simp only [parseOctet] at h
  split_ifs at h with _ hdigits
  simpa using hdigits

theorem parseOctet_decimal {octet : ℕ} (h : octet < 256) :
    parseOctet (decimal octet) = some octet := by
  have hall : ∀ octet < 256, parseOctet (decimal octet) = some octet := by decide +kernel
  exact hall octet h

theorem isDigit_of_mem_decimal {n : ℕ} {c : Char} (hc : c ∈ decimal n) : c.isDigit = true :=
  Nat.isDigit_of_mem_toDigits (by decide) (by decide) hc

/-- What `parseIPv4` accepts: four octets below 256, written with digits and dots. -/
theorem parseIPv4_spec {text : Text} {octets : List ℕ} (h : parseIPv4 text = some octets) :
    octets.length = 4 ∧ (∀ octet ∈ octets, octet < 256) ∧
      ∀ c ∈ text, c.isDigit = true ∨ c = '.' := by
  simp only [parseIPv4] at h
  split_ifs at h with hslash hempty hlength
  have hmap := mapM_eq_some_iff.1 h
  refine ⟨?_, ?_, ?_⟩
  · have := congrArg List.length hmap
    simp only [List.length_map] at this
    omega
  · intro octet hoctet
    have hmem : some octet ∈ (text.splitOn '.').map parseOctet := by simp [hmap, hoctet]
    obtain ⟨part, _, hpart⟩ := List.mem_map.1 hmem
    exact parseOctet_lt hpart
  · intro c hc
    have hjoin : c ∈ join '.' (text.splitOn '.') := by
      rwa [join, List.intercalate_splitOn]
    rcases mem_join hjoin with hdot | ⟨part, hpart, hmem⟩
    · exact .inr hdot
    · have himage : parseOctet part ∈ octets.map some := by
        rw [← hmap]
        exact List.mem_map_of_mem hpart
      obtain ⟨octet, _, hoctet⟩ := List.mem_map.1 himage
      exact .inl (isDigit_of_parseOctet hoctet.symm c hmem)

/-- The characters of a dotted quad. -/
theorem isDigit_of_mem_formatIPv4 {octets : List ℕ} {c : Char} (hc : c ∈ formatIPv4 octets) :
    c.isDigit = true ∨ c = '.' := by
  rcases mem_join hc with hdot | ⟨part, hpart, hmem⟩
  · exact .inr hdot
  · obtain ⟨octet, _, rfl⟩ := List.mem_map.1 hpart
    exact .inl (isDigit_of_mem_decimal hmem)

/-- **IPv4 round trip.** -/
theorem parseIPv4_formatIPv4 {octets : List ℕ} (hlength : octets.length = 4)
    (hlt : ∀ octet ∈ octets, octet < 256) : parseIPv4 (formatIPv4 octets) = some octets := by
  have hslash : '/' ∉ formatIPv4 octets := fun hmem => by
    rcases isDigit_of_mem_formatIPv4 hmem with h | h <;> revert h <;> decide
  have hparts : (formatIPv4 octets).splitOn '.' = octets.map decimal := by
    refine List.splitOn_intercalate '.' ?_ ?_
    · intro part hpart hdot
      obtain ⟨octet, _, rfl⟩ := List.mem_map.1 hpart
      exact absurd (isDigit_of_mem_decimal hdot) (by decide)
    · intro hnil
      simp [List.map_eq_nil_iff.1 hnil] at hlength
  have hne : formatIPv4 octets ≠ [] := by
    intro hnil
    rw [hnil] at hparts
    have := congrArg List.length hparts
    simp [hlength] at this
  have hread : (octets.map decimal).mapM parseOctet = some octets :=
    mapM_map_of_forall fun octet hoctet => parseOctet_decimal (hlt octet hoctet)
  simp [parseIPv4, hslash, hne, hparts, hlength, hread]

/-! ## IPv6 round trip -/

theorem parseHextet_hexadecimal {hextet : ℕ} (h : hextet < 65536) :
    parseHextet (hexadecimal hextet) = some hextet := by
  have hdigits : (hexadecimal hextet).all isHexDigit = true :=
    List.all_eq_true.2 isHexDigit_of_mem_hexadecimal
  have hlength := length_hexadecimal_le h
  simp [parseHextet, hdigits, hexadecimal_ne_nil, ofHexDigits_hexadecimal,
    Nat.not_lt.2 hlength]

/-! ### The longest run of zeros -/

/-- What the loop of `_compress_hextets` has found after reading `hextets`. -/
structure ZeroRuns.Found (runs : ZeroRuns) (hextets : List Text) : Prop where
  /-- The best run is a block of zeros at the recorded position. -/
  best : ∃ before after, hextets = before ++ List.replicate runs.bestLength ['0'] ++ after ∧
    before.length = runs.bestStart
  /-- The current run is a block of zeros at the end. -/
  current : ∃ before, hextets = before ++ List.replicate runs.length ['0'] ∧
    (runs.start = some before.length ∨ runs.start = none ∧ runs.length = 0)

theorem ZeroRuns.Found.next {runs : ZeroRuns} {hextets : List Text} (h : runs.Found hextets)
    (hextet : Text) : (runs.next hextets.length hextet).Found (hextets ++ [hextet]) := by
  obtain ⟨⟨before, after, hbest, hstart⟩, before', hcurrent, hposition⟩ := h
  have hkept : hextets ++ [hextet] =
      before ++ List.replicate runs.bestLength ['0'] ++ (after ++ [hextet]) := by
    conv_lhs => rw [hbest]
    simp
  by_cases hzero : hextet = ['0']
  · -- the current run grows; it starts where it did, or here
    have hbegin : runs.start.getD hextets.length = before'.length := by
      rcases hposition with hsome | ⟨hnone, hlen⟩
      · simp [hsome]
      · rw [hnone, hcurrent, hlen]
        simp
    have hrun : hextets ++ [hextet] = before' ++ List.replicate (runs.length + 1) ['0'] := by
      rw [hzero, List.replicate_succ', ← List.append_assoc, ← hcurrent]
    by_cases hlonger : runs.length + 1 > runs.bestLength
    · simp only [ZeroRuns.next, if_pos hzero, if_pos hlonger, hbegin]
      exact ⟨⟨before', [], by simpa using hrun, rfl⟩, before', hrun, .inl rfl⟩
    · simp only [ZeroRuns.next, if_pos hzero, if_neg hlonger, hbegin]
      exact ⟨⟨before, after ++ [hextet], hkept, hstart⟩, before', hrun, .inl rfl⟩
  · simp only [ZeroRuns.next, if_neg hzero]
    exact ⟨⟨before, after ++ [hextet], hkept, hstart⟩, hextets ++ [hextet], by simp,
      .inr ⟨rfl, rfl⟩⟩

theorem zeroRuns_found (hextets : List Text) : (zeroRuns hextets).Found hextets := by
  induction hextets using List.reverseRecOn with
  | nil => exact ⟨⟨[], [], rfl, rfl⟩, [], rfl, .inr ⟨rfl, rfl⟩⟩
  | append_singleton hextets hextet ih =>
      have hloop : zeroRuns (hextets ++ [hextet]) =
          (zeroRuns hextets).next hextets.length hextet := by
        simp [zeroRuns, List.zipIdx_append]
      rw [hloop]
      exact ih.next hextet

/-- An endpoint of a compressed address: empty when `::` touches it. -/
def edge (parts : List Text) : List Text :=
  if parts = [] then [[]] else parts

/-- `_compress_hextets` either keeps the hextets or elides one block of at least two zeros. -/
theorem compressHextets_spec (hextets : List Text) :
    compressHextets hextets = hextets ∨
      ∃ before zeros after, 1 < zeros ∧
        hextets = before ++ List.replicate zeros ['0'] ++ after ∧
        compressHextets hextets = edge before ++ [[]] ++ edge after := by
  obtain ⟨before, after, hbest, hstart⟩ := (zeroRuns_found hextets).best
  by_cases hlong : (zeroRuns hextets).bestLength > 1
  · refine .inr ⟨before, (zeroRuns hextets).bestLength, after, hlong, hbest, ?_⟩
    simp only [compressHextets, if_pos hlong, ← hstart]
    generalize (zeroRuns hextets).bestLength = zeros at hbest
    -- the slice assignment sees the trailing empty text only when the zeros end the list
    have hextended : (if before.length + zeros = hextets.length then hextets ++ [[]] else hextets) =
        before ++ List.replicate zeros ['0'] ++ edge after := by
      cases after with
      | nil => simp [hbest, edge]
      | cons last after => simp [hbest, edge]
    have hfront : (before ++ List.replicate zeros ['0'] ++ edge after).take before.length =
      before := by
      simp
    have hback : (before ++ List.replicate zeros ['0'] ++ edge after).drop (before.length + zeros) =
        edge after := by
      rw [List.drop_append_of_le_length (by simp), List.drop_eq_nil_of_le (by simp),
        List.nil_append]
    rw [hextended, hfront, hback]
    cases before with
    | nil => simp [edge]
    | cons first before => simp [edge]
  · exact .inl (by simp only [compressHextets, if_neg hlong])

/-! ### Reading a formatted address -/

theorem colon_not_mem_hexadecimal (n : ℕ) : ':' ∉ hexadecimal n := fun hmem =>
  (isHexDigit_not_separator (isHexDigit_of_mem_hexadecimal _ hmem)).1 rfl

theorem dot_not_mem_hexadecimal (n : ℕ) : '.' ∉ hexadecimal n := fun hmem =>
  (isHexDigit_not_separator (isHexDigit_of_mem_hexadecimal _ hmem)).2.1 rfl

theorem mem_edge_map {hextets : List ℕ} {part : Text}
    (hpart : part ∈ edge (hextets.map hexadecimal)) :
    part = [] ∨ ∃ hextet, part = hexadecimal hextet := by
  rw [edge] at hpart
  split_ifs at hpart with hnil
  · exact .inl (by simpa using hpart)
  · obtain ⟨hextet, _, rfl⟩ := List.mem_map.1 hpart
    exact .inr ⟨hextet, rfl⟩

/-- The parts of a formatted address carry no separator. -/
theorem separator_not_mem {part : Text} (hpart : part = [] ∨ ∃ hextet, part = hexadecimal hextet) :
    ':' ∉ part ∧ '.' ∉ part := by
  rcases hpart with rfl | ⟨hextet, rfl⟩
  · simp
  · exact ⟨colon_not_mem_hexadecimal hextet, dot_not_mem_hexadecimal hextet⟩

theorem mapM_parseHextet {hextets : List ℕ} (hlt : ∀ hextet ∈ hextets, hextet < 65536) :
    (hextets.map hexadecimal).mapM parseHextet = some hextets :=
  mapM_map_of_forall fun hextet hmem => parseHextet_hexadecimal (hlt hextet hmem)

theorem skipPositions_of_forall {parts : List Text} (h : ∀ part ∈ parts, part ≠ []) :
    skipPositions parts = [] := by
  rw [skipPositions, List.map_eq_nil_iff, List.filter_eq_nil_iff]
  rintro ⟨part, position⟩ hmem
  have hpart : part ∈ parts :=
    List.mem_of_mem_tail (List.dropLast_subset _ (List.fst_mem_of_mem_zipIdx hmem))
  simpa using h part hpart

/-- The only interior empty part of an elided address is the elision. -/
theorem skipPositions_elided {before after : List ℕ} :
    skipPositions (edge (before.map hexadecimal) ++ [[]] ++ edge (after.map hexadecimal)) =
      [(edge (before.map hexadecimal)).length] := by
  have hinterior (front back : List Text) (hfront : ∀ part ∈ front, part ≠ [])
      (hback : ∀ part ∈ back, part ≠ []) :
      (((front ++ [[]] ++ back).zipIdx 1).filter fun part : Text × ℕ => part.1 = []).map Prod.snd =
        [front.length + 1] := by
    have hnone (parts : List Text) (start : ℕ) (h : ∀ part ∈ parts, part ≠ []) :
        ((parts.zipIdx start).filter fun part : Text × ℕ => part.1 = []) = [] := by
      rw [List.filter_eq_nil_iff]
      rintro ⟨part, position⟩ hmem
      simpa using h part (List.fst_mem_of_mem_zipIdx hmem)
    simp [List.zipIdx_append, List.filter_append, hnone front _ hfront, hnone back _ hback,
      Nat.add_comm]
  have hhex (hextets : List ℕ) : ∀ part ∈ hextets.map hexadecimal, part ≠ [] := by
    intro part hpart
    obtain ⟨hextet, _, rfl⟩ := List.mem_map.1 hpart
    exact hexadecimal_ne_nil hextet
  have hsub {parts : List Text} {part : Text} (hall : ∀ part ∈ parts, part ≠ [])
      (hpart : part ∈ parts.tail ∨ part ∈ parts.dropLast) : part ≠ [] :=
    hall part (hpart.elim List.mem_of_mem_tail fun h => List.dropLast_subset _ h)
  cases hbefore : before.map hexadecimal with
  | nil =>
      cases hafter : after.map hexadecimal with
      | nil => rfl
      | cons last rest =>
          have hback := hhex after
          rw [hafter] at hback
          have := hinterior [] (last :: rest).dropLast (by simp) fun part hpart =>
            hsub hback (.inr hpart)
          simpa [skipPositions, edge] using this
  | cons first rest =>
      have hfront := hhex before
      rw [hbefore] at hfront
      cases hafter : after.map hexadecimal with
      | nil =>
          have := hinterior rest [] (fun part hpart => hfront part (by simp [hpart])) (by simp)
          simpa [skipPositions, edge] using this
      | cons last rest' =>
          have hback := hhex after
          rw [hafter] at hback
          have := hinterior rest (last :: rest').dropLast
            (fun part hpart => hfront part (by simp [hpart])) fun part hpart =>
              hsub hback (.inr hpart)
          simpa [skipPositions, edge, List.dropLast_append_of_ne_nil] using this

/-- Reading joined parts reaches `readParts` when no part carries a separator. -/
theorem parseHextets_join {parts : List Text} (hmin : 3 ≤ parts.length) (hmax : parts.length ≤ 9)
    (hseparator : ∀ part ∈ parts, ':' ∉ part ∧ '.' ∉ part) :
    parseHextets (join ':' parts) = readParts parts := by
  have hne : parts ≠ [] := by rintro rfl; simp at hmin
  have hsplit : (join ':' parts).splitOn ':' = parts :=
    List.splitOn_intercalate ':' (fun part hpart => (hseparator part hpart).1) hne
  have htext : join ':' parts ≠ [] := by
    intro hnil
    rw [hnil] at hsplit
    rw [← hsplit] at hmin
    simp at hmin
  have hsuffix : expandIPv4Suffix parts = some parts := by
    cases hlast : parts.getLast? with
    | none => simp [expandIPv4Suffix, hlast]
    | some last =>
        have := (hseparator last (List.mem_of_getLast? hlast)).2
        simp [expandIPv4Suffix, hlast, this]
  simp [parseHextets, htext, hsplit, hsuffix, Nat.not_lt.2 hmin, Nat.not_lt.2 hmax]

theorem length_edge (parts : List Text) : (edge parts).length = max 1 parts.length := by
  cases parts <;> simp [edge]

theorem head?_edge_map (hextets : List ℕ) (rest : List Text) :
    (edge (hextets.map hexadecimal) ++ rest).head? = some [] ↔ hextets = [] := by
  cases hextets <;> simp [edge, hexadecimal_ne_nil]

theorem getLast?_edge_map (hextets : List ℕ) (rest : List Text) :
    (rest ++ edge (hextets.map hexadecimal)).getLast? = some [] ↔ hextets = [] := by
  induction hextets using List.reverseRecOn with
  | nil => simp [edge]
  | append_singleton hextets hextet _ =>
      simp [edge, hexadecimal_ne_nil, List.getLast?_append]

/-- Reading an elided address restores the elided zeros. -/
theorem readParts_elided {before after : List ℕ} (hlength : before.length + after.length < 8)
    (hbefore : ∀ hextet ∈ before, hextet < 65536) (hafter : ∀ hextet ∈ after, hextet < 65536) :
    readParts (edge (before.map hexadecimal) ++ [[]] ++ edge (after.map hexadecimal)) =
      some (before ++ List.replicate (8 - (before.length + after.length)) 0 ++ after) := by
  have hhead := head?_edge_map before ([[]] ++ edge (after.map hexadecimal))
  have hlast := getLast?_edge_map after (edge (before.map hexadecimal) ++ [[]])
  rw [← List.append_assoc] at hhead
  have hlow (n : ℕ) : (edge (before.map hexadecimal) ++ [[]] ++ edge
    (after.map hexadecimal)).length -
      (edge (before.map hexadecimal)).length - n = (edge (after.map hexadecimal)).length + 1 -
        n := by
    simp only [List.length_append, List.length_singleton]
    omega
  rw [readParts, skipPositions_elided]
  simp only [hhead, hlast, hlow]
  -- what is left of the two counts: the lengths of the two halves
  have hhigh : (if before = [] then (edge (before.map hexadecimal)).length - 1
      else (edge (before.map hexadecimal)).length) = before.length := by
    cases before <;> simp [edge]
  have hlow' : (if after = [] then (edge (after.map hexadecimal)).length + 1 - 2
      else (edge (after.map hexadecimal)).length + 1 - 1) = after.length := by
    cases after <;> simp [edge]
  have htake : (edge (before.map hexadecimal) ++ [[]] ++ edge (after.map hexadecimal)).take
      before.length = before.map hexadecimal := by
    cases before with
    | nil => simp
    | cons first rest => simp [edge]
  have hdrop : (edge (before.map hexadecimal) ++ [[]] ++ edge (after.map hexadecimal)).drop
      ((edge (before.map hexadecimal) ++ [[]] ++ edge (after.map hexadecimal)).length -
        after.length) = after.map hexadecimal := by
    cases after with
    | nil => simp
    | cons last rest =>
        have hedge : edge ((last :: rest).map hexadecimal) = (last :: rest).map hexadecimal := by
          simp [edge]
        rw [hedge, List.length_append, List.length_map, Nat.add_sub_cancel, List.drop_left]
  rw [hhigh, hlow', htake, hdrop, mapM_parseHextet hbefore, mapM_parseHextet hafter]
  have h1 : ¬ (before = [] ∧ before.length ≠ 0) := by rintro ⟨rfl, h⟩; exact h rfl
  have h2 : ¬ (after = [] ∧ after.length ≠ 0) := by rintro ⟨rfl, h⟩; exact h rfl
  rw [if_neg h1, if_neg h2, if_neg (by omega)]
  rfl

/-- **IPv6 round trip**, without the scope. -/
theorem parseHextets_formatHextets {hextets : List ℕ} (hlength : hextets.length = 8)
    (hlt : ∀ hextet ∈ hextets, hextet < 65536) :
    parseHextets (formatHextets hextets) = some hextets := by
  rcases compressHextets_spec (hextets.map hexadecimal) with
    hsame | ⟨before, zeros, after, hzeros, hblock, helided⟩
  · -- no run of zeros is elided
    have hparts : ∀ part ∈ hextets.map hexadecimal, part ≠ [] ∧ ':' ∉ part ∧ '.' ∉ part := by
      intro part hpart
      obtain ⟨hextet, _, rfl⟩ := List.mem_map.1 hpart
      exact ⟨hexadecimal_ne_nil hextet, separator_not_mem (.inr ⟨hextet, rfl⟩)⟩
    have hhead : (hextets.map hexadecimal).head? ≠ some [] := fun h =>
      (hparts [] (List.mem_of_head? h)).1 rfl
    have hlast : (hextets.map hexadecimal).getLast? ≠ some [] := fun h =>
      (hparts [] (List.mem_of_getLast? h)).1 rfl
    rw [formatHextets, hsame, parseHextets_join (by simp [hlength]) (by simp [hlength])
      fun part hpart => (hparts part hpart).2]
    rw [readParts, skipPositions_of_forall fun part hpart => (hparts part hpart).1]
    simp only [List.length_map, hlength, if_neg hhead, if_neg hlast]
    simpa using mapM_parseHextet hlt
  · obtain ⟨front, after', rfl, hfront, rfl⟩ := List.map_eq_append_iff.1 hblock
    obtain ⟨before', middle, rfl, rfl, hmiddle⟩ := List.map_eq_append_iff.1 hfront
    have hcount : middle.length = zeros := by simpa using congrArg List.length hmiddle
    have hmiddle' : middle = List.replicate zeros 0 := by
      refine List.eq_replicate_iff.2 ⟨hcount, fun hextet hmem => ?_⟩
      have hzero : hexadecimal hextet = ['0'] :=
        List.eq_of_mem_replicate (hmiddle ▸ List.mem_map_of_mem hmem)
      rw [← ofHexDigits_hexadecimal hextet, hzero]
      rfl
    subst hmiddle'
    simp only [List.length_append, List.length_replicate] at hlength
    rw [formatHextets, helided, parseHextets_join]
    · rw [readParts_elided (by omega) (fun hextet hmem => hlt hextet (by simp [hmem]))
        fun hextet hmem => hlt hextet (by simp [hmem])]
      rw [show 8 - (before'.length + after'.length) = zeros by omega]
    · simp only [List.length_append, length_edge, List.length_map, List.length_singleton]
      omega
    · simp only [List.length_append, length_edge, List.length_map, List.length_singleton]
      omega
    · intro part hpart
      rw [List.mem_append, List.mem_append, List.mem_singleton] at hpart
      rcases hpart with (hpart | hpart) | hpart
      · exact separator_not_mem (mem_edge_map hpart)
      · exact separator_not_mem (.inl hpart)
      · exact separator_not_mem (mem_edge_map hpart)

/-! ### What the parser accepts -/

theorem ofHexDigits_lt {text : Text} (h : ∀ c ∈ text, isHexDigit c = true) :
    ofHexDigits text < 16 ^ text.length := by
  induction text using List.reverseRecOn with
  | nil => simp [ofHexDigits]
  | append_singleton text c ih =>
      have hinit := ih fun d hd => h d (by simp [hd])
      have hvalue : hexValue c < 16 := by
        have hc := h c (by simp)
        simp only [isHexDigit, Char.isDigit, Bool.or_eq_true, Bool.and_eq_true, decide_eq_true_eq,
          ge_iff_le, UInt32.le_iff_toNat_le, Char.le_def] at hc
        simp only [hexValue, Char.isDigit, Char.toNat, Char.le_def, UInt32.le_iff_toNat_le,
          Bool.and_eq_true, decide_eq_true_eq, ge_iff_le]
        have h0 : '0'.val.toNat = 48 := rfl
        have h9 : '9'.val.toNat = 57 := rfl
        have ha : 'a'.val.toNat = 97 := rfl
        have hf : 'f'.val.toNat = 102 := rfl
        have hA : 'A'.val.toNat = 65 := rfl
        have hF : 'F'.val.toNat = 70 := rfl
        split_ifs <;> omega
      rw [ofHexDigits] at hinit ⊢
      simp only [List.foldl_append, List.foldl_cons, List.foldl_nil, List.length_append,
        List.length_singleton, pow_succ]
      omega

theorem parseHextet_lt {text : Text} {hextet : ℕ} (h : parseHextet text = some hextet) :
    hextet < 65536 := by
  simp only [parseHextet] at h
  split_ifs at h with hdigits hlength hempty
  simp only [Option.some.injEq] at h
  have hlt : ofHexDigits text < 16 ^ text.length := ofHexDigits_lt (by simpa using hdigits)
  have hpow : 16 ^ text.length ≤ 16 ^ 4 := Nat.pow_le_pow_right (by decide) (by omega)
  omega

theorem mapM_parseHextet_lt {parts : List Text} {hextets : List ℕ}
    (h : parts.mapM parseHextet = some hextets) : ∀ hextet ∈ hextets, hextet < 65536 := by
  intro hextet hmem
  have himage : some hextet ∈ parts.map parseHextet := by
    simp [mapM_eq_some_iff.1 h, hmem]
  obtain ⟨part, _, hpart⟩ := List.mem_map.1 himage
  exact parseHextet_lt hpart

theorem length_of_mapM {α β : Type} {f : α → Option β} {xs : List α} {ys : List β}
    (h : xs.mapM f = some ys) : ys.length = xs.length := by
  simpa using (congrArg List.length (mapM_eq_some_iff.1 h)).symm

theorem lt_of_mem_skipPositions {parts : List Text} {position : ℕ}
    (h : position ∈ skipPositions parts) : position < parts.length := by
  obtain ⟨⟨part, index⟩, hmem, rfl⟩ := List.mem_map.1 h
  obtain ⟨hfirst, hbound, _⟩ := List.mem_zipIdx (List.mem_of_mem_filter hmem)
  simp only [List.length_dropLast, List.length_tail] at hbound
  show index < parts.length
  omega

theorem readParts_spec {parts : List Text} {hextets : List ℕ}
    (h : readParts parts = some hextets) :
    hextets.length = 8 ∧ ∀ hextet ∈ hextets, hextet < 65536 := by
  rw [readParts] at h
  split at h
  · split_ifs at h with hlength
    refine ⟨?_, mapM_parseHextet_lt h⟩
    rw [length_of_mapM h]
    omega
  · rename_i skip hskip
    have hbound : skip < parts.length := lt_of_mem_skipPositions (by simp [hskip])
    simp only at h
    generalize hhigh : (if parts.head? = some [] then skip - 1 else skip) = high at h
    generalize hlow : (if parts.getLast? = some [] then parts.length - skip - 2
      else parts.length - skip - 1) = low at h
    split_ifs at h with _ _ hroom
    obtain ⟨leading, hleading, trailing, htrailing, rfl⟩ :
        ∃ leading, (parts.take high).mapM parseHextet = some leading ∧
          ∃ trailing, (parts.drop (parts.length - low)).mapM parseHextet = some trailing ∧
            leading ++ List.replicate (8 - (high + low)) 0 ++ trailing = hextets := by
      simpa [Option.bind_eq_some_iff] using h
    have hle : high ≤ skip ∧ low ≤ parts.length := by
      constructor
      · rw [← hhigh]; split_ifs <;> omega
      · rw [← hlow]; split_ifs <;> omega
    have hlead := length_of_mapM hleading
    have htrail := length_of_mapM htrailing
    simp only [List.length_take, List.length_drop] at hlead htrail
    refine ⟨?_, ?_⟩
    · simp only [List.length_append, List.length_replicate]
      omega
    · intro hextet hmem
      rw [List.mem_append, List.mem_append, List.mem_replicate] at hmem
      rcases hmem with (hmem | ⟨_, rfl⟩) | hmem
      · exact mapM_parseHextet_lt hleading hextet hmem
      · decide
      · exact mapM_parseHextet_lt htrailing hextet hmem
  · cases h

/-- What `parseHextets` accepts: a text with a colon, read as eight hextets. -/
theorem parseHextets_spec {text : Text} {hextets : List ℕ}
    (h : parseHextets text = some hextets) :
    hextets.length = 8 ∧ (∀ hextet ∈ hextets, hextet < 65536) ∧ ':' ∈ text := by
  simp only [parseHextets] at h
  split_ifs at h with hempty hmin
  have hcolon : ':' ∈ text := by
    by_contra hnone
    rw [List.splitOn_eq_singleton hnone] at hmin
    simp at hmin
  split at h
  · cases h
  · split_ifs at h
    obtain ⟨hlength, hlt⟩ := readParts_spec h
    exact ⟨hlength, hlt, hcolon⟩

/-- The characters of a formatted address. -/
theorem isHexDigit_of_mem_formatHextets {hextets : List ℕ} {c : Char}
    (hc : c ∈ formatHextets hextets) : isHexDigit c = true ∨ c = ':' := by
  rcases mem_join hc with hcolon | ⟨part, hpart, hmem⟩
  · exact .inr hcolon
  · refine .inl ?_
    have hhex (block : List Text) (hsub : ∀ part ∈ block, part ∈ hextets.map hexadecimal)
        (hpart : part ∈ block) : isHexDigit c = true := by
      obtain ⟨hextet, _, rfl⟩ := List.mem_map.1 (hsub part hpart)
      exact isHexDigit_of_mem_hexadecimal c hmem
    have hedge (block : List Text) (hsub : ∀ part ∈ block, part ∈ hextets.map hexadecimal)
        (hpart : part ∈ edge block) : isHexDigit c = true := by
      rw [edge] at hpart
      split_ifs at hpart
      · simp [List.mem_singleton.1 hpart] at hmem
      · exact hhex block hsub hpart
    rcases compressHextets_spec (hextets.map hexadecimal) with
      hsame | ⟨before, zeros, after, _, hblock, helided⟩
    · rw [hsame] at hpart
      exact hhex _ (fun _ h => h) hpart
    · rw [helided, List.mem_append, List.mem_append, List.mem_singleton] at hpart
      rcases hpart with (hpart | rfl) | hpart
      · exact hedge before (fun part h => by simp [hblock, h]) hpart
      · simp at hmem
      · exact hedge after (fun part h => by simp [hblock, h]) hpart

/-! ## The round trip -/

/-- What `ip_address` accepts. -/
def IpAddress.WellFormed : IpAddress → Prop
  | .v4 octets => octets.length = 4 ∧ ∀ octet ∈ octets, octet < 256
  | .v6 hextets scope => hextets.length = 8 ∧ (∀ hextet ∈ hextets, hextet < 65536) ∧
      ∀ text ∈ scope, text ≠ [] ∧ '%' ∉ text ∧ '/' ∉ text

/-- An address with a scope is the part before the `%` and the part after it. -/
theorem eq_address_append_scope {text : Text} (h : '%' ∈ text) :
    text = addressText text ++ '%' :: scopeText text := by
  induction text with
  | nil => simp at h
  | cons c text ih =>
      by_cases hc : c = '%'
      · simp [addressText, scopeText, hc]
      · have hrest : '%' ∈ text := by simpa [Ne.symm hc] using h
        have hscope : scopeText (c :: text) = scopeText text := by simp [scopeText, hc]
        rw [hscope, addressText, List.takeWhile_cons_of_pos (by simpa using hc), List.cons_append]
        exact congrArg (c :: ·) (ih hrest)

theorem scopeText_subset (text : Text) : scopeText text ⊆ text := fun _ hc =>
  (List.dropWhile_sublist _).subset (List.mem_of_mem_tail hc)

theorem wellFormed_of_ipAddress {text : Text} {address : IpAddress}
    (h : ipAddress text = some address) : address.WellFormed := by
  rw [ipAddress] at h
  split at h
  · rename_i octets hoctets
    obtain rfl := Option.some.inj h
    obtain ⟨hlength, hlt, _⟩ := parseIPv4_spec hoctets
    exact ⟨hlength, hlt⟩
  · rw [parseIPv6] at h
    split_ifs at h with hslash
    split at h
    · cases h
    · rename_i scope hscope
      obtain ⟨hextets, hhextets, rfl⟩ := Option.map_eq_some_iff.1 h
      obtain ⟨hlength, hlt, _⟩ := parseHextets_spec hhextets
      refine ⟨hlength, hlt, fun part hpart => ?_⟩
      rw [splitScopeId] at hscope
      split_ifs at hscope with hpercent hinvalid
      · obtain rfl : scopeText text = part := by simpa [← Option.some.inj hscope] using hpart
        rw [not_or] at hinvalid
        exact ⟨hinvalid.1, hinvalid.2, fun hmem => hslash (scopeText_subset text hmem)⟩
      · simp [← Option.some.inj hscope] at hpart

/-- An IPv4 reading fails on any text with a colon. -/
theorem parseIPv4_eq_none {text : Text} (h : ':' ∈ text) : parseIPv4 text = none := by
  cases hparse : parseIPv4 text with
  | none => rfl
  | some octets =>
      rcases (parseIPv4_spec hparse).2.2 ':' h with h | h <;> exact absurd h (by decide)

/-- **Round trip**: reading what `str` wrote gives the same address back. -/
theorem ipAddress_str {address : IpAddress} (h : address.WellFormed) :
    ipAddress address.str = some address := by
  cases address with
  | v4 octets => rw [ipAddress, IpAddress.str, parseIPv4_formatIPv4 h.1 h.2]
  | v6 hextets scope =>
      obtain ⟨hlength, hlt, hscope⟩ := h
      have hread := parseHextets_formatHextets hlength hlt
      have hcolon : ':' ∈ formatHextets hextets := (parseHextets_spec hread).2.2
      have hplain : ∀ c ∈ formatHextets hextets, c ≠ '%' ∧ c ≠ '/' := by
        intro c hc
        rcases isHexDigit_of_mem_formatHextets hc with hhex | rfl
        · exact ⟨(isHexDigit_not_separator hhex).2.2.1, (isHexDigit_not_separator hhex).2.2.2.1⟩
        · decide
      cases scope with
      | none =>
          have hpercent : '%' ∉ formatHextets hextets := fun hmem => (hplain _ hmem).1 rfl
          have hslash : '/' ∉ formatHextets hextets := fun hmem => (hplain _ hmem).2 rfl
          have haddress : addressText (formatHextets hextets) = formatHextets hextets :=
            List.takeWhile_eq_self_iff.2 fun c hc => by simpa using (hplain c hc).1
          simp [ipAddress, IpAddress.str, parseIPv4_eq_none hcolon, parseIPv6, hslash,
            splitScopeId, hpercent, haddress, hread]
      | some scope =>
          obtain ⟨hne, hpercent, hslash⟩ := hscope scope rfl
          have hplain' : ∀ c ∈ formatHextets hextets, (decide (c ≠ '%')) = true := fun c hc => by
            simpa using (hplain c hc).1
          have haddress : addressText (formatHextets hextets ++ '%' :: scope) =
              formatHextets hextets := by
            rw [addressText, List.takeWhile_append_of_pos hplain']
            simp
          have hscopeText : scopeText (formatHextets hextets ++ '%' :: scope) = scope := by
            rw [scopeText, List.dropWhile_append_of_pos hplain']
            simp
          have hslash' : '/' ∉ formatHextets hextets := fun hmem => (hplain _ hmem).2 rfl
          have hcolon' : ':' ∈ formatHextets hextets ++ '%' :: scope := by simp [hcolon]
          rw [ipAddress, IpAddress.str, parseIPv4_eq_none hcolon', parseIPv6]
          simp [hslash, hslash', splitScopeId, hscopeText, hne, hpercent, haddress, hread]

/-- Normalising twice is normalising once. -/
theorem ipAddress_str_of_ipAddress {text : Text} {address : IpAddress}
    (h : ipAddress text = some address) : ipAddress address.str = some address :=
  ipAddress_str (wellFormed_of_ipAddress h)

theorem str_ne_nil_of_ipAddress {text : Text} {address : IpAddress}
    (h : ipAddress text = some address) : address.str ≠ [] := by
  intro hempty
  have hread := ipAddress_str_of_ipAddress h
  rw [hempty] at hread
  exact absurd hread (by simp [show ipAddress [] = none from by decide])

/-- The rendered address of a text that does not end with whitespace has none to strip. -/
theorem strip_str_of_ipAddress {text : Text} {address : IpAddress}
    (hlast : ∀ c ∈ text.getLast?, isSpace c = false) (h : ipAddress text = some address) :
    strip address.str = address.str := by
  have hclean : ∀ c : Char, isHexDigit c = true ∨ c = ':' → isSpace c = false := by
    rintro c (hhex | rfl)
    · exact (isClean_iff.1 (isHexDigit_not_separator hhex).2.2.2.2).1
    · decide
  rw [ipAddress] at h
  split at h
  · rename_i octets hoctets
    obtain rfl := Option.some.inj h
    have hspace : ∀ c ∈ formatIPv4 octets, isSpace c = false := by
      intro c hc
      rcases isDigit_of_mem_formatIPv4 hc with hdigit | rfl
      · exact hclean c (.inl (isHexDigit_of_isDigit hdigit))
      · decide
    exact strip_eq_self (fun c hc => hspace c (List.mem_of_mem_head? hc))
      fun c hc => hspace c (List.mem_of_mem_getLast? hc)
  · rw [parseIPv6] at h
    split_ifs at h
    split at h
    · cases h
    · rename_i scope hscope
      obtain ⟨hextets, _, rfl⟩ := Option.map_eq_some_iff.1 h
      have hspace : ∀ c ∈ formatHextets hextets, isSpace c = false := fun c hc =>
        hclean c (isHexDigit_of_mem_formatHextets hc)
      rw [splitScopeId] at hscope
      split_ifs at hscope with hpercent hinvalid
      · obtain rfl := Option.some.inj hscope
        rw [not_or] at hinvalid
        refine strip_eq_self (fun c hc => ?_) fun c hc => ?_
        · have hmem : c ∈ formatHextets hextets ++ ['%'] := by
            refine List.mem_of_mem_head? ?_
            rw [IpAddress.str, List.append_cons, List.head?_append_of_ne_nil _ (by simp)] at hc
            exact hc
          rcases List.mem_append.1 hmem with hmem | hmem
          · exact hspace c hmem
          · rw [List.mem_singleton.1 hmem]
            decide
        · refine hlast c ?_
          rw [IpAddress.str, List.append_cons, List.getLast?_append_of_ne_nil _ hinvalid.1] at hc
          rw [eq_address_append_scope hpercent, List.append_cons,
            List.getLast?_append_of_ne_nil _ hinvalid.1]
          exact hc
      · obtain rfl := Option.some.inj hscope
        exact strip_eq_self (fun c hc => hspace c (List.mem_of_mem_head? hc))
          fun c hc => hspace c (List.mem_of_mem_getLast? hc)

/-- The rendered address is clean exactly when the scope that was read is. -/
theorem isClean_str_iff {text : Text} {address : IpAddress} (h : ipAddress text = some address) :
    (∀ c ∈ address.str, isClean c = true) ↔ ∀ c ∈ scopeText text, isClean c = true := by
  rw [ipAddress] at h
  split at h
  · rename_i octets hoctets
    obtain rfl := Option.some.inj h
    have hchars := (parseIPv4_spec hoctets).2.2
    have hscope : scopeText text = [] := by
      have hnone : text.dropWhile (· ≠ '%') = [] := by
        rw [List.dropWhile_eq_nil_iff]
        intro c hc
        rcases hchars c hc with hdigit | rfl
        · have := (isHexDigit_not_separator (isHexDigit_of_isDigit hdigit)).2.2.1
          simpa using this
        · decide
      rw [scopeText, hnone, List.tail_nil]
    refine iff_of_true (fun c hc => ?_) (by simp [hscope])
    rcases isDigit_of_mem_formatIPv4 hc with hdigit | rfl
    · exact (isHexDigit_not_separator (isHexDigit_of_isDigit hdigit)).2.2.2.2
    · decide
  · rw [parseIPv6] at h
    split_ifs at h
    split at h
    · cases h
    · rename_i scope hscope
      obtain ⟨hextets, _, rfl⟩ := Option.map_eq_some_iff.1 h
      have hformat : ∀ c ∈ formatHextets hextets, isClean c = true := by
        intro c hc
        rcases isHexDigit_of_mem_formatHextets hc with hhex | rfl
        · exact (isHexDigit_not_separator hhex).2.2.2.2
        · decide
      rw [splitScopeId] at hscope
      split_ifs at hscope with hpercent hinvalid
      · obtain rfl := Option.some.inj hscope
        have hchar : isClean '%' = true := by decide
        simp only [IpAddress.str, List.mem_append, List.mem_cons]
        constructor
        · exact fun hall c hc => hall c (.inr (.inr hc))
        · rintro hall c (hc | rfl | hc)
          · exact hformat c hc
          · exact hchar
          · exact hall c hc
      · obtain rfl := Option.some.inj hscope
        have hempty : scopeText text = [] := by
          have hall : text.dropWhile (· ≠ '%') = [] := by
            rw [List.dropWhile_eq_nil_iff]
            intro c hc
            simpa using fun heq : c = '%' => hpercent (heq ▸ hc)
          rw [scopeText, hall, List.tail_nil]
        exact iff_of_true hformat (by simp [hempty])

/-! ## Whitespace in an accepted text -/

theorem isHexDigit_of_parseHextet {text : Text} {hextet : ℕ} (h : parseHextet text = some hextet) :
    ∀ c ∈ text, isHexDigit c = true := by
  simp only [parseHextet] at h
  split_ifs at h with hdigits
  simpa using hdigits

/-- A text that a traversal has read is in the domain. -/
theorem exists_of_mem_mapM {α β : Type} {f : α → Option β} {xs : List α} {ys : List β}
    (h : xs.mapM f = some ys) {x : α} (hx : x ∈ xs) : ∃ y, f x = some y := by
  have hmem : f x ∈ ys.map some := mapM_eq_some_iff.1 h ▸ List.mem_map_of_mem hx
  obtain ⟨y, _, hy⟩ := List.mem_map.1 hmem
  exact ⟨y, hy.symm⟩

/-- A position to skip holds an empty part. -/
theorem getElem?_of_mem_skipPositions {parts : List Text} {position : ℕ}
    (h : position ∈ skipPositions parts) : 1 ≤ position ∧ parts[position]? = some [] := by
  obtain ⟨⟨part, index⟩, hmem, rfl⟩ := List.mem_map.1 h
  obtain ⟨hentry, hempty⟩ := List.mem_filter.1 hmem
  simp only [decide_eq_true_eq] at hempty
  subst hempty
  obtain ⟨hfirst, hbound, hpart⟩ := List.mem_zipIdx hentry
  simp only [List.length_dropLast, List.length_tail] at hbound
  rw [List.getElem_dropLast, List.getElem_tail] at hpart
  refine ⟨hfirst, ?_⟩
  rw [hpart, ← List.getElem?_eq_getElem]
  congr 1
  show index = index - 1 + 1
  omega

/-- Every part that was read is empty or a hextet. -/
theorem isHexDigit_of_readParts {parts : List Text} {hextets : List ℕ}
    (h : readParts parts = some hextets) : ∀ part ∈ parts, ∀ c ∈ part, isHexDigit c = true := by
  rw [readParts] at h
  split at h
  · split_ifs at h
    intro part hpart
    obtain ⟨hextet, hread⟩ := exists_of_mem_mapM h hpart
    exact isHexDigit_of_parseHextet hread
  · rename_i skip hskip
    obtain ⟨hfirst, hempty⟩ := @getElem?_of_mem_skipPositions parts skip (by simp [hskip])
    have hbound : skip < parts.length := lt_of_mem_skipPositions (by simp [hskip])
    simp only at h
    generalize hhigh : (if parts.head? = some [] then skip - 1 else skip) = high at h
    generalize hlow : (if parts.getLast? = some [] then parts.length - skip - 2
      else parts.length - skip - 1) = low at h
    split_ifs at h with hhead hlast hroom
    obtain ⟨leading, hleading, trailing, htrailing, _⟩ :
        ∃ leading, (parts.take high).mapM parseHextet = some leading ∧
          ∃ trailing, (parts.drop (parts.length - low)).mapM parseHextet = some trailing ∧
            leading ++ List.replicate (8 - (high + low)) 0 ++ trailing = hextets := by
      simpa [Option.bind_eq_some_iff] using h
    intro part hpart
    obtain ⟨index, hindex, rfl⟩ := List.getElem_of_mem hpart
    by_cases hleft : index < high
    · have hmem : parts[index] ∈ parts.take high := List.mem_take_iff_getElem.2
        ⟨index, by omega, rfl⟩
      obtain ⟨hextet, hread⟩ := exists_of_mem_mapM hleading hmem
      exact isHexDigit_of_parseHextet hread
    · by_cases hright : parts.length - low ≤ index
      · have hmem : parts[index] ∈ parts.drop (parts.length - low) := by
          rw [List.mem_drop_iff_getElem]
          exact ⟨index - (parts.length - low), by omega, by congr 1; omega⟩
        obtain ⟨hextet, hread⟩ := exists_of_mem_mapM htrailing hmem
        exact isHexDigit_of_parseHextet hread
      · -- what is left are the elided part and the endpoints that it touches
        have hplace : index = skip ∨ (index = 0 ∧ parts.head? = some []) ∨
            (index = parts.length - 1 ∧ parts.getLast? = some []) := by
          by_cases hstart : parts.head? = some [] <;> by_cases hend : parts.getLast? = some []
          all_goals
            simp only [hstart, hend, if_true, if_false, true_and, false_and, not_not,
              not_false_eq_true] at hhigh hlow hhead hlast
            simp only [hstart, hend, and_true, and_false, or_false]
            omega
        have hnil : parts[index]? = some [] := by
          rcases hplace with rfl | ⟨rfl, hstart⟩ | ⟨rfl, hend⟩
          · exact hempty
          · rwa [← List.head?_eq_getElem?]
          · rwa [← List.getLast?_eq_getElem?]
        rw [List.getElem?_eq_getElem hindex] at hnil
        simp [Option.some.inj hnil]
  · cases h

/-- What is read as hextets holds no whitespace. -/
theorem isSpace_of_parseHextets {text : Text} {hextets : List ℕ}
    (h : parseHextets text = some hextets) : ∀ c ∈ text, isSpace c = false := by
  have hhex : ∀ c : Char, isHexDigit c = true → isSpace c = false := fun c hc =>
    (isClean_iff.1 (isHexDigit_not_separator hc).2.2.2.2).1
  simp only [parseHextets] at h
  split_ifs at h
  split at h
  · cases h
  · rename_i parts hparts
    split_ifs at h
    have hread := isHexDigit_of_readParts h
    have hall : ∀ part ∈ text.splitOn ':', ∀ c ∈ part, isSpace c = false := by
      unfold expandIPv4Suffix at hparts
      split at hparts
      · obtain rfl := Option.some.inj hparts
        exact fun part hpart c hc => hhex c (hread part hpart c hc)
      · rename_i last hlast
        split_ifs at hparts
        · split at hparts
          · rename_i a b c d hsuffix
            obtain rfl := Option.some.inj hparts
            intro part hpart c hc
            rw [← List.dropLast_append_getLast? last hlast, List.mem_append,
              List.mem_singleton] at hpart
            rcases hpart with hpart | rfl
            · exact hhex c (hread part (List.mem_append_left _ hpart) c hc)
            · rcases (parseIPv4_spec hsuffix).2.2 c hc with hdigit | rfl
              · exact hhex c (isHexDigit_of_isDigit hdigit)
              · decide
          · cases hparts
        · obtain rfl := Option.some.inj hparts
          exact fun part hpart c hc => hhex c (hread part hpart c hc)
    intro c hc
    have hjoin : [':'].intercalate (text.splitOn ':') = text := List.intercalate_splitOn ':'
    rw [← hjoin] at hc
    rcases mem_join hc with rfl | ⟨part, hpart, hmem⟩
    · decide
    · exact hall part hpart c hmem

/-- Whitespace in an accepted text is in its scope. -/
theorem isSpace_of_mem_addressText {text : Text} {address : IpAddress}
    (h : ipAddress text = some address) : ∀ c ∈ addressText text, isSpace c = false := by
  intro c hc
  rw [ipAddress] at h
  split at h
  · rename_i octets hoctets
    rcases (parseIPv4_spec hoctets).2.2 c (List.takeWhile_subset _ hc) with hdigit | rfl
    · exact (isClean_iff.1 (isHexDigit_not_separator (isHexDigit_of_isDigit hdigit)).2.2.2.2).1
    · decide
  · rw [parseIPv6] at h
    split_ifs at h
    split at h
    · cases h
    · obtain ⟨hextets, hhextets, _⟩ := Option.map_eq_some_iff.1 h
      exact isSpace_of_parseHextets hhextets c hc

theorem addressText_eq_self {text : Text} (h : '%' ∉ text) : addressText text = text :=
  List.takeWhile_eq_self_iff.2 fun c hc => by simpa using fun heq : c = '%' => h (heq ▸ hc)

/-- An accepted text does not begin with whitespace. -/
theorem isSpace_of_head?_of_ipAddress {text : Text} {address : IpAddress}
    (h : ipAddress text = some address) : ∀ c ∈ text.head?, isSpace c = false := by
  intro c hc
  by_cases hpercent : '%' ∈ text
  · rw [eq_address_append_scope hpercent, List.append_cons,
      List.head?_append_of_ne_nil _ (by simp)] at hc
    rcases List.mem_append.1 (List.mem_of_mem_head? hc) with hmem | hmem
    · exact isSpace_of_mem_addressText h c hmem
    · rw [List.mem_singleton.1 hmem]
      decide
  · exact isSpace_of_mem_addressText h c
      ((addressText_eq_self hpercent).symm ▸ List.mem_of_mem_head? hc)

/-- The scope is kept to its last character. -/
theorem getLast?_str_of_ipAddress {text : Text} {address : IpAddress} (hpercent : '%' ∈ text)
    (h : ipAddress text = some address) : address.str.getLast? = text.getLast? := by
  rw [ipAddress] at h
  split at h
  · rename_i octets hoctets
    rcases (parseIPv4_spec hoctets).2.2 '%' hpercent with hdigit | heq
    · exact absurd hdigit (by decide)
    · exact absurd heq (by decide)
  · rw [parseIPv6] at h
    split_ifs at h
    rw [splitScopeId, if_pos hpercent] at h
    split at h
    · cases h
    · rename_i scope hscope
      split_ifs at hscope with hinvalid
      obtain rfl := Option.some.inj hscope
      obtain ⟨hextets, _, rfl⟩ := Option.map_eq_some_iff.1 h
      rw [not_or] at hinvalid
      have htext : text.getLast? = (scopeText text).getLast? := by
        conv_lhs => rw [eq_address_append_scope hpercent, List.append_cons]
        exact List.getLast?_append_of_ne_nil _ hinvalid.1
      rw [IpAddress.str, List.append_cons, List.getLast?_append_of_ne_nil _ hinvalid.1, htext]

/-- **Stripping an address.** It changes what is written exactly when it changes what is read. -/
theorem str_strip_eq_iff {text : Text} {address stripped : IpAddress}
    (h : ipAddress text = some address) (hstripped : ipAddress (strip text) = some stripped) :
    stripped.str = address.str ↔ strip text = text := by
  constructor
  · intro hsame
    refine strip_eq_self (isSpace_of_head?_of_ipAddress h) fun c hc => ?_
    by_cases hpercent : '%' ∈ text
    · have hclean : strip stripped.str = stripped.str :=
        strip_str_of_ipAddress (fun _ => isSpace_of_getLast?_strip) hstripped
      rw [← getLast?_str_of_ipAddress hpercent h, ← hsame, ← hclean] at hc
      exact isSpace_of_getLast?_strip hc
    · exact isSpace_of_mem_addressText h c
        ((addressText_eq_self hpercent).symm ▸ List.mem_of_mem_getLast? hc)
  · intro hstrip
    rw [hstrip, h] at hstripped
    rw [Option.some.inj hstripped]

end Wolt.Python
