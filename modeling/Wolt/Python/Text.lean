/-
# Python text

The string operations of the language that the modelled programs call, on lists of Unicode scalar
values: `str.strip`, `str.split` at whitespace and at a separator, `str.splitlines`, and the decimal
and hexadecimal renderings of a number. Character classes follow the documented tables of the
language, so a claim about "no separator" ranges over every separator the language knows.
-/

import Mathlib.Data.List.DropRight
import Mathlib.Tactic.Common

namespace Wolt.Python

/-- A Python string. Texts are lists so that parsers are structural recursions. -/
abbrev Text := List Char

instance : LawfulBEq Text := inferInstanceAs (LawfulBEq (List Char))

/-! ## Character classes -/

/-- `str.isspace` of one character. -/
def isSpace (c : Char) : Bool :=
  let n := c.toNat
  (9 ≤ n && n ≤ 13) || (28 ≤ n && n ≤ 32) || n == 0x85 || n == 0xA0 || n == 0x1680 ||
    (0x2000 ≤ n && n ≤ 0x200A) || n == 0x2028 || n == 0x2029 || n == 0x202F || n == 0x205F ||
    n == 0x3000

/-- Unicode general category `Cc`. -/
def isControl (c : Char) : Bool :=
  let n := c.toNat
  n ≤ 31 || (127 ≤ n && n ≤ 159)

/-- The line boundaries of `str.splitlines`. -/
def isLineBreak (c : Char) : Bool :=
  let n := c.toNat
  (10 ≤ n && n ≤ 13) || (28 ≤ n && n ≤ 30) || n == 0x85 || n == 0x2028 || n == 0x2029

/-- A character that neither separates words nor controls the terminal. -/
def isClean (c : Char) : Bool :=
  !isSpace c && !isControl c

theorem toNat_of_isAlpha {c : Char} (h : c.isAlpha = true) :
    (65 ≤ c.toNat ∧ c.toNat ≤ 90) ∨ (97 ≤ c.toNat ∧ c.toNat ≤ 122) := by
  rcases (Bool.or_eq_true c.isUpper c.isLower).mp h with hupper | hlower
  · have hbounds : c.val ≥ 'A'.val ∧ c.val ≤ 'Z'.val := of_decide_eq_true hupper
    exact .inl ⟨UInt32.le_iff_toNat_le.1 hbounds.1, UInt32.le_iff_toNat_le.1 hbounds.2⟩
  · obtain ⟨hstart, hstop⟩ :=
      (Bool.and_eq_true (decide (c.val ≥ 'a'.val)) (decide (c.val ≤ 'z'.val))).mp hlower
    exact .inr ⟨UInt32.le_iff_toNat_le.1 (of_decide_eq_true hstart),
      UInt32.le_iff_toNat_le.1 (of_decide_eq_true hstop)⟩

/-- Every line boundary is whitespace, so a text without whitespace is one line. -/
theorem isSpace_of_isLineBreak {c : Char} (h : isLineBreak c = true) : isSpace c = true := by
  simp only [isLineBreak, isSpace, Bool.or_eq_true, Bool.and_eq_true, decide_eq_true_eq,
    beq_iff_eq] at h ⊢
  omega

theorem isClean_iff {c : Char} : isClean c = true ↔ isSpace c = false ∧ isControl c = false := by
  simp [isClean]

theorem isLineBreak_eq_false_of_isSpace_eq_false {c : Char} (h : isSpace c = false) :
    isLineBreak c = false := by
  by_contra hbreak
  simp [isSpace_of_isLineBreak (Bool.not_eq_false _ ▸ hbreak)] at h

/-! ## Stripping and splitting -/

/-- `str.strip()`. -/
def strip (text : Text) : Text :=
  (text.dropWhile isSpace).rdropWhile isSpace

/-- `str.lstrip()`. -/
def lstrip (text : Text) : Text := text.dropWhile isSpace

/-- `str.split()`: the maximal runs of non-whitespace. -/
def split (text : Text) : List Text :=
  (text.splitOnP isSpace).filter (· ≠ [])

/-- `str.splitlines()`. -/
def splitlines : Text → List Text
  | [] => []
  | '\r' :: '\n' :: rest => [] :: splitlines rest
  | c :: rest =>
      if isLineBreak c then [] :: splitlines rest
      else
        match splitlines rest with
        | [] => [[c]]
        | line :: lines => (c :: line) :: lines

/-- `sep.join(parts)` for a one-character separator. -/
def join (separator : Char) (parts : List Text) : Text :=
  [separator].intercalate parts

/-- A text that neither begins nor ends with whitespace is stripped already. -/
theorem strip_eq_self {text : Text} (hhead : ∀ c ∈ text.head?, isSpace c = false)
    (hlast : ∀ c ∈ text.getLast?, isSpace c = false) : strip text = text := by
  have hleft : text.dropWhile isSpace = text := by
    cases text with
    | nil => rfl
    | cons c text => simp [hhead c rfl]
  rw [strip, hleft, List.rdropWhile_eq_self_iff]
  intro hne
  simpa using hlast _ (List.getLast?_eq_some_getLast hne)

/-- A stripped text does not end with whitespace. -/
theorem isSpace_of_getLast?_strip {text : Text} {c : Char} (h : c ∈ (strip text).getLast?) :
    isSpace c = false := by
  have hne : strip text ≠ [] := by
    intro hempty
    simp [hempty] at h
  have hlast := List.rdropWhile_last_not isSpace (text.dropWhile isSpace) hne
  rw [Option.mem_def, List.getLast?_eq_some_getLast hne] at h
  rw [← Option.some.inj h]
  exact Bool.not_eq_true _ ▸ hlast

/-- A stripped text does not begin with whitespace. -/
theorem isSpace_of_head?_strip {text : Text} {c : Char} (h : c ∈ (strip text).head?) :
    isSpace c = false := by
  obtain ⟨rest, hrest⟩ := List.rdropWhile_prefix isSpace (text.dropWhile isSpace)
  have hstrip : (List.rdropWhile isSpace (text.dropWhile isSpace)).head? = some c := h
  have hleft : (text.dropWhile isSpace).head? = some c := by
    rw [← hrest, List.head?_append, hstrip, Option.some_or]
  have hhead := List.head?_dropWhile_not isSpace text
  rw [hleft] at hhead
  simpa using hhead

theorem strip_subset (text : Text) : strip text ⊆ text :=
  List.Subset.trans (List.rdropWhile_prefix ..).subset (List.dropWhile_suffix ..).subset

/-- Stripping takes whitespace away and nothing else. -/
theorem mem_strip {text : Text} {c : Char} (hspace : isSpace c = false) :
    c ∈ strip text ↔ c ∈ text := by
  have hleft : ∀ {text : Text}, c ∈ text.dropWhile isSpace ↔ c ∈ text := by
    intro text
    induction text with
    | nil => rfl
    | cons first rest ih =>
        rw [List.dropWhile_cons]
        split
        · rename_i hfirst
          have hne : c ≠ first := by
            rintro rfl
            rw [hspace] at hfirst
            cases hfirst
          rw [ih, List.mem_cons, or_iff_right hne]
        · rfl
  rw [strip, List.rdropWhile, List.mem_reverse, hleft, List.mem_reverse, hleft]

/-- Stripping twice is stripping once. -/
theorem strip_strip (text : Text) : strip (strip text) = strip text :=
  strip_eq_self (fun _ hc => isSpace_of_head?_strip hc) fun _ hc => isSpace_of_getLast?_strip hc

/-- A character of a joined text is the separator or belongs to a part. -/
theorem mem_join {separator c : Char} {parts : List Text} (hc : c ∈ join separator parts) :
    c = separator ∨ ∃ part ∈ parts, c ∈ part := by
  induction parts with
  | nil => simp [join] at hc
  | cons part parts ih =>
      cases parts with
      | nil => exact .inr ⟨part, by simp, by simpa [join] using hc⟩
      | cons next parts =>
          rw [join, List.intercalate_cons_cons, List.append_assoc, List.mem_append] at hc
          rcases hc with hc | hc
          · exact .inr ⟨part, by simp, hc⟩
          · rcases List.mem_cons.1 hc with hc | hc
            · exact .inl hc
            · rcases ih hc with hsep | ⟨other, hother, hmem⟩
              · exact .inl hsep
              · exact .inr ⟨other, by simp [hother], hmem⟩

/-- One word between blanks is that word. -/
theorem split_of_forall {word : Text} (hne : word ≠ [])
    (h : ∀ c ∈ word, isSpace c = false) : split word = [word] := by
  rw [split, List.splitOnP_eq_singleton h]
  simp [hne]

/-- Words split at a blank. -/
theorem split_append_space (before after : Text) :
    split (before ++ ' ' :: after) = split before ++ split after := by
  rw [split, List.splitOnP_append_cons before after (by decide), List.filter_append]
  rfl

/-- Joining words with one blank and splitting again gives the words back. -/
theorem split_join {words : List Text}
    (h : ∀ word ∈ words, word ≠ [] ∧ ∀ c ∈ word, isSpace c = false) :
    split (join ' ' words) = words := by
  induction words with
  | nil => decide
  | cons word words ih =>
      obtain ⟨hne, hword⟩ := h word (by simp)
      have hrest := ih fun w hw => h w (by simp [hw])
      cases words with
      | nil => simpa [join] using split_of_forall hne hword
      | cons next words =>
          have hjoin : join ' ' (word :: next :: words) =
              word ++ ' ' :: join ' ' (next :: words) := by
            simp [join, List.intercalate_cons_cons]
          rw [hjoin, split_append_space, split_of_forall hne hword, hrest]
          rfl

/-- Splitting only drops whitespace: the words, put together, are the other characters. -/
theorem flatten_split (text : Text) :
    (split text).flatten = text.filter (fun c => !isSpace c) := by
  have hpieces (t : Text) : (t.splitOnP isSpace).flatten = t.filter (fun c => !isSpace c) := by
    induction t with
    | nil => simp
    | cons c t ih =>
        rw [List.splitOnP_cons_eq_if_modifyHead]
        cases hc : isSpace c with
        | true => simpa [hc] using ih
        | false =>
            cases hp : t.splitOnP isSpace with
            | nil => exact absurd hp (List.splitOnP_ne_nil isSpace t)
            | cons piece pieces => simpa [hc, hp] using ih
  have hempty (pieces : List Text) : (pieces.filter (· ≠ [])).flatten = pieces.flatten := by
    induction pieces with
    | nil => rfl
    | cons piece pieces ih => cases piece <;> simpa using ih
  rw [split, hempty, hpieces]

/-- No word of a split contains whitespace. -/
theorem isSpace_eq_false_of_mem_split {text word : Text} (hword : word ∈ split text) :
    ∀ c ∈ word, isSpace c = false := by
  intro c hc
  have hflat : c ∈ (split text).flatten := List.mem_flatten.2 ⟨word, hword, hc⟩
  rw [flatten_split, List.mem_filter] at hflat
  simpa using hflat.2

/-! ## Lines -/

/-- A clean line ends at the newline after it. -/
theorem splitlines_append_newline {line : Text} (h : ∀ c ∈ line, isLineBreak c = false)
    (rest : Text) : splitlines (line ++ '\n' :: rest) = line :: splitlines rest := by
  induction line with
  | nil => rfl
  | cons c line ih =>
      have hc : isLineBreak c = false := h c (by simp)
      have hcr : c ≠ '\r' := by rintro rfl; revert hc; decide
      have htail := ih fun d hd => h d (by simp [hd])
      rw [List.cons_append, splitlines.eq_3 _ _ (by simp [hcr]), if_neg (by simp [hc]), htail]

/-- A non-empty text without a line boundary is its own only line. -/
theorem splitlines_of_forall {line : Text} (hne : line ≠ [])
    (h : ∀ c ∈ line, isLineBreak c = false) : splitlines line = [line] := by
  induction line with
  | nil => exact absurd rfl hne
  | cons c line ih =>
      have hc : isLineBreak c = false := h c (by simp)
      have hcr : c ≠ '\r' := by rintro rfl; revert hc; decide
      rw [splitlines.eq_3 _ _ (by simp [hcr]), if_neg (by simp [hc])]
      cases line with
      | nil => rfl
      | cons d line => rw [ih (by simp) fun e he => h e (by simp [he])]

/-- `"\n".join(lines) + "\n"`, as the programs write a text file. -/
def joinLines (lines : List Text) : Text :=
  join '\n' lines ++ ['\n']

/-- Lines written out are read back unchanged. -/
theorem splitlines_joinLines {lines : List Text} (hne : lines ≠ [])
    (h : ∀ line ∈ lines, ∀ c ∈ line, isLineBreak c = false) :
    splitlines (joinLines lines) = lines := by
  induction lines with
  | nil => exact absurd rfl hne
  | cons line lines ih =>
      have hline := h line (by simp)
      cases lines with
      | nil => simpa [joinLines, join, splitlines] using splitlines_append_newline hline []
      | cons next lines =>
          have hjoin : joinLines (line :: next :: lines) =
              line ++ '\n' :: joinLines (next :: lines) := by
            simp [joinLines, join, List.intercalate_cons_cons]
          rw [hjoin, splitlines_append_newline hline,
            ih (by simp) fun l hl => h l (by simp [hl])]

/-- No line of a text contains a line boundary. -/
theorem isLineBreak_eq_false_of_mem_splitlines {text line : Text}
    (hline : line ∈ splitlines text) : ∀ c ∈ line, isLineBreak c = false := by
  induction text using splitlines.induct generalizing line with
  | case1 => simp [splitlines] at hline
  | case2 rest ih =>
      rw [splitlines] at hline
      rcases List.mem_cons.1 hline with rfl | hline
      · simp
      · exact ih hline
  | case3 c rest hcr hbreak ih =>
      rw [splitlines.eq_3 _ _ hcr, if_pos hbreak] at hline
      rcases List.mem_cons.1 hline with rfl | hline
      · simp
      · exact ih hline
  | case4 c rest hcr hbreak hnil ih =>
      rw [splitlines.eq_3 _ _ hcr, if_neg hbreak, hnil] at hline
      simp only [List.mem_singleton] at hline
      subst hline
      simpa using hbreak
  | case5 c rest hcr hbreak first lines hcons ih =>
      rw [splitlines.eq_3 _ _ hcr, if_neg hbreak, hcons] at hline
      rcases List.mem_cons.1 hline with rfl | hline
      · intro d hd
        rcases List.mem_cons.1 hd with rfl | hd
        · simpa using hbreak
        · exact ih (by simp [hcons]) d hd
      · exact ih (by simp [hcons, hline])

end Wolt.Python
