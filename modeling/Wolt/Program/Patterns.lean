/-
# Patterns with wildcards

Patterns over an alphabet, as a list of what they ask for one after the other: a given letter, any
one letter, or any letters. Letters are compared by a function of the caller, so that a pattern can
be matched up to case. A word between two wildcards for any letters asks for the word as a part of
the text, and every pattern has a text with no more letters than it asks for.
-/

import Mathlib.Data.List.Forall2
import Mathlib.Data.List.Infix
import Mathlib.Tactic.Common

/-- What a pattern asks for next. -/
inductive Wildcard (A : Type)
  | exactly (a : A)
  | one
  | many
  deriving DecidableEq

namespace Wildcard

variable {A : Type} (same : A → A → Bool)

/-- The text is what the pattern asks for. -/
def accepts : List (Wildcard A) → List A → Bool
  | [], text => text.isEmpty
  | exactly _ :: _, [] => false
  | exactly a :: rest, b :: text => same a b && accepts rest text
  | one :: _, [] => false
  | one :: rest, _ :: text => accepts rest text
  | many :: rest, text => text.tails.any fun suffix => accepts rest suffix

/-- The word is a part of the text. -/
def Occurs (word text : List A) : Prop :=
  ∃ part, part <:+: text ∧ List.Forall₂ (fun a b => same a b = true) word part

variable {same}

section Accepts

variable {rest : List (Wildcard A)} {text : List A}

theorem accepts_many_cons :
    accepts same (many :: rest) text = true ↔ ∃ suffix, suffix <:+ text ∧ accepts same rest suffix =
      true := by
  simp [accepts]

theorem accepts_many : accepts same [many] text = true :=
  accepts_many_cons.2 ⟨[], List.nil_suffix, rfl⟩

/-- A wildcard for any letters may stand for none. -/
theorem accepts_many_cons_of_accepts (h : accepts same rest text = true) :
    accepts same (many :: rest) text = true :=
  accepts_many_cons.2 ⟨text, List.suffix_refl text, h⟩

theorem accepts_exactly_append {word : List A} :
    accepts same (word.map exactly ++ rest) text = true ↔
      ∃ part after, text = part ++ after ∧ List.Forall₂ (fun a b => same a b = true) word part ∧
        accepts same rest after = true := by
  induction word generalizing text with
  | nil => simp
  | cons a word ih =>
      cases text with
      | nil =>
          constructor
          · intro h
            simp [accepts] at h
          · rintro ⟨part, after, htext, hpart, -⟩
            obtain ⟨rfl, -⟩ := List.append_eq_nil_iff.1 htext.symm
            cases hpart
      | cons b text =>
          rw [List.map_cons, List.cons_append, accepts, Bool.and_eq_true, ih]
          constructor
          · rintro ⟨hab, part, after, rfl, hpart, hafter⟩
            exact ⟨b :: part, after, rfl, .cons hab hpart, hafter⟩
          · rintro ⟨part, after, htext, hpart, hafter⟩
            cases hpart with
            | cons hab hpart =>
                obtain ⟨rfl, rfl⟩ := List.cons.inj htext
                exact ⟨hab, _, after, rfl, hpart, hafter⟩

/-- A word between two wildcards for any letters asks for the word as a part. -/
theorem accepts_many_exactly_many {word : List A} :
    accepts same (many :: (word.map exactly ++ [many])) text = true ↔ Occurs same word text := by
  rw [accepts_many_cons]
  constructor
  · rintro ⟨suffix, ⟨before, rfl⟩, hsuffix⟩
    obtain ⟨part, after, rfl, hpart, -⟩ := accepts_exactly_append.1 hsuffix
    exact ⟨part, ⟨before, after, List.append_assoc ..⟩, hpart⟩
  · rintro ⟨part, ⟨before, after, rfl⟩, hpart⟩
    exact ⟨part ++ after, ⟨before, (List.append_assoc ..).symm⟩,
      accepts_exactly_append.2 ⟨part, after, rfl, hpart, accepts_many⟩⟩

end Accepts

/-! ## The shortest text -/

/-- The letters that a pattern asks for, with `filler` for any one letter. -/
def letters (filler : A) : List (Wildcard A) → List A
  | [] => []
  | exactly a :: rest => a :: letters filler rest
  | one :: rest => filler :: letters filler rest
  | many :: rest => letters filler rest

theorem accepts_letters (hsame : ∀ a, same a a = true) (filler : A) (pattern : List (Wildcard A)) :
    accepts same pattern (letters filler pattern) = true := by
  induction pattern with
  | nil => rfl
  | cons wildcard rest ih =>
      cases wildcard with
      | exactly a => rw [letters, accepts, hsame, ih, Bool.and_self]
      | one => rwa [letters, accepts]
      | many => exact accepts_many_cons_of_accepts ih

/-- A word that is a part of a text no longer than the word is that text. -/
theorem Occurs.forall₂_of_length_le {word text : List A} (h : Occurs same word text)
    (hlength : text.length ≤ word.length) :
    List.Forall₂ (fun a b => same a b = true) word text := by
  obtain ⟨part, hinfix, hpart⟩ := h
  have htext : part = text := hinfix.eq_of_length_le (hpart.length_eq ▸ hlength)
  exact htext ▸ hpart

end Wildcard
