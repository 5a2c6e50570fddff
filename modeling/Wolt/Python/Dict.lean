/-
# Dictionaries

A Python `dict` with text keys, as the list of its items in insertion order. Assignment replaces the
value of a key in place and appends a new key, so that a dictionary that starts without duplicate
keys never gets any.
-/

import Wolt.Python.Text
import Mathlib.Data.List.Sort

namespace Wolt.Python

/-- The items of a `dict`, in insertion order. -/
abbrev Dict (V : Type) := List (Text × V)

namespace Dict

variable {V : Type}

/-- `dict.get(key)`. -/
def get (dict : Dict V) (key : Text) : Option V :=
  dict.lookup key

/-- `dict[key] = value`. -/
def set (dict : Dict V) (key : Text) (value : V) : Dict V :=
  match dict with
  | [] => [(key, value)]
  | (k, v) :: rest => if k = key then (key, value) :: rest else (k, v) :: set rest key value

/-- `dict.pop(key)`, without the value. -/
def pop (dict : Dict V) (key : Text) : Dict V := dict.filter fun item => item.1 ≠ key

/-- The keys of a `dict`. -/
def keys (dict : Dict V) : List Text := dict.map Prod.fst

@[simp] theorem get_nil (key : Text) : get ([] : Dict V) key = none := rfl

@[simp] theorem get_cons (key k : Text) (v : V) (dict : Dict V) :
    get ((k, v) :: dict) key = if key = k then some v else get dict key := by
  simp only [get, List.lookup_cons]
  by_cases h : key = k
  · simp [h]
  · simp [h, beq_eq_false_iff_ne.2 h]

/-- Reading back what was assigned. -/
theorem get_set (dict : Dict V) (key other : Text) (value : V) :
    (dict.set key value).get other = if other = key then some value else dict.get other := by
  induction dict with
  | nil => simp [set]
  | cons item dict ih =>
      obtain ⟨k, v⟩ := item
      by_cases hk : k = key
      · subst hk
        by_cases hother : other = k <;> simp [set, hother]
      · by_cases hother : other = k
        · subst hother
          simp [set, hk]
        · simp [set, hk, hother, ih]

theorem mem_of_get {dict : Dict V} {key : Text} {value : V} (h : dict.get key = some value) :
    (key, value) ∈ dict := by
  induction dict with
  | nil => cases h
  | cons item dict ih =>
      obtain ⟨k, v⟩ := item
      rw [get_cons] at h
      split at h
      · rename_i hkey
        rw [hkey, Option.some.inj h]
        exact List.mem_cons_self
      · exact List.mem_cons_of_mem _ (ih h)

/-- An assignment keeps the keys or appends one. -/
theorem keys_set (dict : Dict V) (key : Text) (value : V) :
    (dict.set key value).keys = if key ∈ dict.keys then dict.keys else dict.keys ++ [key] := by
  induction dict with
  | nil => simp [set, keys]
  | cons item dict ih =>
      obtain ⟨k, v⟩ := item
      by_cases hk : k = key
      · simp [set, keys, hk]
      · have hcons : set ((k, v) :: dict) key value = (k, v) :: set dict key value := by
          simp [set, hk]
        have hkeys : ∀ rest : Dict V, keys ((k, v) :: rest) = k :: keys rest := fun _ => rfl
        rw [hcons, hkeys, hkeys, ih]
        by_cases hmem : key ∈ keys dict
        · simp [hmem]
        · simp [hmem, Ne.symm hk]

theorem nodup_keys_set {dict : Dict V} (h : dict.keys.Nodup) (key : Text) (value : V) :
    (dict.set key value).keys.Nodup := by
  rw [keys_set]
  split
  · exact h
  · rename_i hkey
    refine List.nodup_append.2 ⟨h, by simp, fun other hother new hnew heq => ?_⟩
    rw [heq, List.mem_singleton.1 hnew] at hother
    exact hkey hother

/-- With unique keys, looking up is membership. -/
theorem get_eq_some_iff {dict : Dict V} (h : dict.keys.Nodup) {key : Text} {value : V} :
    dict.get key = some value ↔ (key, value) ∈ dict := by
  refine ⟨mem_of_get, fun hmem => ?_⟩
  induction dict with
  | nil => cases hmem
  | cons item dict ih =>
      obtain ⟨k, v⟩ := item
      obtain ⟨hnotin, hnodup⟩ := List.nodup_cons.1 h
      rw [get_cons]
      rcases List.mem_cons.1 hmem with heq | hmem
      · obtain ⟨rfl, rfl⟩ := Prod.mk.inj heq
        simp
      · have hne : key ≠ k := fun hkey => hnotin (List.mem_map.2 ⟨_, hmem, hkey⟩)
        rw [if_neg hne]
        exact ih hnodup hmem

/-- The order of the items does not matter to a reader. -/
theorem get_perm {dict dict' : Dict V} (h : dict.Perm dict') (hnodup : dict.keys.Nodup)
    (key : Text) : dict'.get key = dict.get key := by
  have hnodup' : dict'.keys.Nodup := (h.map Prod.fst).nodup_iff.1 hnodup
  refine Option.ext fun value => ?_
  rw [get_eq_some_iff hnodup', get_eq_some_iff hnodup, h.mem_iff]

/-- `a <= b` for texts, by code points. -/
def textLe : Text → Text → Bool
  | [], _ => true
  | _ :: _, [] => false
  | a :: as, b :: bs => a.toNat < b.toNat || (a = b && textLe as bs)

theorem textLe_total (a b : Text) : textLe a b = true ∨ textLe b a = true := by
  induction a generalizing b with
  | nil => exact .inl (by cases b <;> rfl)
  | cons x a ih =>
      cases b with
      | nil => exact .inr rfl
      | cons y b =>
          simp only [textLe, Bool.or_eq_true, Bool.and_eq_true, decide_eq_true_eq]
          rcases Nat.lt_trichotomy x.toNat y.toNat with hlt | heq | hgt
          · exact .inl (.inl hlt)
          · have hxy : x = y := Char.ext (UInt32.toNat_inj.1 heq)
            rcases ih b with h | h
            · exact .inl (.inr ⟨hxy, h⟩)
            · exact .inr (.inr ⟨hxy.symm, h⟩)
          · exact .inr (.inl hgt)

theorem textLe_trans {a b c : Text} (hab : textLe a b = true) (hbc : textLe b c = true) :
    textLe a c = true := by
  induction a generalizing b c with
  | nil => cases c <;> rfl
  | cons x a ih =>
      cases b with
      | nil => cases hab
      | cons y b =>
          cases c with
          | nil => cases hbc
          | cons z c =>
              simp only [textLe, Bool.or_eq_true, Bool.and_eq_true, decide_eq_true_eq] at hab hbc ⊢
              rcases hab with hxy | ⟨rfl, hab⟩
              · rcases hbc with hyz | ⟨rfl, _⟩
                · exact .inl (Nat.lt_trans hxy hyz)
                · exact .inl hxy
              · rcases hbc with hyz | ⟨rfl, hbc⟩
                · exact .inl hyz
                · exact .inr ⟨rfl, ih hab hbc⟩

/-- The items as `json.dumps(..., sort_keys=True)` writes them. -/
def sortKeys (dict : Dict V) : Dict V :=
  dict.insertionSort fun item item' => textLe item.1 item'.1 = true

theorem sortKeys_perm (dict : Dict V) : dict.sortKeys.Perm dict :=
  List.perm_insertionSort _ dict

/-- Sorting twice is sorting once. -/
theorem sortKeys_sortKeys (dict : Dict V) : dict.sortKeys.sortKeys = dict.sortKeys := by
  have htotal : Std.Total fun item item' : Text × V => textLe item.1 item'.1 = true :=
    ⟨fun item item' => textLe_total item.1 item'.1⟩
  have htrans : IsTrans (Text × V) fun item item' => textLe item.1 item'.1 = true :=
    ⟨fun _ _ _ => textLe_trans⟩
  exact List.Pairwise.insertionSort_eq (List.pairwise_insertionSort _ dict)

/-- The items are in the order of their keys. -/
theorem pairwise_sortKeys (dict : Dict V) :
    dict.sortKeys.Pairwise fun item item' => textLe item.1 item'.1 = true := by
  have htotal : Std.Total fun item item' : Text × V => textLe item.1 item'.1 = true :=
    ⟨fun item item' => textLe_total item.1 item'.1⟩
  have htrans : IsTrans (Text × V) fun item item' => textLe item.1 item'.1 = true :=
    ⟨fun _ _ _ => textLe_trans⟩
  exact List.pairwise_insertionSort _ dict

theorem textLe_antisymm {a b : Text} (hab : textLe a b = true) (hba : textLe b a = true) :
    a = b := by
  induction a generalizing b with
  | nil =>
      cases b with
      | nil => rfl
      | cons y b => cases hba
  | cons x a ih =>
      cases b with
      | nil => cases hab
      | cons y b =>
          simp only [textLe, Bool.or_eq_true, Bool.and_eq_true, decide_eq_true_eq] at hab hba
          rcases hab with hlt | ⟨rfl, hab⟩
          · rcases hba with hgt | ⟨rfl, -⟩
            · exact absurd hlt (Nat.lt_asymm hgt)
            · exact absurd hlt (Nat.lt_irrefl _)
          · rcases hba with hlt | ⟨-, hba⟩
            · exact absurd hlt (Nat.lt_irrefl _)
            · rw [ih hab hba]

/-- Assigning a new key appends it. -/
theorem set_of_notMem {dict : Dict V} {key : Text} (h : key ∉ dict.keys) (value : V) :
    dict.set key value = dict ++ [(key, value)] := by
  induction dict with
  | nil => rfl
  | cons item dict ih =>
      obtain ⟨k, v⟩ := item
      obtain ⟨hne, hrest⟩ := not_or.1 (mt List.mem_cons.2 h)
      rw [set, if_neg (Ne.symm hne), ih hrest]
      rfl

/-- An assignment passes over the items before the key. -/
theorem set_append_of_notMem {before : Dict V} {key : Text} (h : key ∉ before.keys)
    (after : Dict V) (value : V) :
    set (before ++ after) key value = before ++ after.set key value := by
  induction before with
  | nil => rfl
  | cons item before ih =>
      obtain ⟨k, v⟩ := item
      obtain ⟨hne, hrest⟩ := not_or.1 (mt List.mem_cons.2 h)
      rw [List.cons_append, set, if_neg (Ne.symm hne), ih hrest]
      rfl

theorem mem_keys_iff_get {dict : Dict V} {key : Text} :
    key ∈ dict.keys ↔ ∃ value, dict.get key = some value := by
  induction dict with
  | nil => simp [keys]
  | cons item dict ih =>
      obtain ⟨k, v⟩ := item
      have hkeys : keys ((k, v) :: dict) = k :: keys dict := rfl
      rw [hkeys, List.mem_cons, get_cons, ih]
      by_cases hk : key = k <;> simp [hk]

/-- Two dictionaries that a reader cannot tell apart have the same items. -/
theorem perm_of_get {dict dict' : Dict V} (h : dict.keys.Nodup) (h' : dict'.keys.Nodup)
    (hget : ∀ key, dict.get key = dict'.get key) : dict.Perm dict' := by
  refine (List.perm_ext_iff_of_nodup (.of_map _ h) (.of_map _ h')).2 fun item => ?_
  obtain ⟨key, value⟩ := item
  rw [← get_eq_some_iff h, ← get_eq_some_iff h', hget]

/-- What is left after a key was taken out. -/
theorem get_pop (dict : Dict V) (key other : Text) :
    (dict.pop key).get other = if other = key then none else dict.get other := by
  induction dict with
  | nil => simp [pop]
  | cons item dict ih =>
      obtain ⟨k, v⟩ := item
      by_cases hk : k = key
      · subst hk
        have hrest : pop ((k, v) :: dict) k = pop dict k := by simp [pop]
        rw [hrest, ih, get_cons]
        by_cases hother : other = k <;> simp [hother]
      · have hrest : pop ((k, v) :: dict) key = (k, v) :: pop dict key := by simp [pop, hk]
        rw [hrest, get_cons, get_cons, ih]
        by_cases hother : other = k
        · simp [hother, hk]
        · simp [hother]

end Dict

end Wolt.Python
