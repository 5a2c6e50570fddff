/-
# Tables

Database tables as finite maps from a primary key to the other columns of a row. Mathlib's
association lists carry the uniqueness of the key; what is added here are the statements that a
`WHERE` clause needs, over all rows, and the update of one row in place.
-/

import Mathlib.Data.List.AList

/-- A table whose primary key is a number. -/
abbrev Table (Row : Type) : Type := AList fun _ : ℕ => Row

namespace Table

variable {Row : Type} (table : Table Row) (p : Row → Bool)

/-- `SELECT count(*) ... WHERE p`. -/
def count : ℕ := table.entries.countP fun entry => p entry.2

/-- `SELECT id ... WHERE p`, the first of them. -/
def find : Option ℕ := (table.entries.find? fun entry => p entry.2).map Sigma.fst

/-- `INSERT`, which never replaces a row. -/
def add (key : ℕ) (row : Row) : Table Row :=
  match table.lookup key with
  | none => table.insert key row
  | some _ => table

/-- `UPDATE ... WHERE id = key`, which does nothing when there is no such row. -/
def update (key : ℕ) (change : Row → Row) : Table Row :=
  match table.lookup key with
  | none => table
  | some row => table.insert key (change row)

/-- `DELETE ... WHERE p`. -/
def deleteWhere : Table Row :=
  ((table.entries.filter fun entry => p entry.2).map Sigma.fst).foldl
    (fun table key => table.erase key) table

variable {table p}

theorem mem_entries_iff {key : ℕ} {row : Row} :
    (⟨key, row⟩ : (_ : ℕ) × Row) ∈ table.entries ↔ table.lookup key = some row :=
  AList.mem_lookup_iff.symm

theorem lookup_insert (key other : ℕ) (row : Row) :
    (table.insert key row).lookup other = if other = key then some row else table.lookup other := by
  by_cases h : other = key
  · subst h
    simp
  · simp [h, AList.lookup_insert_ne h]

/-- The rows of a table after an `INSERT`. -/
theorem lookup_add (key other : ℕ) (row : Row) :
    (table.add key row).lookup other =
      (table.lookup other <|> if other = key then some row else none) := by
  unfold add
  split
  · rename_i hnone
    rw [lookup_insert]
    by_cases h : other = key
    · subst h
      simp [hnone]
    · cases hother : table.lookup other <;> simp [h]
  · rename_i old hold
    by_cases h : other = key
    · subst h
      simp [hold]
    · cases hother : table.lookup other <;> simp [h]

/-- A row after an `INSERT` was there before or is the new one. -/
theorem lookup_add_eq_some {key other : ℕ} {row found : Row}
    (h : (table.add key row).lookup other = some found) :
    table.lookup other = some found ∨ other = key ∧ found = row := by
  rw [lookup_add] at h
  cases hother : table.lookup other with
  | none =>
      rw [hother] at h
      by_cases hkey : other = key
      · exact .inr ⟨hkey, by simpa [hkey, eq_comm] using h⟩
      · simp [hkey] at h
  | some old =>
      rw [hother] at h
      exact .inl h

theorem lookup_add_of_some {key other : ℕ} {row found : Row}
    (h : table.lookup other = some found) : (table.add key row).lookup other = some found := by
  rw [lookup_add, h]
  rfl

theorem lookup_erase (key other : ℕ) :
    (table.erase key).lookup other = if other = key then none else table.lookup other := by
  by_cases h : other = key
  · subst h
    simp
  · simp [h, AList.lookup_erase_ne h]

theorem lookup_update (key other : ℕ) (change : Row → Row) :
    (table.update key change).lookup other =
      if other = key then (table.lookup key).map change else table.lookup other := by
  unfold update
  split
  · rename_i hnone
    by_cases h : other = key
    · subst h
      simp [hnone]
    · simp [h]
  · rename_i row hrow
    rw [lookup_insert, hrow]
    rfl

theorem lookup_add_of_ne {key other : ℕ} {row : Row} (h : other ≠ key) :
    (table.add key row).lookup other = table.lookup other := by
  rw [lookup_add, if_neg h]
  cases table.lookup other <;> rfl

theorem lookup_update_of_ne {key other : ℕ} {change : Row → Row} (h : other ≠ key) :
    (table.update key change).lookup other = table.lookup other := by
  rw [lookup_update, if_neg h]

/-- After an `INSERT` there is a row for the key. -/
theorem isSome_lookup_add {key : ℕ} {row : Row} :
    ((table.add key row).lookup key).isSome = true := by
  rw [lookup_add, if_pos rfl]
  cases table.lookup key <;> rfl

/-- An `UPDATE` removes no row. -/
theorem isSome_lookup_update {key : ℕ} {row old : Row} (h : table.lookup key = some old) :
    ((table.update key fun _ => row).lookup key).isSome = true := by
  rw [lookup_update, if_pos rfl, h]
  rfl

/-- A row after an `UPDATE` comes from the one that was there. -/
theorem exists_of_lookup_update {key other : ℕ} {change : Row → Row} {row' : Row}
    (h : (table.update key change).lookup other = some row') :
    ∃ row, table.lookup other = some row ∧ row' = if other = key then change row else row := by
  rw [lookup_update] at h
  split at h
  · rename_i hother
    subst hother
    obtain ⟨row, hrow, rfl⟩ := Option.map_eq_some_iff.1 h
    exact ⟨row, hrow, (if_pos rfl).symm⟩
  · rename_i hother
    exact ⟨row', h, (if_neg hother).symm⟩

/-- A row after the same `UPDATE` of several rows, which a second time would change nothing. -/
theorem lookup_updates {change : Row → Row} (hagain : ∀ row, change (change row) = change row)
    (keys : List ℕ) (table : Table Row) (other : ℕ) :
    (keys.foldl (fun table key => table.update key change) table).lookup other =
      if other ∈ keys then (table.lookup other).map change else table.lookup other := by
  induction keys generalizing table with
  | nil => simp
  | cons key keys ih =>
      rw [List.foldl_cons, ih, lookup_update]
      by_cases hkey : other = key
      · subst hkey
        cases table.lookup other <;> simp [hagain]
      · simp [hkey]

/-- A row after a `DELETE` of several rows. -/
theorem lookup_erases (keys : List ℕ) (table : Table Row) (other : ℕ) :
    (keys.foldl (fun table key => table.erase key) table : Table Row).lookup other =
      if other ∈ keys then none else table.lookup other := by
  induction keys generalizing table with
  | nil => simp
  | cons key keys ih =>
      rw [List.foldl_cons, ih, lookup_erase]
      by_cases hkey : other = key <;> simp [hkey]

/-- The rows that are left by a `DELETE`. -/
theorem lookup_deleteWhere (other : ℕ) :
    (table.deleteWhere p).lookup other = (table.lookup other).filter fun row => !p row := by
  rw [deleteWhere, lookup_erases]
  cases hrow : table.lookup other with
  | none => simp
  | some row =>
      have hmem : other ∈ (table.entries.filter fun entry => p entry.2).map Sigma.fst ↔
          p row = true := by
        simp only [List.mem_map, List.mem_filter, Sigma.exists, mem_entries_iff, exists_and_right,
          exists_eq_right, hrow, Option.some.injEq]
        exact ⟨fun ⟨_, hsame, hp⟩ => hsame ▸ hp, fun hp => ⟨row, rfl, hp⟩⟩
      cases hp : p row <;> simp [hmem, hp, Option.filter]

/-- No row matches. -/
theorem count_eq_zero_iff :
    table.count p = 0 ↔ ∀ key row, table.lookup key = some row → p row = false := by
  simp only [count, List.countP_eq_zero, Bool.not_eq_true, Sigma.forall, mem_entries_iff]

theorem find_eq_none_iff :
    table.find p = none ↔ ∀ key row, table.lookup key = some row → p row = false := by
  simp only [find, Option.map_eq_none_iff, List.find?_eq_none, Bool.not_eq_true, Sigma.forall,
    mem_entries_iff]

/-- Some row matches. -/
theorem count_pos_iff :
    0 < table.count p ↔ ∃ key row, table.lookup key = some row ∧ p row = true := by
  simp only [count, List.countP_pos_iff, Sigma.exists, mem_entries_iff]

/-- More than one row matches, so one other than a given row does. -/
theorem exists_ne_of_one_lt_count (h : 1 < table.count p) (key : ℕ) :
    ∃ other row, other ≠ key ∧ table.lookup other = some row ∧ p row = true := by
  by_contra hnone
  push Not at hnone
  have hle : table.count p ≤ 1 := by
    have hsub : ∀ entry ∈ table.entries, p entry.2 = true → entry.1 = key := by
      intro entry hentry hp
      by_contra hne
      exact hnone entry.1 entry.2 hne (mem_entries_iff.1 hentry) hp
    have hnodup : (table.entries.map Sigma.fst).Nodup := table.keys_nodup
    have hcount : table.count p ≤ (table.entries.map Sigma.fst).count key := by
      rw [count, List.count, List.countP_map]
      refine List.countP_mono_left fun entry hentry hp => ?_
      simpa using hsub entry hentry hp
    exact Nat.le_trans hcount (List.nodup_iff_count_le_one.1 hnodup key)
  omega

/-- As many rows match as the other table has rows, when it is those keys that have one there. -/
theorem count_eq_length {Row' : Type} {other : Table Row'}
    (h : ∀ key, (∃ row, table.lookup key = some row ∧ p row = true) ↔
      ∃ row, other.lookup key = some row) : table.count p = other.entries.length := by
  have hnodup : ((table.entries.filter fun entry => p entry.2).map Sigma.fst).Nodup :=
    table.keys_nodup.sublist (List.filter_sublist.map Sigma.fst)
  have hperm : ((table.entries.filter fun entry => p entry.2).map Sigma.fst).Perm
      (other.entries.map Sigma.fst) := by
    refine (List.perm_ext_iff_of_nodup hnodup other.keys_nodup).2 fun key => ?_
    simp only [List.mem_map, List.mem_filter, Sigma.exists, exists_and_right, exists_eq_right,
      mem_entries_iff, h key, ← Option.isSome_iff_exists, AList.lookup_isSome]
    exact AList.mem_keys
  rw [count, List.countP_eq_length_filter]
  simpa using hperm.length_eq

/-! ## What becomes of rows -/

/-- How the row under a key goes on. A row that is dropped can be followed by a new one. -/
def Evolves (creates : ℕ → Row → Prop) (keeps : ℕ → Row → Row → Prop) (drops : ℕ → Row → Prop)
    (key : ℕ) : Option Row → Option Row → Prop
  | none, none => True
  | none, some row' => creates key row'
  | some row, none => drops key row
  | some row, some row' => keeps key row row' ∨ drops key row ∧ creates key row'

/-- Every row of the later table was created or comes from the row that was there, and a row that is
gone was dropped. -/
def Derives (creates : ℕ → Row → Prop) (keeps : ℕ → Row → Row → Prop) (drops : ℕ → Row → Prop)
    (table table' : Table Row) : Prop :=
  ∀ key, Evolves creates keeps drops key (table.lookup key) (table'.lookup key)

section Derives

variable {creates creates' : ℕ → Row → Prop} {keeps keeps' : ℕ → Row → Row → Prop}
  {drops drops' : ℕ → Row → Prop} {table' table'' : Table Row}

theorem evolves_refl (hrefl : ∀ key row, keeps key row row) (key : ℕ) (row : Option Row) :
    Evolves creates keeps drops key row row := by
  cases row with
  | none => trivial
  | some row => exact .inl (hrefl key row)

theorem derives_refl (hrefl : ∀ key row, keeps key row row) :
    Derives creates keeps drops table table := fun key => evolves_refl hrefl key _

theorem Evolves.trans (htrans : ∀ key row row' row'', keeps key row row' → keeps key row' row'' →
      keeps key row row'')
    (hcreates : ∀ key row row', creates key row → keeps key row row' → creates key row')
    (hdrops : ∀ key row row', keeps key row row' → drops key row' → drops key row)
    {key : ℕ} {row row' row'' : Option Row} (h : Evolves creates keeps drops key row row')
    (h' : Evolves creates keeps drops key row' row'') :
    Evolves creates keeps drops key row row'' := by
  cases row' with
  | none =>
      cases row with
      | none => exact h'
      | some row =>
          cases row'' with
          | none => exact h
          | some row'' => exact .inr ⟨h, h'⟩
  | some row' =>
      cases row with
      | none =>
          cases row'' with
          | none => trivial
          | some row'' => exact h'.elim (hcreates key row' row'' h) And.right
      | some row =>
          -- the row is dropped if the one that comes from it is
          have hdropped : drops key row' → drops key row := fun hdrop =>
            h.elim (fun hkept => hdrops key row row' hkept hdrop) And.left
          cases row'' with
          | none => exact hdropped h'
          | some row'' =>
              rcases h' with hkept' | ⟨hdrop, hnew⟩
              · exact h.imp (fun hkept => htrans key row row' row'' hkept hkept')
                  fun hnew => ⟨hnew.1, hcreates key row' row'' hnew.2 hkept'⟩
              · exact .inr ⟨hdropped hdrop, hnew⟩

theorem Derives.trans (htrans : ∀ key row row' row'', keeps key row row' → keeps key row' row'' →
      keeps key row row'')
    (hcreates : ∀ key row row', creates key row → keeps key row row' → creates key row')
    (hdrops : ∀ key row row', keeps key row row' → drops key row' → drops key row)
    (h : Derives creates keeps drops table table')
    (h' : Derives creates keeps drops table' table'') :
    Derives creates keeps drops table table'' := fun key =>
  (h key).trans htrans hcreates hdrops (h' key)

theorem Derives.mono (h : Derives creates keeps drops table table')
    (hcreates : ∀ key row, creates key row → creates' key row)
    (hkeeps : ∀ key row row', keeps key row row' → keeps' key row row')
    (hdrops : ∀ key row, drops key row → drops' key row) :
    Derives creates' keeps' drops' table table' := by
  intro key
  have hkey := h key
  cases hrow : table.lookup key with
  | none =>
      cases hrow' : table'.lookup key with
      | none => trivial
      | some row' =>
          rw [hrow, hrow'] at hkey
          exact hcreates key row' hkey
  | some row =>
      cases hrow' : table'.lookup key with
      | none =>
          rw [hrow, hrow'] at hkey
          exact hdrops key row hkey
      | some row' =>
          rw [hrow, hrow'] at hkey
          exact hkey.imp (hkeeps key row row') fun hnew =>
            ⟨hdrops key row hnew.1, hcreates key row' hnew.2⟩

theorem derives_add (hrefl : ∀ key row, keeps key row row) {key : ℕ} {row : Row}
    (hnew : creates key row) : Derives creates keeps drops table (table.add key row) := by
  intro other
  rw [lookup_add]
  cases hother : table.lookup other with
  | some found => exact .inl (hrefl other found)
  | none =>
      by_cases hsame : other = key
      · simpa [hsame, Evolves] using hnew
      · simp [hsame, Evolves]

/-- Rows are removed. -/
theorem derives_filter (stays : ℕ → Row → Bool) (hrefl : ∀ key row, keeps key row row)
    (h : ∀ key, table'.lookup key = (table.lookup key).filter (stays key))
    (hdrops : ∀ key row, stays key row = false → drops key row) :
    Derives creates keeps drops table table' := by
  intro key
  rw [h key]
  cases table.lookup key with
  | none => trivial
  | some row =>
      cases hstays : stays key row with
      | true => simpa [Option.filter, hstays, Evolves] using Or.inl (hrefl key row)
      | false => simpa [Option.filter, hstays, Evolves] using hdrops key row hstays

theorem derives_erase (hrefl : ∀ key row, keeps key row row) {key : ℕ}
    (hdrops : ∀ row, drops key row) : Derives creates keeps drops table (table.erase key) := by
  refine derives_filter (fun other _ => other ≠ key) hrefl (fun other => ?_) ?_
  · rw [lookup_erase]
    by_cases hsame : other = key <;> cases table.lookup other <;> simp [hsame, Option.filter]
  · intro other row hsame
    obtain rfl : other = key := by simpa using hsame
    exact hdrops row

/-- Rows are changed. -/
theorem derives_map (hrefl : ∀ key row, keeps key row row) {change : Row → Row} {keys : List ℕ}
    (hkeeps : ∀ key ∈ keys, ∀ row, keeps key row (change row))
    (h : ∀ key, table'.lookup key =
      if key ∈ keys then (table.lookup key).map change else table.lookup key) :
    Derives creates keeps drops table table' := by
  intro key
  rw [h key]
  split
  · cases table.lookup key with
    | none => trivial
    | some row => exact .inl (hkeeps key ‹_› row)
  · exact evolves_refl hrefl key _

theorem derives_update (hrefl : ∀ key row, keeps key row row) {key : ℕ} {change : Row → Row}
    (hkeeps : ∀ row, keeps key row (change row)) :
    Derives creates keeps drops table (table.update key change) := by
  refine @derives_map _ _ _ _ _ _ hrefl change [key] (List.forall_mem_singleton.2 hkeeps) ?_
  intro other
  rw [lookup_update]
  by_cases hsame : other = key
  · subst hsame
    simp
  · simp [hsame]

theorem derives_updates (hrefl : ∀ key row, keeps key row row) {change : Row → Row}
    {keys : List ℕ} (hkeeps : ∀ key ∈ keys, ∀ row, keeps key row (change row))
    (hagain : ∀ row, change (change row) = change row) :
    Derives creates keeps drops table
      (keys.foldl (fun table key => table.update key change) table) :=
  derives_map hrefl hkeeps (lookup_updates hagain keys table)

end Derives

end Table
