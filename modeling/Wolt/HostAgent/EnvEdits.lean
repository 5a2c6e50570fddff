/-
# An edit of the environment file

`_update_env` rewrites the lines of the file while it scans them, and `_env_values` lets the last
definition of a key win. What a reader should find after an edit is stated here without either of
the two: the earlier values under the new ones, and every other line where it was. The lines always
are; the values are, unless a changed key has a second definition that hides the new one.
-/

import Wolt.HostAgent.Threads

namespace Wolt.HostAgent

open Wolt.Python

/-! ## Changes -/

/-- `[A-Za-z_]`. -/
def isNameStart (c : Char) : Bool := c.isAlpha || c == '_'

/-- The name of an environment variable: letters, digits and underscores, not first a digit. -/
def isVariableName (key : Text) : Bool :=
  key.head?.any isNameStart && key.all fun c => isNameStart c || c.isDigit

/-- A dictionary of changes: names of variables, each once, with values of one line. -/
structure IsChanges (changes : Dict Text) : Prop where
  nodup : changes.keys.Nodup
  isVariableName : ∀ item ∈ changes, isVariableName item.1 = true
  oneLine : ∀ item ∈ changes, OneLine item.2

theorem toNat_of_isNameChar {c : Char} (h : (isNameStart c || c.isDigit) = true) :
    (48 ≤ c.toNat ∧ c.toNat ≤ 57) ∨ (65 ≤ c.toNat ∧ c.toNat ≤ 90) ∨ c.toNat = 95 ∨
      (97 ≤ c.toNat ∧ c.toNat ≤ 122) := by
  simp only [isNameStart, Char.isDigit, Bool.or_eq_true, Bool.and_eq_true, decide_eq_true_eq,
    beq_iff_eq, ge_iff_le, UInt32.le_iff_toNat_le] at h
  rcases h with (halpha | rfl) | hdigit
  · exact .inr ((toNat_of_isAlpha halpha).imp id .inr)
  · exact .inr (.inr (.inl (by decide)))
  · exact .inl hdigit

/-- A character of a name is no space, no `=` and no `#`. -/
theorem plain_of_isNameChar {c : Char} (h : (isNameStart c || c.isDigit) = true) :
    isSpace c = false ∧ c ≠ '=' ∧ c ≠ '#' := by
  have hrange := toNat_of_isNameChar h
  refine ⟨?_, ?_, ?_⟩
  · simp only [isSpace, Bool.or_eq_false_iff, Bool.and_eq_false_iff, decide_eq_false_iff_not,
      beq_eq_false_iff_ne]
    omega
  · rintro rfl
    revert hrange
    decide
  · rintro rfl
    revert hrange
    decide

/-- A name can be defined by a line. -/
theorem isKey_of_isVariableName {key : Text} (h : isVariableName key = true) :
    IsKey key ∧ OneLine key := by
  simp only [isVariableName, Bool.and_eq_true, List.all_eq_true] at h
  obtain ⟨-, hchars⟩ := h
  have hplain : ∀ c ∈ key, isSpace c = false ∧ c ≠ '=' ∧ c ≠ '#' := fun c hc =>
    plain_of_isNameChar (hchars c hc)
  refine ⟨⟨fun hmem => (hplain '=' hmem).2.1 rfl, fun hhead => ?_⟩, fun c hc =>
    isLineBreak_eq_false_of_isSpace_eq_false (hplain c hc).1⟩
  have hmem : '#' ∈ key := (List.dropWhile_suffix _).subset (List.mem_of_head? hhead)
  exact (hplain '#' hmem).2.2 rfl

/-- Such changes can be written as lines. -/
theorem IsChanges.writable {changes : Dict Text} (h : IsChanges changes) : Writable changes where
  nodup := h.nodup
  isKey item hitem := (isKey_of_isVariableName (h.isVariableName item hitem)).1
  oneLine item hitem c hc := by
    have hkey := (isKey_of_isVariableName (h.isVariableName item hitem)).2
    rcases List.mem_append.1 hc with hc | hc
    · exact hkey c hc
    · rcases List.mem_cons.1 hc with rfl | hc
      · decide
      · exact h.oneLine item hitem c hc

/-! ## The other lines -/

/-- The line defines none of the changed keys. -/
def isKept (changes : Dict Text) (line : Text) : Bool :=
  !(isAssignment line && (changes.get (keyOf line)).isSome)

/-- The lines of a file that define none of the changed keys, in their order. -/
def keptLines (changes : Dict Text) (text : Text) : List Text :=
  (splitlines text).filter (isKept changes)

/-- The line of a change is not one of them. -/
theorem isKept_assignment {changes : Dict Text} {key value new : Text} (hkey : IsKey key)
    (hvalue : changes.get key = some value) : isKept changes (assignment key new) = false := by
  simp [isKept, isAssignment_assignment hkey, keyOf_assignment hkey, hvalue]

/-- While the editor scans the lines, what remains to be written shrinks; all of it is among the
changes, so that no line outside of them is added, dropped or moved. -/
theorem filter_rewriteLines {changes remaining : Dict Text} (hchanges : Writable remaining)
    (hremaining : ∀ item ∈ remaining, (changes.get item.1).isSome) (lines : List Text) :
    (rewriteLines remaining lines).filter (isKept changes) = lines.filter (isKept changes) := by
  induction lines generalizing remaining with
  | nil =>
      rw [rewriteLines, List.filter_nil, List.filter_eq_nil_iff]
      intro line hline
      obtain ⟨item, hitem, rfl⟩ := List.mem_map.1 hline
      obtain ⟨value, hvalue⟩ := Option.isSome_iff_exists.1 (hremaining item hitem)
      simp [isKept_assignment (hchanges.isKey item hitem) hvalue]
  | cons line lines ih =>
      have hother : (line :: rewriteLines remaining lines).filter (isKept changes) =
          (line :: lines).filter (isKept changes) := by
        rw [List.filter_cons, List.filter_cons, ih hchanges hremaining]
      by_cases hline : isAssignment line = true
      · rw [rewriteLines, if_pos hline]
        cases hget : remaining.get (keyOf line) with
        | none => exact hother
        | some value =>
            obtain ⟨old, hold⟩ := Option.isSome_iff_exists.1 (hremaining _ (Dict.mem_of_get hget))
            have hdropped : isKept changes line = false := by simp [isKept, hline, hold]
            rw [List.filter_cons_of_neg (by simp [isKept_assignment (isKey_keyOf hline) hold]),
              List.filter_cons_of_neg (by simp [hdropped])]
            exact ih (hchanges.pop _) fun item hitem =>
              hremaining item (List.mem_of_mem_filter hitem)
      · rw [rewriteLines, if_neg hline]
        exact hother

theorem rewriteLines_eq_nil {changes : Dict Text} {lines : List Text} :
    rewriteLines changes lines = [] ↔ lines = [] ∧ changes = [] := by
  cases lines with
  | nil => simp [rewriteLines]
  | cons line lines =>
      rw [rewriteLines]
      split
      · split <;> simp
      · simp

theorem splitlines_eq_nil {text : Text} : splitlines text = [] ↔ text = [] := by
  constructor
  · intro h
    fun_cases splitlines text with
    | case1 => rfl
    | case2 rest => simp [splitlines] at h
    | case3 c rest hcr hbreak => simp [splitlines.eq_3 _ _ hcr, hbreak] at h
    | case4 c rest hcr hbreak hnil => simp [splitlines.eq_3 _ _ hcr, hbreak, hnil] at h
    | case5 c rest hcr hbreak line lines hcons =>
        simp [splitlines.eq_3 _ _ hcr, hbreak, hcons] at h
  · rintro rfl
    rfl

/-- An edit keeps the other lines. -/
theorem keptLines_updateEnv {changes : Dict Text} (h : Writable changes) {text : Text}
    (hne : changes ≠ [] ∨ text ≠ []) :
    keptLines changes (updateEnv changes text) = keptLines changes text := by
  have hlines : rewriteLines changes (splitlines text) ≠ [] := by
    rw [Ne, rewriteLines_eq_nil, splitlines_eq_nil]
    tauto
  have hself : ∀ item ∈ changes, (Dict.get changes item.1).isSome := fun item hitem => by
    rw [(Dict.get_eq_some_iff h.nodup).2 hitem]
    rfl
  rw [keptLines, updateEnv, splitlines_joinLines hlines
    (isLineBreak_rewriteLines h fun line hline =>
    isLineBreak_eq_false_of_mem_splitlines hline), filter_rewriteLines h hself]
  rfl

/-! ## The edit -/

/-- What an edit is for, of the texts before and after it. The second part leaves out the edit of
nothing in an empty file, which becomes one empty line. -/
structure Updated (changes : Dict Text) (before after : Text) : Prop where
  /-- A reader finds the earlier values, overridden by the changes. -/
  values : ∀ key, (envValues after).get key = (changes.get key).or ((envValues before).get key)
  /-- The lines that define no changed key are the same, in the same order. -/
  lines : changes ≠ [] ∨ before ≠ [] → keptLines changes after = keptLines changes before

/-- The new values can be seen: no changed key has a second definition, unless the new value is what
a reader of it finds already. -/
def ShowsChanges (changes : Dict Text) (text : Text) : Prop :=
  ∀ key value, changes.get key = some value →
    definitions key text ≤ 1 ∨ (envValues text).get key = some value

theorem updated_updateEnv_iff {changes : Dict Text} (h : Writable changes) (text : Text) :
    Updated changes text (updateEnv changes text) ↔ ShowsChanges changes text := by
  constructor
  · rintro ⟨hvalues, -⟩ key value hvalue
    have hkey := hvalues key
    rw [get_envValues_updateEnv h, hvalue] at hkey
    dsimp only at hkey
    split at hkey
    · rename_i hone
      exact .inl hone
    · exact .inr hkey
  · intro hshows
    refine ⟨fun key => ?_, fun hne => keptLines_updateEnv h hne⟩
    rw [get_envValues_updateEnv h]
    cases hvalue : changes.get key with
    | none => rfl
    | some value =>
        dsimp only
        rcases hshows key value hvalue with hone | hsame
        · rw [if_pos hone]
          rfl
        · rw [hsame, ite_self]
          rfl

/-- The run of an edit. -/
theorem run_updateEnvFile {D : Type} (environment : Environment D) (changes : Dict Text)
    (host : Host D) :
    (updateEnvFile changes).run environment.step host =
      if host.envIsRegular then
        (.ok (), { host with
          env := updateEnv changes host.env
          history := host.history ++ [(.isEnvRegular, true), (.readEnv, true),
            (.writeEnv (updateEnv changes host.env), true)] })
      else (.error (.agent .unsafeEnvironmentFile),
        { host with history := host.history ++ [(.isEnvRegular, true)] }) := by
  cases hregular : host.envIsRegular <;>
    simp [updateEnvFile, perform, Program.run_require_bind, Environment.step, Environment.act,
      hregular]

/-- **An edit of a regular file** returns, keeps every other line, and gives a reader the earlier
values overridden by the changes just when the changes show. -/
theorem updated_iff_showsChanges {D : Type} (environment : Environment D) {changes : Dict Text}
    (hchanges : IsChanges changes) {host : Host D} (hregular : host.envIsRegular = true) :
    ((updateEnvFile changes).run environment.step host).1 = .ok () ∧
      (Updated changes host.env ((updateEnvFile changes).run environment.step host).2.env ↔
        ShowsChanges changes host.env) := by
  rw [run_updateEnvFile, if_pos hregular]
  exact ⟨rfl, updated_updateEnv_iff hchanges.writable host.env⟩

/-! ## Two definitions of a key -/

/-- The host with an environment file. -/
def hostWithEnv (env : Text) : Host Unit := { sampleHost with env := env }

/-- A file with a comment, a blank line, and a key that is defined once. -/
theorem updated_commentedFile :
    Updated [("A".toList, "3".toList), ("C".toList, "4".toList)]
      "# A=0\nA=1\n\nB=2\n".toList "# A=0\nA=3\n\nB=2\nC=4\n".toList := by
  have hchanges : IsChanges [("A".toList, "3".toList), ("C".toList, "4".toList)] :=
    ⟨by decide, by decide, fun item hitem => by
      rcases List.mem_pair.1 hitem with rfl | rfl <;> exact oneLine_of_all (by decide)⟩
  have hshows : ShowsChanges [("A".toList, "3".toList), ("C".toList, "4".toList)]
      "# A=0\nA=1\n\nB=2\n".toList := by
    intro key value hvalue
    rcases List.mem_pair.1 (Dict.mem_of_get hvalue) with heq | heq <;> cases heq <;>
      exact .inl (by decide +kernel)
  have hregular : (hostWithEnv "# A=0\nA=1\n\nB=2\n".toList).envIsRegular = true := rfl
  exact (updated_iff_showsChanges sampleEnvironment hchanges hregular).2.2 hshows

/-- The editor replaces the first of two definitions, and a reader takes the second. -/
theorem second_definition_hides_change :
    ¬ Updated [("A".toList, "3".toList)] "A=1\nA=2\n".toList
      ((updateEnvFile [("A".toList, "3".toList)]).run sampleEnvironment.step
        (hostWithEnv "A=1\nA=2\n".toList)).2.env := by
  rintro ⟨hvalues, -⟩
  have hkey := hvalues "A".toList
  revert hkey
  decide +kernel

end Wolt.HostAgent
