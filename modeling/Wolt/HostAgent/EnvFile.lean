/-
# The environment file

`HostController._env_values` and `_update_env` of `host_agent/server.py` on the text of the file. A
reader takes the last line that defines a key; an update replaces the first such line and appends
keys that no line defines. The two agree only while a key is defined at most once, which is what
`get_envValues_updateEnv` says.
-/

import Wolt.Python.Dict

namespace Wolt.HostAgent

open Wolt.Python

/-! ## Lines -/

/-- `line and not line.lstrip().startswith("#") and "=" in line`. -/
def isAssignment (line : Text) : Bool :=
  line ≠ [] && (lstrip line).head? ≠ some '#' && '=' ∈ line

/-- `line.split("=", 1)[0]`. -/
def keyOf (line : Text) : Text := line.takeWhile (· ≠ '=')

/-- `line.split("=", 1)[1]`. -/
def valueOf (line : Text) : Text := (line.dropWhile (· ≠ '=')).tail

/-- `f"{key}={value}"`. -/
def assignment (key value : Text) : Text := key ++ '=' :: value

/-- There is no line boundary in the text. -/
abbrev OneLine (text : Text) : Prop := ∀ c ∈ text, isLineBreak c = false

/-- The boundaries in a given text can be looked for. -/
theorem oneLine_of_all {text : Text} (h : (text.all fun c => !isLineBreak c) = true) :
    OneLine text := fun c hc => by
  simpa using List.all_eq_true.1 h c hc

/-- A key that a line can define. -/
def IsKey (key : Text) : Prop := '=' ∉ key ∧ (lstrip key).head? ≠ some '#'

theorem head?_lstrip_assignment (key value : Text) :
    (lstrip (assignment key value)).head? = some '#' ↔ (lstrip key).head? = some '#' := by
  have hequals : isSpace '=' = false := by decide
  cases hkey : key.dropWhile isSpace with
  | nil => simp [lstrip, assignment, List.dropWhile_append, hkey, hequals]
  | cons c rest => simp [lstrip, assignment, List.dropWhile_append, hkey]

theorem isAssignment_assignment {key : Text} (h : IsKey key) (value : Text) :
    isAssignment (assignment key value) = true := by
  have hhead := mt (head?_lstrip_assignment key value).1 h.2
  simp only [isAssignment, Bool.and_eq_true, decide_eq_true_eq]
  exact ⟨⟨by simp [assignment], hhead⟩, by simp [assignment]⟩

theorem ne_equals_of_isKey {key : Text} (h : IsKey key) :
    ∀ c ∈ key, (decide (c ≠ '=')) = true := by
  intro c hc
  simp only [decide_eq_true_eq]
  rintro rfl
  exact h.1 hc

theorem keyOf_assignment {key : Text} (h : IsKey key) (value : Text) :
    keyOf (assignment key value) = key := by
  rw [keyOf, assignment, List.takeWhile_append_of_pos (ne_equals_of_isKey h)]
  simp

theorem valueOf_assignment {key : Text} (h : IsKey key) (value : Text) :
    valueOf (assignment key value) = value := by
  rw [valueOf, assignment, List.dropWhile_append_of_pos (ne_equals_of_isKey h)]
  simp

/-- A line that defines a key is made of the key and the value. -/
theorem assignment_keyOf_valueOf {line : Text} (h : isAssignment line = true) :
    assignment (keyOf line) (valueOf line) = line := by
  simp only [isAssignment, Bool.and_eq_true, decide_eq_true_eq] at h
  have hsplit := List.takeWhile_append_dropWhile (p := fun c => decide (c ≠ '=')) (l := line)
  cases hdrop : line.dropWhile (· ≠ '=') with
  | nil =>
      rw [List.dropWhile_eq_nil_iff] at hdrop
      simpa using hdrop '=' h.2
  | cons c rest =>
      have hc := List.head?_dropWhile_not (fun c => decide (c ≠ '=')) line
      rw [hdrop] at hc hsplit
      have hequals : c = '=' := by simpa using hc
      rw [hequals] at hsplit
      simpa only [assignment, keyOf, valueOf, hdrop, List.tail_cons] using hsplit

theorem isKey_keyOf {line : Text} (h : isAssignment line = true) : IsKey (keyOf line) := by
  constructor
  · intro hmem
    simpa using List.mem_takeWhile_imp hmem
  · rw [Ne, ← head?_lstrip_assignment _ (valueOf line), assignment_keyOf_valueOf h]
    simp only [isAssignment, Bool.and_eq_true, decide_eq_true_eq] at h
    exact h.1.2

/-! ## Reading and updating -/

/-- `HostController._env_values` of a file with this text. -/
def envValues (text : Text) : Dict Text :=
  (splitlines text).foldl
    (fun values line =>
      if isAssignment line then values.set (keyOf line) (valueOf line) else values) []

/-- The lines that `_update_env` writes. -/
def rewriteLines (remaining : Dict Text) : List Text → List Text
  | [] => remaining.map fun item => assignment item.1 item.2
  | line :: lines =>
      if isAssignment line then
        match remaining.get (keyOf line) with
        | some value =>
            assignment (keyOf line) value :: rewriteLines (remaining.pop (keyOf line)) lines
        | none => line :: rewriteLines remaining lines
      else line :: rewriteLines remaining lines

/-- `HostController._update_env` on the text of the file. -/
def updateEnv (changes : Dict Text) (text : Text) : Text :=
  joinLines (rewriteLines changes (splitlines text))

/-- `self._env_values().get(key, default)`. -/
def envValue (text key default : Text) : Text := ((envValues text).get key).getD default

/-! ## What a file defines -/

/-- The values that lines give to a key, in their order. -/
def assigned (key : Text) (lines : List Text) : List Text :=
  lines.filterMap fun line =>
    if isAssignment line ∧ keyOf line = key then some (valueOf line) else none

/-- How many lines of a file define a key. -/
def definitions (key : Text) (text : Text) : ℕ := (assigned key (splitlines text)).length

theorem assigned_cons_of_pos {key line : Text} (hline : isAssignment line = true)
    (hkey : keyOf line = key) (lines : List Text) :
    assigned key (line :: lines) = valueOf line :: assigned key lines := by
  simp [assigned, hline, hkey]

theorem assigned_cons_of_neg {key line : Text} (h : ¬ (isAssignment line ∧ keyOf line = key))
    (lines : List Text) : assigned key (line :: lines) = assigned key lines := by
  rw [assigned, List.filterMap_cons_none (by simp [h])]
  rfl

/-- A reader takes the last value. -/
theorem get_foldl_set (key : Text) (lines : List Text) (values : Dict Text) :
    (lines.foldl (fun values line =>
        if isAssignment line then values.set (keyOf line) (valueOf line) else values) values).get
        key =
      ((assigned key lines).getLast?.or (values.get key)) := by
  induction lines generalizing values with
  | nil => simp [assigned]
  | cons line lines ih =>
      rw [List.foldl_cons, ih]
      by_cases hline : isAssignment line = true
      · by_cases hkey : keyOf line = key
        · rw [assigned_cons_of_pos hline hkey, if_pos hline, Dict.get_set, if_pos hkey.symm,
            List.getLast?_cons]
          cases (assigned key lines).getLast? <;> rfl
        · rw [assigned_cons_of_neg (by simp [hkey]), if_pos hline, Dict.get_set,
            if_neg (Ne.symm hkey)]
      · rw [assigned_cons_of_neg (by simp [hline]), if_neg hline]

theorem get_envValues (key text : Text) :
    (envValues text).get key = (assigned key (splitlines text)).getLast? := by
  rw [envValues, get_foldl_set]
  simp

/-- Changes that can be written as lines: each key once, and no text with a line boundary. -/
structure Writable (changes : Dict Text) : Prop where
  nodup : changes.keys.Nodup
  isKey : ∀ item ∈ changes, IsKey item.1
  oneLine : ∀ item ∈ changes, ∀ c ∈ assignment item.1 item.2, isLineBreak c = false

theorem Writable.pop {changes : Dict Text} (h : Writable changes) (key : Text) :
    Writable (changes.pop key) where
  nodup := h.nodup.sublist (List.filter_sublist.map _)
  isKey item hitem := h.isKey item (List.mem_of_mem_filter hitem)
  oneLine item hitem := h.oneLine item (List.mem_of_mem_filter hitem)

/-- Appended lines define just the remaining keys. -/
theorem assigned_map_assignment {changes : Dict Text} (h : Writable changes) (key : Text) :
    assigned key (changes.map fun item => assignment item.1 item.2) =
      (changes.get key).toList := by
  induction changes with
  | nil => rfl
  | cons item changes ih =>
      obtain ⟨k, v⟩ := item
      have hnodup := List.nodup_cons.1 h.nodup
      have hk : IsKey k := h.isKey (k, v) List.mem_cons_self
      have hrest := ih ⟨hnodup.2, fun item hitem => h.isKey item (List.mem_cons_of_mem _ hitem),
        fun item hitem => h.oneLine item (List.mem_cons_of_mem _ hitem)⟩
      rw [List.map_cons, Dict.get_cons]
      by_cases hkey : key = k
      · subst hkey
        have hnone : Dict.get changes key = none := by
          by_contra hsome
          obtain ⟨value, hvalue⟩ := Option.ne_none_iff_exists'.1 hsome
          exact hnodup.1 (List.mem_map.2 ⟨_, Dict.mem_of_get hvalue, rfl⟩)
        rw [assigned_cons_of_pos (isAssignment_assignment hk v) (keyOf_assignment hk v),
          valueOf_assignment hk, hrest, hnone]
        simp
      · rw [assigned_cons_of_neg (by simp [keyOf_assignment hk, Ne.symm hkey]), hrest]
        simp [hkey]

/-- An update replaces the first value of a changed key and leaves the later ones. -/
theorem assigned_rewriteLines {changes : Dict Text} (h : Writable changes) (key : Text)
    (lines : List Text) :
    assigned key (rewriteLines changes lines) =
      match changes.get key with
      | some value => value :: (assigned key lines).tail
      | none => assigned key lines := by
  induction lines generalizing changes with
  | nil =>
      rw [rewriteLines, assigned_map_assignment h]
      cases changes.get key <;> rfl
  | cons line lines ih =>
      by_cases hline : isAssignment line = true
      · rw [rewriteLines, if_pos hline]
        have hkey := isKey_keyOf hline
        cases hvalue : changes.get (keyOf line) with
        | some value =>
            by_cases hsame : keyOf line = key
            · rw [assigned_cons_of_pos (isAssignment_assignment hkey value)
                ((keyOf_assignment hkey value).trans hsame), ih (h.pop _), valueOf_assignment hkey,
                Dict.get_pop, if_pos hsame.symm, ← hsame, hvalue, hsame,
                assigned_cons_of_pos hline hsame]
              rfl
            · rw [assigned_cons_of_neg (by simp [keyOf_assignment hkey, hsame]), ih (h.pop _),
                Dict.get_pop, if_neg (Ne.symm hsame), assigned_cons_of_neg (by simp [hsame])]
        | none =>
            by_cases hsame : keyOf line = key
            · have hnone : changes.get key = none := hsame ▸ hvalue
              have hrest := ih h
              rw [hnone] at hrest
              rw [assigned_cons_of_pos hline hsame, assigned_cons_of_pos hline hsame, hrest, hnone]
            · rw [assigned_cons_of_neg (by simp [hsame]), ih h,
                assigned_cons_of_neg (by simp [hsame])]
      · rw [rewriteLines, if_neg hline, assigned_cons_of_neg (by simp [hline]), ih h,
          assigned_cons_of_neg (by simp [hline])]

/-- The written lines have no line boundaries inside. -/
theorem isLineBreak_rewriteLines {changes : Dict Text} (h : Writable changes) {lines : List Text}
    (hlines : ∀ line ∈ lines, ∀ c ∈ line, isLineBreak c = false) :
    ∀ line ∈ rewriteLines changes lines, ∀ c ∈ line, isLineBreak c = false := by
  induction lines generalizing changes with
  | nil =>
      intro line hline
      obtain ⟨item, hitem, rfl⟩ := List.mem_map.1 hline
      exact h.oneLine item hitem
  | cons first lines ih =>
      have hfirst := hlines first List.mem_cons_self
      have hrest : ∀ line ∈ lines, ∀ c ∈ line, isLineBreak c = false := fun line hline =>
        hlines line (List.mem_cons_of_mem _ hline)
      intro line hline
      rw [rewriteLines] at hline
      split at hline
      · split at hline
        · rename_i value hvalue
          rcases List.mem_cons.1 hline with rfl | hline
          · exact h.oneLine _ (Dict.mem_of_get hvalue)
          · exact ih (h.pop _) hrest line hline
        · rcases List.mem_cons.1 hline with rfl | hline
          · exact hfirst
          · exact ih h hrest line hline
      · rcases List.mem_cons.1 hline with rfl | hline
        · exact hfirst
        · exact ih h hrest line hline

theorem assigned_splitlines_joinLines (key : Text) {lines : List Text}
    (h : ∀ line ∈ lines, ∀ c ∈ line, isLineBreak c = false) :
    assigned key (splitlines (joinLines lines)) = assigned key lines := by
  cases lines with
  | nil => rfl
  | cons line lines => rw [splitlines_joinLines (by simp) h]

/-- What the updated file defines. -/
theorem assigned_updateEnv {changes : Dict Text} (h : Writable changes) (key text : Text) :
    assigned key (splitlines (updateEnv changes text)) =
      match changes.get key with
      | some value => value :: (assigned key (splitlines text)).tail
      | none => assigned key (splitlines text) := by
  have hlines : ∀ line ∈ splitlines text, ∀ c ∈ line, isLineBreak c = false :=
    fun line hline => isLineBreak_eq_false_of_mem_splitlines hline
  rw [updateEnv, assigned_splitlines_joinLines key (isLineBreak_rewriteLines h hlines),
    assigned_rewriteLines h]

/-- **An update is read back** where the key was defined at most once; a second definition hides it.
Keys that are not updated keep their value. -/
theorem get_envValues_updateEnv {changes : Dict Text} (h : Writable changes) (key text : Text) :
    (envValues (updateEnv changes text)).get key =
      match changes.get key with
      | some value => if definitions key text ≤ 1 then some value else (envValues text).get key
      | none => (envValues text).get key := by
  rw [get_envValues, get_envValues, assigned_updateEnv h, definitions]
  cases changes.get key with
  | none => rfl
  | some value =>
      match hvalues : assigned key (splitlines text) with
      | [] => simp
      | [first] => simp
      | first :: second :: rest => simp

/-- Two changes of different keys. -/
theorem writable_pair {first second value value' : Text} (hne : first ≠ second)
    (hfirst : IsKey first ∧ OneLine first) (hsecond : IsKey second ∧ OneLine second)
    (hvalue : OneLine value) (hvalue' : OneLine value') :
    Writable [(first, value), (second, value')] := by
  have hline : ∀ {key text : Text}, OneLine key → OneLine text → OneLine (assignment key text) := by
    intro key text hkey htext c hc
    rcases List.mem_append.1 hc with hc | hc
    · exact hkey c hc
    · rcases List.mem_cons.1 hc with rfl | hc
      · decide
      · exact htext c hc
  refine ⟨by simp [Dict.keys, hne], fun item hitem => ?_, fun item hitem => ?_⟩
  · rcases List.mem_pair.1 hitem with rfl | rfl
    · exact hfirst.1
    · exact hsecond.1
  · rcases List.mem_pair.1 hitem with rfl | rfl
    · exact hline hfirst.2 hvalue
    · exact hline hsecond.2 hvalue'

/-- How many lines of the updated file define an updated key. -/
theorem definitions_updateEnv {changes : Dict Text} (h : Writable changes) {key value : Text}
    (hvalue : changes.get key = some value) (text : Text) :
    definitions key (updateEnv changes text) = max 1 (definitions key text) := by
  rw [definitions, assigned_updateEnv h, hvalue, definitions]
  cases assigned key (splitlines text) <;> simp

/-- An updated value, with the default in the place of a missing one. -/
theorem envValue_updateEnv {changes : Dict Text} (h : Writable changes) {key value : Text}
    (hvalue : changes.get key = some value) (text default : Text) :
    envValue (updateEnv changes text) key default =
      if definitions key text ≤ 1 then value else envValue text key default := by
  rw [envValue, get_envValues_updateEnv h, hvalue]
  dsimp only
  split <;> rfl

theorem envValue_updateEnv_of_none {changes : Dict Text} (h : Writable changes) {key : Text}
    (hnone : changes.get key = none) (text default : Text) :
    envValue (updateEnv changes text) key default = envValue text key default := by
  rw [envValue, get_envValues_updateEnv h, hnone]
  rfl

/-- **An update is undone** by a second one that writes the earlier value back, however often the
file defines the key. -/
theorem envValue_updateEnv_updateEnv {changes former : Dict Text} (h : Writable changes)
    (hformer : Writable former) {key value default text : Text}
    (hvalue : changes.get key = some value)
    (hback : former.get key = some (envValue text key default)) :
    envValue (updateEnv former (updateEnv changes text)) key default =
      envValue text key default := by
  rw [envValue_updateEnv hformer hback, definitions_updateEnv h hvalue, envValue_updateEnv h hvalue]
  split
  · rfl
  · rw [if_neg (by omega)]

/-- A value stands on one line. -/
theorem oneLine_of_get {key value text : Text} (h : (envValues text).get key = some value) :
    OneLine value := by
  intro c hc
  rw [get_envValues] at h
  have hvalue : value ∈ assigned key (splitlines text) := List.mem_of_getLast? h
  obtain ⟨line, hline, hassigned⟩ := List.mem_filterMap.1 hvalue
  obtain ⟨_, hsome⟩ := Option.ite_none_right_eq_some.1 hassigned
  obtain rfl := Option.some.inj hsome
  have hmem : c ∈ line := (List.dropWhile_suffix _).subset (List.mem_of_mem_tail hc)
  exact isLineBreak_eq_false_of_mem_splitlines hline c hmem

theorem oneLine_envValue {key default text : Text} (hdefault : OneLine default) :
    OneLine (envValue text key default) := by
  unfold envValue
  cases hvalue : (envValues text).get key with
  | none => exact hdefault
  | some value => exact oneLine_of_get hvalue

end Wolt.HostAgent
