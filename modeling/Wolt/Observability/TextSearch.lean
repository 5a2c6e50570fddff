/-
# The text search of the events

`wake_events`, `wake_events_csv` and `audit_events` put the text of a query between two percent
signs and match it with `ILIKE`, where percent signs, underscores and backslashes of the text keep
their meaning in a pattern. A NUL character cannot be sent at all. The search is one for the text as
a part of a column just for the texts without such characters.
-/

import Wolt.Observability.EventPages
import Wolt.Program.Patterns
import Mathlib.Data.List.ReduceOption

namespace Wolt.Observability

open Wolt.Python

/-! ## ILIKE -/

/-- The characters with a meaning in a pattern. -/
def isSpecial (c : Char) : Bool := c == '%' || c == '_' || c == '\\'

/-- A text without a character that has a meaning in a pattern. -/
def isLiteral (text : Text) : Bool := text.all fun c => !isSpecial c

/-- The pattern of a `LIKE`: `%` stands for any characters, `_` for any one, and the backslash for
the character after it. A pattern that ends with a backslash is an error, but `f"%{query.strip()}%"`
ends with a percent sign. -/
def wildcards : Text → List (Wildcard Char)
  | [] => []
  | '%' :: rest => .many :: wildcards rest
  | '_' :: rest => .one :: wildcards rest
  | '\\' :: c :: rest => .exactly c :: wildcards rest
  | c :: rest => .exactly c :: wildcards rest

/-- The two characters are the same up to case. -/
def sameLetter (fold : Char → Char) (c d : Char) : Bool := fold c == fold d

/-- `text ILIKE pattern`, where `fold` takes the case from a character. -/
def ilike (fold : Char → Char) (text pattern : Text) : Bool :=
  Wildcard.accepts (sameLetter fold) (wildcards pattern) text

/-- The column contains the word up to case. -/
def Contains (fold : Char → Char) (word column : Text) : Prop :=
  word.map fold <:+: column.map fold

instance (fold : Char → Char) (word column : Text) : Decidable (Contains fold word column) :=
  inferInstanceAs (Decidable (word.map fold <:+: column.map fold))

/-- No other character is one of those with a meaning in a pattern up to case. -/
def KeepsSpecial (fold : Char → Char) : Prop :=
  ∀ c d, isSpecial c = true → fold d = fold c → d = c

section Patterns

variable {fold : Char → Char} {word rest : Text}

theorem wildcards_cons {c : Char} (hc : isSpecial c = false) :
    wildcards (c :: rest) = .exactly c :: wildcards rest := by
  simp only [isSpecial, Bool.or_eq_false_iff, beq_eq_false_iff_ne] at hc
  rw [wildcards.eq_5] <;> grind

theorem wildcards_append (hword : isLiteral word = true) :
    wildcards (word ++ rest) = word.map Wildcard.exactly ++ wildcards rest := by
  induction word with
  | nil => rfl
  | cons c word ih =>
      simp only [isLiteral, List.all_cons, Bool.and_eq_true, Bool.not_eq_true'] at hword
      rw [List.cons_append, wildcards_cons hword.1, ih hword.2]
      rfl

theorem forall₂_sameLetter {part : Text} :
    List.Forall₂ (fun c d => sameLetter fold c d = true) word part ↔
      word.map fold = part.map fold := by
  simp only [sameLetter, beq_iff_eq]
  rw [← List.forall₂_eq_eq_eq, List.forall₂_map_left_iff, List.forall₂_map_right_iff]

theorem occurs_iff_contains {column : Text} :
    Wildcard.Occurs (sameLetter fold) word column ↔ Contains fold word column := by
  simp only [Wildcard.Occurs, Contains, List.infix_map_iff, forall₂_sameLetter]

/-- The pattern of a literal text asks for the text as a part of the column. -/
theorem ilike_queryPattern {query column : Text} (hliteral : isLiteral (strip query) = true) :
    ilike fold column (queryPattern query) = true ↔ Contains fold (strip query) column := by
  have hpattern : wildcards (queryPattern query) =
      .many :: ((strip query).map Wildcard.exactly ++ [.many]) := by
    rw [queryPattern, List.cons_append, wildcards, wildcards_append hliteral]
    rfl
  rw [ilike, hpattern, Wildcard.accepts_many_exactly_many, occurs_iff_contains]

/-! ## A text that is found for its pattern alone -/

/-- The shortest text that matches the pattern of the query. -/
def shortestMatch (query : Text) : Text :=
  Wildcard.letters 'x' (wildcards (strip query ++ ['%']))

theorem ilike_shortestMatch (query : Text) :
    ilike fold (shortestMatch query) (queryPattern query) = true := by
  have hsame : ∀ c, sameLetter fold c c = true := fun c => beq_self_eq_true (fold c)
  exact Wildcard.accepts_many_cons_of_accepts (Wildcard.accepts_letters hsame 'x' _)

/-- The ways in which a word goes on as a pattern. -/
@[elab_as_elim]
theorem word_induction {motive : Text → Prop} (nil : motive [])
    (percent : ∀ rest, motive rest → motive ('%' :: rest))
    (underscore : ∀ rest, motive rest → motive ('_' :: rest))
    (escaped : ∀ c rest, motive rest → motive ('\\' :: c :: rest)) (backslash : motive ['\\'])
    (plain : ∀ c rest, isSpecial c = false → motive rest → motive (c :: rest)) (word : Text) :
    motive word := by
  induction word using wildcards.induct with
  | case1 => exact nil
  | case2 rest ih => exact percent rest ih
  | case3 rest ih => exact underscore rest ih
  | case4 c rest ih => exact escaped c rest ih
  | case5 c rest hpercent hunderscore hescaped ih =>
      by_cases hbackslash : c = '\\'
      · subst hbackslash
        cases rest with
        | nil => exact backslash
        | cons d rest => exact (hescaped d rest rfl rfl).elim
      · refine plain c rest ?_ ih
        simp only [isSpecial, Bool.or_eq_false_iff, beq_eq_false_iff_ne]
        exact ⟨⟨hpercent, hunderscore⟩, hbackslash⟩

theorem length_letters_le (word : Text) :
    (Wildcard.letters 'x' (wildcards (word ++ ['%']))).length ≤ word.length := by
  induction word using word_induction with
  | nil => exact Nat.le_refl 0
  | percent rest ih => exact Nat.le_succ_of_le ih
  | underscore rest ih => exact Nat.succ_le_succ ih
  | escaped c rest ih => exact Nat.le_succ_of_le (Nat.succ_le_succ ih)
  | backslash => exact Nat.le_refl 1
  | plain c rest hc ih =>
      rw [List.cons_append, wildcards_cons hc]
      exact Nat.succ_le_succ ih

/-- Letter by letter, a word is the shortest text for its pattern only where it has no special
character: a percent sign or a backslash takes up a letter that the text does not have, an
underscore stands for another letter, and a backslash at the end for a percent sign. -/
theorem isLiteral_of_forall₂ (hfold : KeepsSpecial fold) (word : Text)
    (h : List.Forall₂ (fun c d => sameLetter fold c d = true) word
      (Wildcard.letters 'x' (wildcards (word ++ ['%'])))) : isLiteral word = true := by
  have hsame : ∀ c d, isSpecial c = true → sameLetter fold c d = true → d = c := by
    intro c d hc hcd
    exact hfold c d hc (beq_iff_eq.1 hcd).symm
  induction word using word_induction with
  | nil => rfl
  | percent rest =>
      have hle := h.length_eq.trans_le (length_letters_le rest)
      exact absurd hle (Nat.not_succ_le_self _)
  | underscore rest =>
      cases h with
      | cons hhead => exact absurd (hsame '_' 'x' rfl hhead) (by decide)
  | escaped c rest =>
      have hle := h.length_eq.trans_le (Nat.succ_le_succ (length_letters_le rest))
      exact absurd hle (Nat.not_succ_le_self _)
  | backslash =>
      cases h with
      | cons hhead => exact absurd (hsame '\\' '%' rfl hhead) (by decide)
  | plain c rest hc ih =>
      rw [List.cons_append, wildcards_cons hc] at h
      cases h with
      | cons _ htail =>
          rw [isLiteral, List.all_cons, hc]
          exact ih htail

/-- The shortest text for the pattern of a query contains the query only where it is literal. -/
theorem isLiteral_of_contains_shortestMatch (hfold : KeepsSpecial fold) {query : Text}
    (h : Contains fold (strip query) (shortestMatch query)) : isLiteral (strip query) = true :=
  isLiteral_of_forall₂ hfold _
    ((occurs_iff_contains.2 h).forall₂_of_length_le (length_letters_le _))

/-- A column without special characters contains literal words only. -/
theorem isLiteral_of_contains (hfold : KeepsSpecial fold) {column : Text}
    (hcolumn : isLiteral column = true) (h : Contains fold word column) :
    isLiteral word = true := by
  rw [isLiteral, List.all_eq_true] at hcolumn ⊢
  intro c hc
  obtain ⟨d, hd, hcd⟩ := List.mem_map.1 (h.subset (List.mem_map_of_mem hc))
  by_contra hspecial
  rw [Bool.not_eq_true, Bool.not_eq_false'] at hspecial
  have hspecial' := hcolumn d hd
  rw [hfold c d hspecial hcd, hspecial] at hspecial'
  exact Bool.false_ne_true hspecial'

end Patterns

/-! ## The conditions of the search -/

/-- The columns of a wake event that the search looks at. -/
def wakeColumns (event : WakeEvent) : List Text :=
  [event.macAddress, event.sourceIp, uuidText event.correlationId]

/-- The columns of an audit event and its actor that the search looks at, where they are there. -/
def auditColumns (row : AuditRow) : List Text :=
  row.event.action :: row.event.objectType :: row.event.objectId.toList ++
    row.event.clientIp :: row.username.toList

section Filters

variable {like : Text → Text → Bool}

theorem satisfies_reduceOption {R : Type} {clauses : List (Option (R → Bool))} {row : R} :
    satisfies clauses.reduceOption row = true ↔
      ∀ clause ∈ clauses, ∀ condition ∈ clause, condition row = true := by
  rw [satisfies, List.all_eq_true]
  constructor
  · intro h clause hclause condition hcondition
    rw [Option.mem_def] at hcondition
    exact h condition (List.reduceOption_mem_iff.2 (hcondition ▸ hclause))
  · intro h condition hcondition
    exact h (some condition) (List.reduceOption_mem_iff.1 hcondition) condition rfl

@[simp]
theorem given_none : given none = none := rfl

/-- The condition on the text comes on top of the other ones. -/
theorem satisfies_wakeFilters {filters : WakeFilters} {event : WakeEvent} :
    satisfies (wakeFilters like filters) event = true ↔
      satisfies (wakeFilters like { filters with query := none }) event = true ∧
        ∀ query ∈ given filters.query, ∃ column ∈ wakeColumns event,
          like column (queryPattern query) = true := by
  simp only [wakeFilters, satisfies_reduceOption, wakeColumns, List.forall_mem_cons,
    Option.forall_mem_map, Bool.or_eq_true, given_none]
  cases given filters.query with
  | none => simp
  | some query =>
      simp only [Option.mem_def, Option.some.injEq, forall_eq', reduceCtorEq, false_imp_iff,
        implies_true, List.exists_mem_cons_iff, List.not_mem_nil, false_and, exists_false, or_false]
      tauto

theorem satisfies_auditClauses {filters : AuditFilters} {row : AuditRow} :
    satisfies (auditClauses like filters) row = true ↔
      satisfies (auditClauses like { filters with query := none }) row = true ∧
        ∀ query ∈ given filters.query, ∃ column ∈ auditColumns row,
          like column (queryPattern query) = true := by
  have hcolumns : ∀ query, (like row.event.action (queryPattern query) ||
      like row.event.objectType (queryPattern query) ||
      row.event.objectId.any (like · (queryPattern query)) ||
      like row.event.clientIp (queryPattern query) ||
      row.username.any (like · (queryPattern query))) =
        (auditColumns row).any (like · (queryPattern query)) := by
    intro query
    cases hobject : row.event.objectId <;> cases husername : row.username <;>
      simp [auditColumns, hobject, husername, Bool.or_assoc]
  simp only [auditClauses, satisfies_reduceOption, List.forall_mem_cons, Option.forall_mem_map,
    hcolumns, List.any_eq_true, given_none]
  cases given filters.query with
  | none => simp
  | some query =>
      simp only [Option.mem_def, Option.some.injEq, forall_eq', reduceCtorEq, false_imp_iff,
        implies_true, List.not_mem_nil]
      tauto

end Filters

/-- The condition on the text of a literal query: one of the columns contains it. -/
theorem matches_given_iff {fold : Char → Char} {query : Text} {columns : List Text}
    (hne : columns ≠ []) (hliteral : isLiteral (strip query) = true) :
    (∀ text ∈ given (some query), ∃ column ∈ columns, ilike fold column (queryPattern text) =
    true) ↔
      ∃ column ∈ columns, Contains fold (strip query) column := by
  by_cases hquery : query = []
  · -- No text is no condition, and every column contains the empty word.
    subst hquery
    obtain ⟨column, rest, rfl⟩ := List.exists_cons_of_ne_nil hne
    have hempty : Contains fold (strip []) column := ⟨[], _, rfl⟩
    simp only [given, ne_eq, not_true_eq_false, decide_false, Option.filter_some_neg,
      Option.mem_def, reduceCtorEq, false_imp_iff, implies_true, true_iff]
    exact ⟨column, List.mem_cons_self, hempty⟩
  · have hgiven : given (some query) = some query := Option.filter_some_pos (by simpa using hquery)
    simp only [hgiven, Option.mem_def, Option.some.injEq, forall_eq', ilike_queryPattern hliteral]

/-! ## The search -/

variable (fold : Char → Char) (query : Text)

/-- The rows of the wake events that a search for the text as a part of a column selects. -/
def IsWakeHit (data : Data) (filters : WakeFilters) (row : WakeRow) : Prop :=
  IsWakeMatch (ilike fold) data { filters with query := none } row ∧
    ∃ column ∈ wakeColumns row.event, Contains fold (strip query) column

/-- The rows of the audit events that a search for the text as a part of a column selects. -/
def IsAuditHit (data : Data) (filters : AuditFilters) (row : AuditRow) : Prop :=
  IsAuditMatch (ilike fold) data { filters with query := none } row ∧
    ∃ column ∈ auditColumns row, Contains fold (strip query) column

/-- The pages of `wake_events` for the query are those of a search for its text. The other filters
can be sent. -/
def SearchesWakeEvents : Prop :=
  ∀ (data : Data) (filters : WakeFilters) (pageSize : ℕ), filters.query = some query →
    AreBindable (wakeTexts { filters with query := none }) → 1 ≤ pageSize → pageSize < 2 ^ 63 →
    ∃ rows, IsListing (fun row => row.event.occurredAt) WakeRow.id
      (IsWakeHit fold query data filters)
        rows ∧
      IsPaged (fun page => wakeEvents (ilike fold) data page pageSize filters) pageSize
        (rows.map wakeView)

/-- The export of `wake_events_csv` for the query is that of a search for its text. -/
def SearchesExport (isoformat : ℤ → Text) : Prop :=
  ∀ (data : Data) (filters : WakeFilters), filters.query = some query →
    AreBindable (wakeTexts { filters with query := none }) →
    ∃ rows, IsListing (fun row => row.event.occurredAt) WakeRow.id
      (IsWakeHit fold query data filters)
        rows ∧
      wakeEventsCsv (ilike fold) isoformat data filters = .ok (writerow csvHeader ++
        (rows.take 10000).flatMap fun row => writerow (csvRow isoformat row))

/-- The pages of `audit_events` for the query are those of a search for its text. -/
def SearchesAuditEvents : Prop :=
  ∀ (data : Data) (filters : AuditFilters) (pageSize : ℕ), filters.query = some query →
    AreBindable (auditTexts { filters with query := none }) → 1 ≤ pageSize → pageSize < 2 ^ 63 →
    ∃ rows, IsListing (fun row => row.event.occurredAt) AuditRow.id
        (IsAuditHit fold query data filters) rows ∧
      IsPaged (fun page => auditEvents (ilike fold) data page pageSize filters) pageSize
        (rows.map auditView)

/-- The trimmed text is literal and can be sent. -/
def isSearchable : Bool := isLiteral (strip query) && !query.contains '\x00'

variable {fold query} {data : Data}

theorem isSearchable_iff :
    isSearchable query = true ↔ isLiteral (strip query) = true ∧ '\x00' ∉ query := by
  simp [isSearchable]

/-- The pattern of a query holds a NUL character just if the query does. -/
theorem mem_queryPattern : '\x00' ∈ queryPattern query ↔ '\x00' ∈ query := by
  rw [queryPattern, List.cons_append, List.mem_cons, List.mem_append, List.mem_singleton,
    mem_strip rfl]
  simp

/-- The texts of a query come on top of the other ones. -/
theorem areBindable_given_iff :
    AreBindable (((given (some query)).map queryPattern).toList) ↔ '\x00' ∉ query := by
  by_cases hquery : query = []
  · simp [hquery, given, AreBindable]
  · simp [hquery, given, AreBindable, mem_queryPattern]

theorem areBindable_wakeTexts_iff {filters : WakeFilters} (hquery : filters.query = some query)
    (hothers : AreBindable (wakeTexts { filters with query := none })) :
    AreBindable (wakeTexts filters) ↔ '\x00' ∉ query := by
  rw [← areBindable_given_iff, ← hquery]
  simp only [AreBindable, wakeTexts, List.forall_mem_append] at hothers ⊢
  exact and_iff_right hothers.1

theorem areBindable_auditTexts_iff {filters : AuditFilters} (hquery : filters.query = some query)
    (hothers : AreBindable (auditTexts { filters with query := none })) :
    AreBindable (auditTexts filters) ↔ '\x00' ∉ query := by
  rw [← areBindable_given_iff, ← hquery]
  simp only [AreBindable, auditTexts, List.forall_mem_append] at hothers ⊢
  exact and_iff_right hothers.1

theorem isWakeMatch_iff_isWakeHit {filters : WakeFilters} {row : WakeRow}
    (hquery : filters.query = some query) (hliteral : isLiteral (strip query) = true) :
    IsWakeMatch (ilike fold) data filters row ↔ IsWakeHit fold query data filters row := by
  have hcolumns : wakeColumns row.event ≠ [] := List.cons_ne_nil _ _
  rw [IsWakeHit, IsWakeMatch, IsWakeMatch, satisfies_wakeFilters, hquery,
    matches_given_iff hcolumns hliteral]
  tauto

theorem isAuditMatch_iff_isAuditHit {filters : AuditFilters} {row : AuditRow}
    (hquery : filters.query = some query) (hliteral : isLiteral (strip query) = true) :
    IsAuditMatch (ilike fold) data filters row ↔ IsAuditHit fold query data filters row := by
  have hcolumns : auditColumns row ≠ [] := List.cons_ne_nil _ _
  rw [IsAuditHit, IsAuditMatch, IsAuditMatch, satisfies_auditClauses, hquery,
    matches_given_iff hcolumns hliteral]
  tauto

/-! ## One event that only the pattern finds -/

/-- The row of a table with one row. -/
theorem eq_of_lookup_insert {Row : Type} {key id : ℕ} {row found : Row}
    (h : ((∅ : Table Row).insert key row).lookup id = some found) : found = row := by
  rw [Table.lookup_insert] at h
  split at h
  · exact (Option.some.inj h).symm
  · cases h

/-- A wake event with the text in its columns. -/
def wakeEventOf (text : Text) : WakeEvent :=
  { sampleWakeEvent "success".toList 0 0 with macAddress := text, sourceIp := text }

/-- An audit event of the action. -/
def auditEventOf (action : Text) : AuditEvent :=
  { sampleAuditEvent none 0 with action := action }

/-- A wake event with the text in its columns, its listener and its device. -/
def oneWakeEvent (text : Text) : Data where
  mappings := Operations.sampleData.mappings
  devices := Operations.sampleData.devices
  users := ∅
  wakeEvents := (∅ : Table WakeEvent).insert 0 (wakeEventOf text)
  auditEvents := ∅
  mapping_exists := by
    intro id event hevent
    have hmapping : (Operations.sampleData.mappings.lookup 0).isSome := by decide +kernel
    rwa [eq_of_lookup_insert hevent]
  device_exists := by
    intro id event hevent
    have hdevice : (Operations.sampleData.devices.lookup 0).isSome := by decide +kernel
    rwa [eq_of_lookup_insert hevent]

/-- An audit event of the action, and nothing else. -/
def oneAuditEvent (action : Text) : Data where
  mappings := ∅
  devices := ∅
  users := ∅
  wakeEvents := ∅
  auditEvents := (∅ : Table AuditEvent).insert 0 (auditEventOf action)
  mapping_exists := fun _ _ hevent => by cases hevent
  device_exists := fun _ _ hevent => by cases hevent

/-- A search for the text alone. -/
def wakeQuery (query : Text) : WakeFilters := ⟨none, none, none, some query, none, none⟩

/-- A search for the text alone. -/
def auditQuery (query : Text) : AuditFilters := ⟨none, none, some query⟩

/-- What a condition on the text of a query asks for. -/
theorem eq_of_mem_given {text : Text} (h : text ∈ given (some query)) : text = query :=
  (Option.some.inj (Option.mem_filter_iff.1 h).1).symm

theorem exists_isWakeMatch (fold : Char → Char) (query : Text) :
    ∃ row, IsWakeMatch (ilike fold) (oneWakeEvent (shortestMatch query)) (wakeQuery query) row := by
  have hevent : (oneWakeEvent (shortestMatch query)).wakeEvents.lookup 0 =
      some (wakeEventOf (shortestMatch query)) := AList.lookup_insert _
  obtain ⟨mapping, device, hmapping, hdevice, -⟩ := exists_joinWakeEvent hevent
  refine ⟨⟨0, wakeEventOf (shortestMatch query), mapping.name, device.name⟩, hevent,
    satisfies_wakeFilters.2 ⟨rfl, ?_⟩, by rw [hmapping]; rfl, by rw [hdevice]; rfl⟩
  intro text htext
  rw [eq_of_mem_given htext]
  exact ⟨shortestMatch query, List.mem_cons_self, ilike_shortestMatch query⟩

theorem exists_isAuditMatch (fold : Char → Char) (query : Text) :
    ∃ row, IsAuditMatch (ilike fold) (oneAuditEvent (shortestMatch query))
      (auditQuery query) row := by
  have hevent : (oneAuditEvent (shortestMatch query)).auditEvents.lookup 0 =
      some (auditEventOf (shortestMatch query)) := AList.lookup_insert _
  refine ⟨⟨0, auditEventOf (shortestMatch query), none⟩, hevent, rfl, satisfies_auditClauses.2
    ⟨rfl, ?_⟩⟩
  intro text htext
  rw [eq_of_mem_given htext]
  exact ⟨shortestMatch query, List.mem_cons_self, ilike_shortestMatch query⟩

theorem isLiteral_of_isWakeHit (hfold : KeepsSpecial fold) {filters : WakeFilters} {row : WakeRow}
    (h : IsWakeHit fold query (oneWakeEvent (shortestMatch query)) filters row) :
    isLiteral (strip query) = true := by
  obtain ⟨⟨hevent, -⟩, column, hcolumn, hcontains⟩ := h
  have hid : isLiteral (uuidText 0) = true := by decide +kernel
  rw [eq_of_lookup_insert hevent] at hcolumn
  rw [wakeColumns, List.mem_cons, List.mem_cons, List.mem_singleton] at hcolumn
  obtain rfl | rfl | rfl := hcolumn
  · exact isLiteral_of_contains_shortestMatch hfold hcontains
  · exact isLiteral_of_contains_shortestMatch hfold hcontains
  · exact isLiteral_of_contains hfold hid hcontains

theorem isLiteral_of_isAuditHit (hfold : KeepsSpecial fold) {filters : AuditFilters}
    {row : AuditRow}
    (h : IsAuditHit fold query (oneAuditEvent (shortestMatch query)) filters row) :
    isLiteral (strip query) = true := by
  obtain ⟨⟨hevent, husername, -⟩, column, hcolumn, hcontains⟩ := h
  have hrow : row.event = auditEventOf (shortestMatch query) := eq_of_lookup_insert hevent
  have hothers : ∀ other ∈ ["device".toList, uuidText 0, "192.0.2.1".toList],
      isLiteral other = true := by decide +kernel
  have husername' : row.username = none := by rw [husername, hrow]; rfl
  rw [auditColumns, hrow, husername'] at hcolumn
  obtain rfl | hcolumn := List.mem_cons.1 hcolumn
  · exact isLiteral_of_contains_shortestMatch hfold hcontains
  · exact isLiteral_of_contains hfold (hothers column hcolumn) hcontains

/-! ## The exact condition -/

/-- The other filters of a search for a text alone. -/
theorem areBindable_others :
    AreBindable (wakeTexts { wakeQuery query with query := none }) ∧
      AreBindable (auditTexts { auditQuery query with query := none }) := by
  simp [AreBindable, wakeTexts, auditTexts, wakeQuery, auditQuery, given]

/-- What is not sent is not answered. -/
theorem areBindable_of_isPaged_wakeEvents {like : Text → Text → Bool} {filters : WakeFilters}
    {items : List WakeView}
    (h : IsPaged (fun page => wakeEvents like data page 1 filters) 1 items) :
    AreBindable (wakeTexts filters) := by
  by_contra hnot
  obtain ⟨answer, hanswer, -⟩ := h.answered 1 (by decide)
  rw [wakeEvents, bindTexts_eq_error hnot] at hanswer
  cases hanswer

theorem areBindable_of_isPaged_auditEvents {like : Text → Text → Bool} {filters : AuditFilters}
    {items : List AuditView}
    (h : IsPaged (fun page => auditEvents like data page 1 filters) 1 items) :
    AreBindable (auditTexts filters) := by
  by_contra hnot
  obtain ⟨answer, hanswer, -⟩ := h.answered 1 (by decide)
  rw [auditEvents, bindTexts_eq_error hnot] at hanswer
  cases hanswer

theorem areBindable_of_wakeEventsCsv {like : Text → Text → Bool} {isoformat : ℤ → Text}
    {filters : WakeFilters} {content : Text}
    (h : wakeEventsCsv like isoformat data filters = .ok content) :
    AreBindable (wakeTexts filters) := by
  by_contra hnot
  rw [wakeEventsCsv, bindTexts_eq_error hnot] at h
  cases h

/-- How many items there are is the same for all lists that the pages are cut from. -/
theorem length_eq_of_isPaged {View : Type} {pageOf : ℕ → Except DataError (EventPage View)}
    {items items' : List View} (h : IsPaged pageOf 1 items) (h' : IsPaged pageOf 1 items') :
    items.length = items'.length := by
  obtain ⟨answer, hanswer, htotal, -⟩ := h.answered 1 (by decide)
  obtain ⟨answer', hanswer', htotal', -⟩ := h'.answered 1 (by decide)
  obtain rfl := Except.ok.inj (hanswer.symm.trans hanswer')
  exact htotal.symm.trans htotal'

/-- The page counts the event that matches the pattern. -/
theorem isSearchable_of_searchesWakeEvents (hfold : KeepsSpecial fold)
    (h : SearchesWakeEvents fold query) : isSearchable query = true := by
  obtain ⟨rows, hlisting, hpaged⟩ := h (oneWakeEvent (shortestMatch query)) (wakeQuery query) 1 rfl
    areBindable_others.1 (Nat.le_refl 1) (by decide)
  have hbindable := areBindable_of_isPaged_wakeEvents hpaged
  refine isSearchable_iff.2 ⟨?_, (areBindable_wakeTexts_iff rfl areBindable_others.1).1 hbindable⟩
  by_contra hspecial
  have hempty : rows = [] :=
    hlisting.eq_nil fun row hrow => hspecial (isLiteral_of_isWakeHit hfold hrow)
  obtain ⟨row, hrow⟩ := exists_isWakeMatch fold query
  have hmem := ((isListing_orderWakeEvents (wakeQuery query)).complete row).2 hrow
  have htotal := length_eq_of_isPaged (isPaged_wakeEvents hbindable (Nat.le_refl 1) (by decide))
    hpaged
  rw [hempty, List.map_nil, List.length_nil, List.length_map] at htotal
  exact List.ne_nil_of_mem hmem (List.eq_nil_of_length_eq_zero htotal)

/-- The export has a line for the event that matches the pattern. -/
theorem isSearchable_of_searchesExport (hfold : KeepsSpecial fold) {isoformat : ℤ → Text}
    (h : SearchesExport fold query isoformat) : isSearchable query = true := by
  obtain ⟨rows, hlisting, hexport⟩ := h (oneWakeEvent (shortestMatch query)) (wakeQuery query) rfl
    areBindable_others.1
  have hbindable := areBindable_of_wakeEventsCsv hexport
  refine isSearchable_iff.2 ⟨?_, (areBindable_wakeTexts_iff rfl areBindable_others.1).1 hbindable⟩
  by_contra hspecial
  have hempty : rows = [] :=
    hlisting.eq_nil fun row hrow => hspecial (isLiteral_of_isWakeHit hfold hrow)
  obtain ⟨row, hrow⟩ := exists_isWakeMatch fold query
  have hmem := ((isListing_orderWakeEvents (wakeQuery query)).complete row).2 hrow
  rw [wakeEventsCsv_eq_ok hbindable, hempty] at hexport
  have hlines := List.append_cancel_left (Except.ok.inj hexport)
  obtain ⟨first, others, hrows⟩ := List.exists_cons_of_ne_nil (List.ne_nil_of_mem hmem)
  rw [hrows, List.take_succ_cons, List.flatMap_cons] at hlines
  have hline : writerow (csvRow isoformat first) = [] := (List.append_eq_nil_iff.1 hlines).1
  cases (List.append_eq_nil_iff.1 hline).2

/-- The page counts the event that matches the pattern. -/
theorem isSearchable_of_searchesAuditEvents (hfold : KeepsSpecial fold)
    (h : SearchesAuditEvents fold query) : isSearchable query = true := by
  obtain ⟨rows, hlisting, hpaged⟩ := h (oneAuditEvent (shortestMatch query)) (auditQuery query) 1
    rfl areBindable_others.2 (Nat.le_refl 1) (by decide)
  have hbindable := areBindable_of_isPaged_auditEvents hpaged
  refine isSearchable_iff.2 ⟨?_, (areBindable_auditTexts_iff rfl areBindable_others.2).1 hbindable⟩
  by_contra hspecial
  have hempty : rows = [] :=
    hlisting.eq_nil fun row hrow => hspecial (isLiteral_of_isAuditHit hfold hrow)
  obtain ⟨row, hrow⟩ := exists_isAuditMatch fold query
  have hmem := ((isListing_orderAuditEvents (auditQuery query)).complete row).2 hrow
  have htotal := length_eq_of_isPaged (isPaged_auditEvents hbindable (Nat.le_refl 1) (by decide))
    hpaged
  rw [hempty, List.map_nil, List.length_nil, List.length_map] at htotal
  exact List.ne_nil_of_mem hmem (List.eq_nil_of_length_eq_zero htotal)

/-- **The text search.** Where no other character is one with a meaning in a pattern up to case, the
pages of the wake events, their export and the pages of the audit events for a query are those of a
search for the trimmed text as a part of a column, for all data and all other filters, just if the
trimmed text has no percent sign, underscore or backslash, and no NUL character. -/
theorem text_search_iff (hfold : KeepsSpecial fold) (isoformat : ℤ → Text) (query : Text) :
    (SearchesWakeEvents fold query ↔ isSearchable query = true) ∧
      (SearchesExport fold query isoformat ↔ isSearchable query = true) ∧
      (SearchesAuditEvents fold query ↔ isSearchable query = true) := by
  refine ⟨⟨isSearchable_of_searchesWakeEvents hfold, fun hsearchable => ?_⟩,
    ⟨isSearchable_of_searchesExport hfold, fun hsearchable => ?_⟩,
    ⟨isSearchable_of_searchesAuditEvents hfold, fun hsearchable => ?_⟩⟩
  all_goals obtain ⟨hliteral, hnul⟩ := isSearchable_iff.1 hsearchable
  · intro data filters pageSize hquery hothers hsize hlimit
    exact ⟨_, (isListing_orderWakeEvents filters).congr fun row =>
      isWakeMatch_iff_isWakeHit hquery hliteral, isPaged_wakeEvents
        ((areBindable_wakeTexts_iff hquery hothers).2 hnul) hsize hlimit⟩
  · intro data filters hquery hothers
    exact ⟨_, (isListing_orderWakeEvents filters).congr fun row =>
      isWakeMatch_iff_isWakeHit hquery hliteral,
      wakeEventsCsv_eq_ok ((areBindable_wakeTexts_iff hquery hothers).2 hnul)⟩
  · intro data filters pageSize hquery hothers hsize hlimit
    exact ⟨_, (isListing_orderAuditEvents filters).congr fun row =>
      isAuditMatch_iff_isAuditHit hquery hliteral, isPaged_auditEvents
        ((areBindable_auditTexts_iff hquery hothers).2 hnul) hsize hlimit⟩

/-- Lower case keeps the characters with a meaning in a pattern apart. -/
theorem keepsSpecial_toLower : KeepsSpecial Char.toLower := by
  intro c d hc hcd
  simp only [isSpecial, Bool.or_eq_true, beq_iff_eq] at hc
  have hlower : c.toLower = c := by
    obtain (rfl | rfl) | rfl := hc <;> decide
  rw [hlower] at hcd
  unfold Char.toLower at hcd
  split at hcd
  · rename_i hupper
    -- A lower case letter is none of the three characters.
    have hlow : 65 ≤ d.val.toNat := UInt32.le_iff_toNat_le.1 hupper.1
    have hhigh : d.val.toNat ≤ 90 := UInt32.le_iff_toNat_le.1 hupper.2
    have hval : (d.val.toNat + 32) % 2 ^ 32 = c.toNat := congrArg Char.toNat hcd
    have hspecial : c.toNat = 37 ∨ c.toNat = 95 ∨ c.toNat = 92 := by
      obtain (rfl | rfl) | rfl := hc <;> decide
    omega
  · exact hcd

theorem text_search_iff_toLower :
    SearchesAuditEvents Char.toLower " firewall ".toList ∧
      ¬SearchesAuditEvents Char.toLower "device_created".toList ∧
      ¬SearchesAuditEvents Char.toLower "dev\x00".toList := by
  have hsearch := fun query =>
    (text_search_iff keepsSpecial_toLower (fun _ => []) query).2.2
  exact ⟨(hsearch _).2 (by decide +kernel), fun h => absurd ((hsearch _).1 h) (by decide +kernel),
    fun h => absurd ((hsearch _).1 h) (by decide +kernel)⟩

/-- The underscore of a query stands for the dot of an action. -/
theorem audit_search_device_created :
    (auditEvents (ilike Char.toLower) recordedData 1 25 (auditQuery "device_created".toList)).map
        EventPage.total = .ok 2 ∧
      ∀ row ∈ outerjoin recordedData, ∀ column ∈ auditColumns row,
        ¬Contains Char.toLower (strip "device_created".toList) column := by
  decide +kernel

end Wolt.Observability
