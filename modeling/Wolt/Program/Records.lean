/-
# Rows of fields as text

A table as text, in the way that the `excel` dialect of Python's `csv` writes and reads it. A field
that holds a special character is written between quotes, and the quotes inside it are doubled. The
reader goes through the text character by character and is told where a line of the text ends, since
a line that ends inside quotes does not end the row.

Reading what was written gives the rows back. The alphabet is arbitrary; a dialect names the four
special characters.
-/

import Mathlib.Data.List.Basic
import Mathlib.Tactic.Common

namespace Wolt

/-- The special characters. -/
structure Dialect (A : Type) where
  delimiter : A
  quote : A
  carriageReturn : A
  lineFeed : A
  distinct : [delimiter, quote, carriageReturn, lineFeed].Nodup

namespace Dialect

variable {A : Type} (dialect : Dialect A)

theorem quote_ne_delimiter : dialect.quote ≠ dialect.delimiter := by
  have h := dialect.distinct
  simp only [List.nodup_cons, List.mem_cons, not_or] at h
  exact fun heq => h.1.1 heq.symm

theorem carriageReturn_ne_lineFeed : dialect.carriageReturn ≠ dialect.lineFeed := by
  have h := dialect.distinct
  simp only [List.nodup_cons, List.mem_cons, not_or] at h
  exact h.2.2.1.1

variable [DecidableEq A]

/-! ## Writing -/

/-- A character that ends a line. -/
def isBreak (c : A) : Bool := c = dialect.carriageReturn || c = dialect.lineFeed

/-- A character that puts its field between quotes. -/
def isSpecial (c : A) : Bool := c = dialect.delimiter || c = dialect.quote || dialect.isBreak c

/-- A character between quotes. -/
def escape (c : A) : List A := if c = dialect.quote then [c, c] else [c]

/-- A field. -/
def writeField (field : List A) : List A :=
  if field.any dialect.isSpecial
  then dialect.quote :: field.flatMap dialect.escape ++ [dialect.quote]
  else field

/-- A row. A row of one empty field is written in another way, which is left out. -/
def writeRow (row : List (List A)) : List A :=
  List.intercalate [dialect.delimiter] (row.map dialect.writeField) ++
    [dialect.carriageReturn, dialect.lineFeed]

/-! ## Reading -/

/-- Where the reader stands. -/
inductive Mode
  | startRecord
  | startField
  | inField
  | inQuotedField
  | quoteInQuotedField
  | eatCrnl
  deriving DecidableEq

/-- The reader, with the fields of the row so far and the characters of the field so far. -/
structure Reader (A : Type) where
  mode : Mode
  fields : List (List A)
  field : List A

namespace Reader

/-- Before a row. -/
def start : Reader A := ⟨.startRecord, [], []⟩

/-- The character belongs to the field. -/
def add (reader : Reader A) (c : A) (mode : Mode) : Reader A :=
  { reader with mode := mode, field := reader.field ++ [c] }

/-- The field is complete. -/
def save (reader : Reader A) (mode : Mode) : Reader A :=
  ⟨mode, reader.fields ++ [reader.field], []⟩

/-- A line of the text ends here. -/
def endLine (reader : Reader A) : Reader A :=
  match reader.mode with
  | .startRecord | .eatCrnl => { reader with mode := .startRecord }
  | .startField | .inField | .quoteInQuotedField => reader.save .startRecord
  | .inQuotedField => reader

end Reader

/-- A character where a field begins. -/
def beginField (reader : Reader A) (c : A) : Reader A :=
  if dialect.isBreak c then reader.save .eatCrnl
  else if c = dialect.quote then { reader with mode := .inQuotedField }
  else if c = dialect.delimiter then reader.save .startField
  else reader.add c .inField

/-- One character; `none` where the reader raises. -/
def process (reader : Reader A) (c : A) : Option (Reader A) :=
  match reader.mode with
  | .startRecord =>
      some (if dialect.isBreak c then { reader with mode := .eatCrnl }
        else dialect.beginField reader c)
  | .startField => some (dialect.beginField reader c)
  | .inField =>
      some (if dialect.isBreak c then reader.save .eatCrnl
        else if c = dialect.delimiter then reader.save .startField
        else reader.add c .inField)
  | .inQuotedField =>
      some (if c = dialect.quote then { reader with mode := .quoteInQuotedField }
        else reader.add c .inQuotedField)
  | .quoteInQuotedField =>
      some (if c = dialect.quote then reader.add c .inQuotedField
        else if c = dialect.delimiter then reader.save .startField
        else if dialect.isBreak c then reader.save .eatCrnl
        else reader.add c .inField)
  | .eatCrnl => if dialect.isBreak c then some reader else none

/-- A line of the text ends behind this character. -/
def endsLine (c : A) (rest : List A) : Bool :=
  c = dialect.lineFeed || rest.isEmpty ||
    (c = dialect.carriageReturn && rest.head? ≠ some dialect.lineFeed)

/-- The rows of a text; `none` where the reader raises. -/
def read (reader : Reader A) : List A → Option (List (List (List A)))
  | [] =>
      some (if reader.field ≠ [] ∨ reader.mode = .inQuotedField
        then [(reader.save .startRecord).fields] else [])
  | c :: rest => do
      let next ← dialect.process reader c
      if dialect.endsLine c rest then
        if next.endLine.mode = .startRecord then do
          let rows ← read .start rest
          return next.endLine.fields :: rows
        else read next.endLine rest
      else read next rest

/-! ## Reading what was written -/

section RoundTrip

variable {dialect} {c : A} {rest : List A} {reader : Reader A}

theorem isBreak_quote : dialect.isBreak dialect.quote = false := by
  have h := dialect.distinct
  simp only [List.nodup_cons, List.mem_cons, not_or] at h
  simp [isBreak, h.2.1.1, h.2.1.2.1]

theorem isBreak_delimiter : dialect.isBreak dialect.delimiter = false := by
  have h := dialect.distinct
  simp only [List.nodup_cons, List.mem_cons, not_or] at h
  simp [isBreak, h.1.2.1, h.1.2.2.1]

theorem isBreak_carriageReturn : dialect.isBreak dialect.carriageReturn = true := by simp [isBreak]

theorem isBreak_lineFeed : dialect.isBreak dialect.lineFeed = true := by simp [isBreak]

theorem endsLine_of_not_isBreak (hbreak : dialect.isBreak c = false) (hrest : rest ≠ []) :
    dialect.endsLine c rest = false := by
  simp only [isBreak, Bool.or_eq_false_iff, decide_eq_false_iff_not] at hbreak
  simp [endsLine, hbreak.1, hbreak.2, hrest]

/-- A character inside a line. -/
theorem read_cons {next : Reader A} (hbreak : dialect.isBreak c = false) (hrest : rest ≠ [])
    (hnext : dialect.process reader c = some next) :
    dialect.read reader (c :: rest) = dialect.read next rest := by
  simp [read, hnext, endsLine_of_not_isBreak hbreak hrest]

/-- Between quotes, where a line of the text ends makes no difference. -/
theorem read_cons_inQuotedField (hmode : reader.mode = .inQuotedField) (hc : c ≠ dialect.quote) :
    dialect.read reader (c :: rest) = dialect.read (reader.add c .inQuotedField) rest := by
  have hnext : dialect.process reader c = some (reader.add c .inQuotedField) := by
    simp [process, hmode, hc]
  have hend : (reader.add c .inQuotedField).endLine = reader.add c .inQuotedField := rfl
  have hstart : (reader.add c .inQuotedField).mode ≠ .startRecord := Mode.noConfusion
  simp [read, hnext, hend, hstart]

/-- The characters of a field between quotes, up to the closing one. -/
theorem read_escaped {field tail : List A} (htail : tail ≠ [])
    (hmode : reader.mode = .inQuotedField) :
    dialect.read reader (field.flatMap dialect.escape ++ dialect.quote :: tail) =
      dialect.read ⟨.quoteInQuotedField, reader.fields, reader.field ++ field⟩ tail := by
  induction field generalizing reader with
  | nil =>
      have hnext : dialect.process reader dialect.quote =
          some ⟨.quoteInQuotedField, reader.fields, reader.field⟩ := by simp [process, hmode]
      simpa using read_cons isBreak_quote htail hnext
  | cons c field ih =>
      by_cases hc : c = dialect.quote
      · subst hc
        have hopen : dialect.process reader dialect.quote =
            some { reader with mode := .quoteInQuotedField } := by simp [process, hmode]
        have hclose : dialect.process { reader with mode := .quoteInQuotedField } dialect.quote =
            some (reader.add dialect.quote .inQuotedField) := by simp [process, Reader.add]
        simp only [List.flatMap_cons, escape, if_pos, List.cons_append, List.nil_append]
        rw [read_cons isBreak_quote (by simp) hopen, read_cons isBreak_quote (by simp) hclose,
          ih rfl]
        simp [Reader.add]
      · simp only [List.flatMap_cons, escape, if_neg hc, List.cons_append, List.nil_append]
        rw [read_cons_inQuotedField hmode hc, ih rfl]
        simp [Reader.add]

/-- The characters of a field without quotes. -/
theorem read_plain {field tail : List A} (htail : tail ≠ [])
    (hplain : ∀ c ∈ field, dialect.isSpecial c = false) (hmode : reader.mode = .inField) :
    dialect.read reader (field ++ tail) =
      dialect.read ⟨.inField, reader.fields, reader.field ++ field⟩ tail := by
  induction field generalizing reader with
  | nil =>
      obtain ⟨mode, fields, field⟩ := reader
      subst hmode
      simp
  | cons c field ih =>
      have hspecial := hplain c (List.mem_cons_self ..)
      simp only [isSpecial, Bool.or_eq_false_iff, decide_eq_false_iff_not] at hspecial
      have hnext : dialect.process reader c = some (reader.add c .inField) := by
        simp [process, hmode, hspecial.1.1, hspecial.2]
      rw [List.cons_append, read_cons hspecial.2 (by simp [htail]) hnext,
        ih (fun d hd => hplain d (List.mem_cons_of_mem _ hd)) rfl]
      simp [Reader.add]

/-- The reader has the characters of a field, and what stands behind them completes it. -/
structure Completes (dialect : Dialect A) (reader : Reader A) (fields : List (List A))
    (field : List A) : Prop where
  fields_eq : reader.fields = fields
  field_eq : reader.field = field
  delimiter : dialect.process reader dialect.delimiter = some (reader.save .startField)
  carriageReturn : dialect.process reader dialect.carriageReturn = some (reader.save .eatCrnl)

theorem completes_inField {fields : List (List A)} {field : List A} :
    Completes dialect ⟨.inField, fields, field⟩ fields field where
  fields_eq := rfl
  field_eq := rfl
  delimiter := by simp [process, isBreak_delimiter]
  carriageReturn := by simp [process, isBreak_carriageReturn]

theorem completes_quoteInQuotedField {fields : List (List A)} {field : List A} :
    Completes dialect ⟨.quoteInQuotedField, fields, field⟩ fields field where
  fields_eq := rfl
  field_eq := rfl
  delimiter := by simp [process, dialect.quote_ne_delimiter.symm]
  carriageReturn := by
    have h := dialect.distinct
    simp only [List.nodup_cons, List.mem_cons, not_or] at h
    have hquote : dialect.carriageReturn ≠ dialect.quote := fun heq => h.2.1.1 heq.symm
    have hdelimiter : dialect.carriageReturn ≠ dialect.delimiter := fun heq => h.1.2.1 heq.symm
    simp [process, isBreak_carriageReturn, hquote, hdelimiter]

theorem completes_startField {fields : List (List A)} :
    Completes dialect ⟨.startField, fields, []⟩ fields [] where
  fields_eq := rfl
  field_eq := rfl
  delimiter := by
    simp [process, beginField, isBreak_delimiter, dialect.quote_ne_delimiter.symm]
  carriageReturn := by simp [process, beginField, isBreak_carriageReturn]

variable (dialect) in
/-- The reader goes through a field that is not the empty first one of a row. -/
theorem exists_completes {mode : Mode} (fields : List (List A)) (field : List A) {tail : List A}
    (htail : tail ≠ [])
    (hmode : mode = .startField ∨ mode = .startRecord ∧ field ≠ []) :
    ∃ next, Completes dialect next fields field ∧
      dialect.read ⟨mode, fields, []⟩ (dialect.writeField field ++ tail) =
        dialect.read next tail := by
  -- a character that begins a field begins it in a row as well
  have hbegin : ∀ {c}, dialect.isBreak c = false → dialect.process ⟨mode, fields, []⟩ c =
      some (dialect.beginField ⟨mode, fields, []⟩ c) := by
    intro c hc
    rcases hmode with rfl | ⟨rfl, _⟩ <;> simp [process, hc]
  unfold writeField
  split
  · -- the field stands between quotes
    refine ⟨_, completes_quoteInQuotedField, ?_⟩
    have hopen : dialect.process ⟨mode, fields, []⟩ dialect.quote =
        some ⟨.inQuotedField, fields, []⟩ := by
      rw [hbegin isBreak_quote]
      simp [beginField, isBreak_quote]
    rw [List.cons_append, List.cons_append, List.append_assoc, List.singleton_append,
      read_cons isBreak_quote (by simp) hopen, read_escaped htail rfl, List.nil_append]
  · rename_i hany
    have hplain : ∀ c ∈ field, dialect.isSpecial c = false := by simpa using hany
    cases field with
    | nil =>
        obtain rfl : mode = .startField := by simpa using hmode
        exact ⟨_, completes_startField, rfl⟩
    | cons c field =>
        refine ⟨_, completes_inField, ?_⟩
        have hspecial := hplain c (List.mem_cons_self ..)
        simp only [isSpecial, Bool.or_eq_false_iff, decide_eq_false_iff_not] at hspecial
        have hnext : dialect.process ⟨mode, fields, []⟩ c = some ⟨.inField, fields, [c]⟩ := by
          rw [hbegin hspecial.2]
          simp [beginField, hspecial.1.1, hspecial.1.2, hspecial.2, Reader.add]
        rw [List.cons_append, read_cons hspecial.2 (by simp [htail]) hnext,
          read_plain htail (fun d hd => hplain d (List.mem_cons_of_mem _ hd)) rfl,
          List.singleton_append]

/-- A field and the delimiter behind it. -/
theorem read_delimited {mode : Mode} {fields : List (List A)} {field tail : List A}
    (htail : tail ≠ [])
    (hmode : mode = .startField ∨ mode = .startRecord) :
    dialect.read ⟨mode, fields, []⟩ (dialect.writeField field ++ dialect.delimiter :: tail) =
      dialect.read ⟨.startField, fields ++ [field], []⟩ tail := by
  by_cases hempty : mode = .startRecord ∧ field = []
  · obtain ⟨rfl, rfl⟩ := hempty
    have hnext : dialect.process ⟨.startRecord, fields, []⟩ dialect.delimiter =
        some ⟨.startField, fields ++ [[]], []⟩ := by
      simp [process, beginField, isBreak_delimiter, dialect.quote_ne_delimiter.symm, Reader.save]
    simpa [writeField] using read_cons isBreak_delimiter htail hnext
  · obtain ⟨next, hnext, hread⟩ := exists_completes dialect fields field
      (List.cons_ne_nil dialect.delimiter tail) (show _ ∨ mode = .startRecord ∧ _ by tauto)
    rw [hread, read_cons isBreak_delimiter htail hnext.delimiter]
    simp [Reader.save, hnext.fields_eq, hnext.field_eq]

/-- The last field of a row, which is not its first, and the end of the row. -/
theorem read_ended {fields : List (List A)} {field tail : List A} :
    dialect.read ⟨.startField, fields, []⟩ (dialect.writeField field ++
        dialect.carriageReturn :: dialect.lineFeed :: tail) =
      (dialect.read .start tail).map fun rows => (fields ++ [field]) :: rows := by
  obtain ⟨next, hnext, hread⟩ := exists_completes dialect fields field
    (List.cons_ne_nil dialect.carriageReturn (dialect.lineFeed :: tail)) (.inl rfl)
  have hinside : dialect.endsLine dialect.carriageReturn (dialect.lineFeed :: tail) = false := by
    simp [endsLine, dialect.carriageReturn_ne_lineFeed]
  have hends : dialect.endsLine dialect.lineFeed tail = true := by simp [endsLine]
  have heat : dialect.process (next.save .eatCrnl) dialect.lineFeed =
      some (next.save .eatCrnl) := by simp [process, Reader.save, isBreak_lineFeed]
  rw [hread, read, hnext.carriageReturn]
  simp only [Option.bind_eq_bind, Option.bind_some, hinside, Bool.false_eq_true, if_false]
  rw [read, heat]
  simp only [Option.bind_eq_bind, Option.bind_some, hends, if_true, Reader.save, Reader.endLine,
    hnext.fields_eq, hnext.field_eq]
  cases dialect.read .start tail <;> rfl

/-- The fields of a row from the second on. -/
theorem read_fields {fields : List (List A)} {field : List A} {more : List (List A)}
    {tail : List A} :
    dialect.read ⟨.startField, fields, []⟩
        (dialect.writeRow (field :: more) ++ tail) =
      (dialect.read .start tail).map fun rows => (fields ++ field :: more) :: rows := by
  induction more generalizing fields field with
  | nil => simpa [writeRow] using read_ended
  | cons next more ih =>
      have htext : dialect.writeRow (field :: next :: more) ++ tail =
          dialect.writeField field ++ dialect.delimiter ::
            (dialect.writeRow (next :: more) ++ tail) := by
        simp [writeRow, List.intercalate]
      rw [htext, read_delimited (by simp [writeRow]) (.inl rfl), ih]
      simp

/-- **A row is read back**, and the text behind it is read as if it stood alone. -/
theorem read_writeRow {row : List (List A)} (hrow : 2 ≤ row.length) {tail : List A} :
    dialect.read .start (dialect.writeRow row ++ tail) =
      (dialect.read .start tail).map fun rows => row :: rows := by
  match row, hrow with
  | first :: second :: more, _ =>
      have htext : dialect.writeRow (first :: second :: more) ++ tail =
          dialect.writeField first ++ dialect.delimiter ::
            (dialect.writeRow (second :: more) ++ tail) := by
        simp [writeRow, List.intercalate]
      rw [htext]
      refine (read_delimited (by simp [writeRow]) (.inr rfl)).trans ?_
      rw [read_fields]
      rfl

/-- **Rows are read back.** -/
theorem read_writeRows {rows : List (List (List A))} (hrows : ∀ row ∈ rows, 2 ≤ row.length) :
    dialect.read .start (rows.flatMap dialect.writeRow) = some rows := by
  induction rows with
  | nil => simp [read, Reader.start]
  | cons row rows ih =>
      rw [List.flatMap_cons, read_writeRow (hrows row (List.mem_cons_self ..)),
        ih fun row hrow => hrows row (List.mem_cons_of_mem _ hrow)]
      rfl

end RoundTrip

end Dialect

end Wolt
