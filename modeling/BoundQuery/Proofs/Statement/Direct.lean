import BoundQuery.Proofs.Condition.Direct
import BoundQuery.Proofs.Statement.Clean

/-!
# Statements written directly

A statement can be written in one pass from what it has collected, clause by clause in the order of
the grammar, with what `write` makes of each value at the very place where the value belongs: next
to its column, in its row, after its operator, in its list, at its marker, or after `LIMIT` and
`OFFSET`.

## Main definitions

* `Select.textWith`, `Insert.textWith`, `Modify.textWith` — the texts with the values in place.
* `Statement.textWith` — the same for statements of any kind.

## Main statements

* `Statement.Writes.print` — printing the template of a statement gives this text.
-/

namespace BoundQuery

variable (write : Value → Str)

/-- The spelling of a text. -/
def Value.spelling? : Value → Option Str
  | .text t => some t.spelling
  | _ => none

theorem filterMap_spelling? {vs : List Value} {index : Nat} {texts : List Str}
    (h : spellings index vs = .ok texts) : vs.filterMap Value.spelling? = texts := by
  induction vs generalizing index texts with
  | nil =>
    cases h
    rfl
  | cons v vs ih =>
    cases v with
    | text t =>
      obtain ⟨rest, read, rfl⟩ := Result.map_eq_ok.1 h
      simp [Value.spelling?, ih read]
    | _ => cases h

/-- The fields to return, if there are any. -/
def returningText : List Text → Str
  | [] => ""
  | fields => " RETURNING " ++ commaSeparated (fields.map Text.spelling)

theorem print_returningClause (fields : List Text) :
    (returningClause fields).print write = returningText fields := by
  cases fields with
  | nil => rfl
  | cons t rest => simp [returningClause, returningText, Template.print, commaSeparated]

/-! ## Selections -/

namespace Select

/-- A number of rows after its keyword, if there is one. -/
def countWith (keyword : Str) : Option Int → Str
  | some n => keyword ++ write (.int n)
  | none => ""

def bodyWith (s : Select) : Str :=
  " FROM " ++ s.table.shown ++ Str.join (s.joins.map joinText) ++
    Condition.clauseWith write s.config.marker " WHERE " s.conditions ++
    groupText s.groups ++
    Condition.clauseWith write s.config.marker " HAVING " (s.having.map .field)

def textWith (s : Select) : Str :=
  "SELECT " ++ commaSeparated (s.fields.filterMap Value.spelling?) ++ s.bodyWith write ++
    sortText s.sorts ++ countWith write " LIMIT " s.limit ++ countWith write " OFFSET " s.offset

/-- The statement that counts rows is written without order and window. -/
def countTextWith (s : Select) : Str :=
  "SELECT " ++ "COUNT(*) AS total" ++ s.bodyWith write

theorem print_joins (joins : List Join) :
    Template.print write (joins.map fun j => .text (joinText j)) =
      Str.join (joins.map joinText) := by
  induction joins with
  | nil => rfl
  | cons j joins ih => simp [Template.print, ih]

theorem print_countClause (keyword : Str) (count : Option Int) :
    (countClause keyword count).print write = countWith write keyword count := by
  cases count <;> simp [countClause, countWith, Template.print]

theorem print_body {s : Select} {body : Template} (made : s.body = .ok body) :
    body.print write = s.bodyWith write := by
  obtain ⟨conditions, read, made⟩ := Result.bind_eq_ok.1 made
  obtain ⟨having, readHaving, same⟩ := Result.bind_eq_ok.1 made
  cases same
  have filtered := Condition.print_conditionClause write " WHERE " read
  have grouped := Condition.print_conditionClause write " HAVING " readHaving
  simp [bodyWith, Template.print, print_joins, filtered, grouped, Str.append_assoc]

theorem print_tail (s : Select) :
    s.tail.print write =
      sortText s.sorts ++ countWith write " LIMIT " s.limit ++
        countWith write " OFFSET " s.offset := by
  simp [tail, Template.print, print_countClause, Str.append_assoc]

end Select

/-! ## Insertions -/

/-- The entries of a mapping. -/
def Value.entries : Value → List (Value × Value)
  | .map entries => entries
  | _ => []

namespace Insert

/-- The rows that some data give: a mapping is one row, a list has a mapping for each row. -/
def rowsGiven : Value → List (List (Value × Value))
  | .map entries => [entries]
  | .list rows | .tuple rows | .set rows => rows.map Value.entries
  | _ => []

/-- A row with the value of each column in the place of the column. -/
def rowWith (columns : List Text) (row : List (Value × Value)) : Str :=
  "(" ++ commaSeparated (columns.map fun column => write (Value.field row column.spelling)) ++ ")"

def textWith (data : Value) (s : Insert) : Str :=
  Str.join ["INSERT INTO ", s.table.shown, " (", commaSeparated (s.columns.map Text.spelling),
    ") VALUES ", commaSeparated ((rowsGiven data).map (rowWith write s.columns)),
    returningText s.returning]

theorem laterRows_eq {columns : List Text} {index : Nat} {rows : List Value}
    {later : List (List Value)} (h : laterRows columns index rows = .ok later) :
    later = rows.map fun row => cells columns row.entries := by
  induction rows generalizing index later with
  | nil =>
    cases h
    rfl
  | cons row rows ih =>
    obtain ⟨entries, read, h⟩ := Result.bind_eq_ok.1 h
    split at h
    · obtain ⟨rest, others, same⟩ := Result.bind_eq_ok.1 h
      cases same
      cases row with
      | map entries =>
        cases read
        simp [Value.entries, ih others]
      | _ => cases read
    · cases h

theorem rowsGiven_of_rowsOf {data first : Value} {rest : List Value}
    {entries : List (Value × Value)} (listed : rowsOf data = .ok (first :: rest))
    (read : first.entriesFor "keys" = .ok entries) :
    rowsGiven data = entries :: rest.map Value.entries := by
  have head : first = .map entries := by
    cases first <;> cases read
    rfl
  subst head
  cases data with
  | map found =>
    cases listed
    rfl
  | list rows | tuple rows | set rows =>
    cases listed
    rfl
  | text t =>
    have chars := Except.ok.inj listed
    cases cs : t.chars <;> simp [cs] at chars
  | _ => cases listed

theorem rows_of_make {table data : Value} {s : Insert} (made : make table data = .ok s) :
    s.rows = (rowsGiven data).map (cells s.columns) := by
  obtain ⟨name, _, made⟩ := Result.bind_eq_ok.1 made
  obtain ⟨rows, listed, made⟩ := Result.bind_eq_ok.1 made
  split at made
  · cases made
  · next first rest =>
    obtain ⟨entries, read, made⟩ := Result.bind_eq_ok.1 made
    obtain ⟨columns, _, made⟩ := Result.bind_eq_ok.1 made
    dsimp only at made
    split at made
    · cases made
    · obtain ⟨later, others, same⟩ := Result.bind_eq_ok.1 made
      cases same
      simp [rowsGiven_of_rowsOf listed read, laterRows_eq others]

/-- The cells of an insertion are the values of its data, row by row in the order of the columns. -/
theorem rows_of_reached {data : Value} {s : Insert}
    (h : Statement.Reached data (.insert s)) : s.rows = (rowsGiven data).map (cells s.columns) := by
  generalize same : Statement.insert s = st at h
  induction h generalizing s with
  | insert made =>
    cases same
    exact rows_of_make made
  | insertCall _ call ih =>
    cases same
    cases call
    have before := ih rfl
    exact before
  | _ => cases same

theorem print_rowTemplate (columns : List Text) (row : List (Value × Value)) :
    (rowTemplate (cells columns row)).print write = rowWith write columns row := by
  simp [rowTemplate, rowWith, cells, Template.print, Template.print_slots, commaSeparated,
    Function.comp_def, Str.append_assoc]

theorem print_template {data : Value} {s : Insert}
    (rows : s.rows = (rowsGiven data).map (cells s.columns)) :
    s.template.print write = s.textWith write data := by
  have each : (s.rows.map rowTemplate).map (Template.print write) =
      (rowsGiven data).map (rowWith write s.columns) := by
    simp [rows, print_rowTemplate]
  simp [template, textWith, Template.print, Template.print_join, each, print_returningClause,
    commaSeparated, Str.append_assoc]

end Insert

/-! ## Updates and deletions -/

namespace Modify

def headWith (s : Modify) : Str :=
  match s.modification with
  | .update assignments =>
    "UPDATE " ++ s.table.shown ++ " SET " ++
      commaSeparated (assignments.map fun (column, v) => column.shown ++ " = " ++ write v)
  | .delete => "DELETE FROM " ++ s.table.shown

def textWith (s : Modify) : Str :=
  s.headWith write ++ Condition.clauseWith write s.config.marker " WHERE " s.conditions ++
    returningText s.returning

theorem print_head (s : Modify) : s.head.print write = s.headWith write := by
  cases form : s.modification with
  | update assignments =>
    have each : (assignments.map assignmentTemplate).map (Template.print write) =
        assignments.map fun (column, v) => column.shown ++ " = " ++ write v := by
      simp [assignmentTemplate, Template.print]
    simp only [head, headWith, form, Template.print, Template.print_join, each, commaSeparated]
  | delete => simp [head, headWith, form, Template.print]

theorem print_template {s : Modify} {t : Template} (made : s.template = .ok t) :
    t.print write = s.textWith write := by
  obtain ⟨conditions, read, same⟩ := Result.bind_eq_ok.1 made
  cases same
  have restricted := Condition.print_conditionClause write " WHERE " read
  simp [textWith, print_head, restricted, print_returningClause, Str.append_assoc]

end Modify

/-! ## Statements of any kind -/

namespace Statement

/-- The text of a statement that was made from `data`, with its values in place. -/
def textWith (data : Value) : Statement → Outcome → Str
  | select s, .whole => s.textWith write
  | select s, .count => s.countTextWith write
  | insert s, _ => s.textWith write data
  | modify s, _ => s.textWith write

theorem Writes.print {data : Value} {st : Statement} {outcome : Outcome} {t : Template}
    (h : st.Writes outcome t) (reached : st.Reached data) :
    t.print write = st.textWith write data outcome := by
  cases h with
  | select listed made =>
    rw [Template.print_append, Select.head, Template.print, Select.print_body write made,
      Select.print_tail, ← filterMap_spelling? listed]
    simp only [Statement.textWith, Select.textWith, Str.append_assoc]
  | count made =>
    rw [Select.head, Template.print, Select.print_body write made]
    rfl
  | insert s =>
    have text := Insert.print_template write (Insert.rows_of_reached reached)
    rw [text, Statement.textWith]
  | modify made => rw [Modify.print_template write made, Statement.textWith]

end Statement
end BoundQuery
