import BoundQuery.Call
import BoundQuery.Statement.Query
import BoundQuery.Statement.Restriction
import BoundQuery.Value.Display

/-!
# INSERT statements

The first row gives the columns and their order; every other row must have the same ones, in any
order. The cells are laid out in the order of the columns when the statement is made, so writing it
cannot fail.
-/

namespace BoundQuery

structure Insert where
  table : Text
  columns : List Text
  rows : List (List Value)
  returning : List Text := []

namespace Insert

def rowsOf (data : Value) : Result (List Value) :=
  match data with
  | .map _ => .ok [data]
  | v => v.elements

/-- Whether the keys of a row are the given columns, in some order. -/
def hasColumns (columns : List Text) (row : List (Value × Value)) : Bool :=
  row.length == columns.length &&
    columns.all fun column => (Value.field? row column.spelling).isSome

/-- The cells of a row in the order of the columns. -/
def cells (columns : List Text) (row : List (Value × Value)) : List Value :=
  columns.map fun column => Value.field row column.spelling

def sortedTexts (texts : List Text) : List Text :=
  texts.mergeSort fun a b => a.spelling ≤ b.spelling

def sortedStrings (texts : List Str) : List Str :=
  texts.mergeSort fun a b => a ≤ b

/-- The cells of the rows from the `index`-th on. -/
def laterRows (columns : List Text) : Nat → List Value → Result (List (List Value))
  | _, [] => .ok []
  | index, row :: rest => do
    let entries ← row.entriesFor "keys"
    if hasColumns columns entries then
      return cells columns entries :: (← laterRows columns (index + 1) rest)
    else
      throw (.argument (.rowMismatch index (sortedTexts columns)
        (sortedStrings (entries.map fun entry => entry.1.shown))))

def make (table data : Value) : Result Insert := do
  let table ← Name.qualified "table name" table
  match ← rowsOf data with
  | [] => throw (.refusal (.emptyInput "rows" "INSERT"))
  | first :: rest =>
    let entries ← first.entriesFor "keys"
    let columns ← entries.mapM fun entry => Name.plain "column name" entry.1
    if columns.isEmpty then throw (.refusal (.emptyInput "fields" "INSERT"))
    return { table, columns, rows := cells columns entries :: (← laterRows columns 1 rest) }

inductive Call where
  | returning (fields : Value)

def Call.effect : Call → Effect Text
  | .returning fields => .upToFaultOf returningItem fields.asList

def step (s : Insert) (call : Call) : Insert × Option Fault :=
  let effect := call.effect
  ({ s with returning := s.returning ++ effect.edits }, effect.fault)

def rowTemplate (row : List Value) : Template :=
  .text "(" :: Template.slots ", " row ++ [.text ")"]

def template (s : Insert) : Template :=
  .text ("INSERT INTO " ++ s.table.shown ++ " (" ++
      commaSeparated (s.columns.map Text.spelling) ++ ") VALUES ") ::
    Template.join ", " (s.rows.map rowTemplate) ++ returningClause s.returning

def build (s : Insert) : SqlQuery :=
  .ofTemplate s.template

end Insert
end BoundQuery
