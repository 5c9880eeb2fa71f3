import BoundQuery.Call
import BoundQuery.Config.Basic
import BoundQuery.Statement.Query
import BoundQuery.Statement.Restriction
import BoundQuery.Validation

/-!
# SELECT statements

A selection collects its clauses in any order of calls and is written in the fixed order of the
grammar. Only `build` numbers placeholders, so what a call does depends on its arguments and the
configuration but not on the calls before it.
-/

namespace BoundQuery

structure Join where
  table : Text
  type : JoinType
  condition : Text

structure SortKey where
  field : Text
  direction : SortDirection

structure Select where
  config : Config
  table : Text
  fields : List Value
  conditions : List Condition := []
  joins : List Join := []
  groups : List Text := []
  having : List FieldCondition := []
  sorts : List SortKey := []
  limit : Option Int := none
  offset : Option Int := none

namespace Select

/-- Everything is selected when no field is given. -/
def make (config : Config) (table fields : Value) : Result Select := do
  let table ← Name.qualified "table name" table
  let fields ← if fields.isTruthy then fields.asList else pure [.str "*"]
  return { config, table, fields }

inductive Call where
  | restrict (r : Restriction)
  | join (table type condition : Value)
  | groupBy (fields : Value)
  | having (expression operator operand : Value)
  | orderBy (field direction : Value)
  | limit (count : Value)
  | offset (count : Value)
  | paginate (page size : Value)

/-- A join of a kind that is known. -/
def Call.joinOf (type : JoinType) (table condition : Value) : Call :=
  .join table (.text (.term (.joinType type))) condition

inductive Edit where
  | condition (c : Condition)
  | join (j : Join)
  | group (field : Text)
  | having (c : FieldCondition)
  | sort (k : SortKey)
  | limit (count : Int)
  | offset (count : Int)

def apply (s : Select) : Edit → Select
  | .condition c => { s with conditions := s.conditions ++ [c] }
  | .join j => { s with joins := s.joins ++ [j] }
  | .group field => { s with groups := s.groups ++ [field] }
  | .having c => { s with having := s.having ++ [c] }
  | .sort k => { s with sorts := s.sorts ++ [k] }
  | .limit count => { s with limit := some count }
  | .offset count => { s with offset := some count }

/-- The condition of a join is text of the caller. -/
def checkJoinCondition (v : Value) : Result Text :=
  match v with
  | .text t => if t.isBlank then .error (.argument .emptyJoinCondition) else .ok t
  | _ => .error (.argument .emptyJoinCondition)

def makeJoin (table type condition : Value) : Result Join := do
  let type ← checkJoinType type
  let condition ← checkJoinCondition condition
  let table ← Name.qualified "join table" table
  return { table, type, condition }

def makeSort (field direction : Value) : Result SortKey := do
  let field ← Name.qualified "sort field" field
  return { field, direction := ← checkDirection direction }

/-- A whole number from one on. -/
def positive? : Value → Option Int
  | .int i => if i < 1 then none else some i
  | _ => none

/-- Whether a page of this size is larger than the configuration lets it be. -/
def exceedsMost (config : Config) (size : Value) : Result Bool :=
  if config.maxPageSize.isNull then .ok false else Config.isBelow config.maxPageSize size

/-- The limit and the offset of a page; pages count from one. -/
def window (config : Config) (page size : Value) : Result (Int × Int) := do
  let size := if size.isNull then config.defaultPageSize else size
  match positive? page with
  | none => throw (.argument (.notPage page))
  | some p =>
    match positive? size with
    | none => throw (.argument (.notPageSize size))
    | some n =>
      if ← exceedsMost config size then throw (.argument (.pageSizeTooLarge n config.maxPageSize))
      return (n, (p - 1) * n)

def setLimit (count : Value) : Result Edit :=
  (checkCount "limit" count).map .limit

def setOffset (count : Value) : Result Edit :=
  (checkCount "offset" count).map .offset

/-- What a call edits, whatever was called before. A page sets its limit and its offset one after
the other, each checked as it is when it is set by itself. -/
def Call.effect (config : Config) : Call → Effect Edit
  | .restrict r => .ofResult ((r.conditions .relational).map (·.map .condition))
  | .join table type condition => .ofSingle ((makeJoin table type condition).map .join)
  | .groupBy fields =>
    .upToFaultOf (fun field => (Name.qualified "group by field" field).map .group) fields.asList
  | .having expression operator operand =>
    .ofSingle ((FieldCondition.makeAggregate .relational expression operator operand).map .having)
  | .orderBy field direction => .ofSingle ((makeSort field direction).map .sort)
  | .limit count => .ofSingle (setLimit count)
  | .offset count => .ofSingle (setOffset count)
  | .paginate page size =>
    .upToFaultOf id ((window config page size).map fun (most, skipped) =>
      [setLimit (.int most), setOffset (.int skipped)])

/-- Runs a call: the selection after it, and why it was turned down if it was. -/
def step (s : Select) (call : Call) : Select × Option Fault :=
  let effect := call.effect s.config
  (effect.edits.foldl apply s, effect.fault)

def joinText (j : Join) : Str :=
  " " ++ j.type.spelling ++ " JOIN " ++ j.table.shown ++ " ON " ++ j.condition.shown

def groupText : List Text → Str
  | [] => ""
  | fields => " GROUP BY " ++ commaSeparated (fields.map Text.spelling)

def sortText : List SortKey → Str
  | [] => ""
  | sorts =>
    " ORDER BY " ++ commaSeparated (sorts.map fun s => s.field.shown ++ " " ++ s.direction.spelling)

def countClause (keyword : Str) : Option Int → Template
  | some count => [.text keyword, .slot (.int count)]
  | none => []

/-- What the statement says after its select list, apart from the order and the window of rows. -/
def body (s : Select) : Result Template := do
  let marker := s.config.marker
  let conditions ← Condition.conjunction? .relational marker s.conditions
  let having ← Condition.conjunction? .relational marker (s.having.map .field)
  return .text (" FROM " ++ s.table.shown) :: s.joins.map (fun j => .text (joinText j)) ++
    conditionClause " WHERE " conditions ++ [.text (groupText s.groups)] ++
    conditionClause " HAVING " having

/-- The order and the window of rows. -/
def tail (s : Select) : Template :=
  .text (sortText s.sorts) :: countClause " LIMIT " s.limit ++ countClause " OFFSET " s.offset

def head (fields : Str) : Piece :=
  .text ("SELECT " ++ fields)

def build (s : Select) : Result SqlQuery := do
  let fields := commaSeparated (← spellings 0 s.fields)
  return .ofTemplate (head fields :: (← s.body) ++ s.tail)

/-- The statement that counts the rows, whatever their order and window. -/
def buildCount (s : Select) : Result SqlQuery :=
  return .ofTemplate (head "COUNT(*) AS total" :: (← s.body))

end Select
end BoundQuery
