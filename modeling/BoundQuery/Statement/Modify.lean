import BoundQuery.Call
import BoundQuery.Config.Basic
import BoundQuery.Statement.Query
import BoundQuery.Statement.Restriction

/-!
# UPDATE and DELETE statements

Both change the rows that their conditions leave and may return fields of them.
-/

namespace BoundQuery

inductive Modification where
  | update (assignments : List (Text × Value))
  | delete

structure Modify where
  config : Config
  table : Text
  modification : Modification
  conditions : List Condition := []
  returning : List Text := []

namespace Modify

def assignment (entry : Value × Value) : Result (Text × Value) :=
  return (← Name.plain "column name" entry.1, entry.2)

def makeUpdate (config : Config) (table data : Value) : Result Modify := do
  let table ← Name.qualified "table name" table
  if !data.isTruthy then throw (.refusal (.emptyInput "fields" "UPDATE"))
  let assignments ← (← data.items).mapM assignment
  return { config, table, modification := .update assignments }

def makeDelete (config : Config) (table : Value) : Result Modify := do
  let table ← Name.qualified "table name" table
  return { config, table, modification := .delete }

inductive Call where
  | restrict (r : Restriction)
  | returning (fields : Value)

inductive Edit where
  | condition (c : Condition)
  | returning (field : Text)

def apply (s : Modify) : Edit → Modify
  | .condition c => { s with conditions := s.conditions ++ [c] }
  | .returning field => { s with returning := s.returning ++ [field] }

def Call.effect : Call → Effect Edit
  | .restrict r => .ofResult ((r.conditions .relational).map (·.map .condition))
  | .returning fields =>
    .upToFaultOf (fun field => (returningItem field).map .returning) fields.asList

def step (s : Modify) (call : Call) : Modify × Option Fault :=
  let effect := call.effect
  (effect.edits.foldl apply s, effect.fault)

def assignmentTemplate (a : Text × Value) : Template :=
  [.text (a.1.shown ++ " = "), .slot a.2]

def head (s : Modify) : Template :=
  match s.modification with
  | .update assignments =>
    .text ("UPDATE " ++ s.table.shown ++ " SET ") ::
      Template.join ", " (assignments.map assignmentTemplate)
  | .delete => [.text ("DELETE FROM " ++ s.table.shown)]

def template (s : Modify) : Result Template := do
  let conditions ← Condition.conjunction? .relational s.config.marker s.conditions
  return s.head ++ conditionClause " WHERE " conditions ++ returningClause s.returning

def build (s : Modify) : Result SqlQuery :=
  return .ofTemplate (← s.template)

end Modify
end BoundQuery
