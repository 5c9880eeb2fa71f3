import BoundQuery.Condition.Basic

/-!
# Filters

A filter maps fields to what is asked of them: a plain value for equality, null for no value, a list
for membership, or a mapping of `$` keys to operands for comparisons by name. Reading a filter gives
its comparisons in the order of its keys.
-/

namespace BoundQuery

structure Comparator where
  comparison : Comparison
  operand : Value

namespace Comparator

def toValue (c : Comparator) : Value :=
  .comparator c.comparison c.operand

/-- The comparison that a `$` key asks for. -/
def ofKey? (key : Str) : Option Comparison :=
  match key.string? with
  | some "$eq" => some .eq
  | some "$ne" => some .ne
  | some "$lt" => some .lt
  | some "$lte" => some .lte
  | some "$gt" => some .gt
  | some "$gte" => some .gte
  | some "$like" => some .like
  | some "$ilike" => some .ilike
  | some "$in" => some .oneOf
  | some "$nin" => some .noneOf
  | some "$contains" => some .contains
  | some "$startsWith" => some .startsWith
  | some "$endsWith" => some .endsWith
  | _ => none

/-- `$null` asks whether there is no value, and its operand only says yes or no. -/
def ofEntry (key : Text) (operand : Value) : Result Comparator :=
  if key.spelling == "$null" then
    .ok ⟨if operand.isTruthy then .isNull else .isNotNull, .null⟩
  else match ofKey? key.spelling with
    | some comparison => .ok ⟨comparison, operand⟩
    | none => .error (.condition (.unknownFilter key))

/-- The `$` keys of a mapping that has no other keys. -/
def namedEntries? : List (Value × Value) → Option (List (Text × Value))
  | [] => some []
  | (.text key, operand) :: rest =>
    if key.chars.head? == some (.scalar '$') then (namedEntries? rest).map ((key, operand) :: ·)
    else none
  | _ => none

/-- The comparisons that a value asks of a field. -/
def ofSpec (spec : Value) : Result (List Comparator) :=
  match spec with
  | .comparator comparison operand => .ok [⟨comparison, operand⟩]
  | .null => .ok [⟨.isNull, .null⟩]
  | .list xs | .tuple xs | .set xs => .ok [⟨.oneOf, .list xs⟩]
  | .map [] => .ok [⟨.eq, spec⟩]
  | .map entries =>
    match namedEntries? entries with
    | some named => named.mapM fun (key, operand) => ofEntry key operand
    | none => .ok [⟨.eq, spec⟩]
  | spec => .ok [⟨.eq, spec⟩]

end Comparator

namespace Filter

/-- The fields of a filter with the comparisons asked of each, in order. -/
def ofEntries : List (Value × Value) → Result (List (Value × Comparator))
  | [] => .ok []
  | (field, spec) :: rest => do
    let comparators ← Comparator.ofSpec spec
    return comparators.map (field, ·) ++ (← ofEntries rest)

def parse (filters : Value) : Result (List (Value × Comparator)) := do
  ofEntries (← filters.items)

def condition (dialect : Dialect) (pair : Value × Comparator) : Result FieldCondition :=
  FieldCondition.make dialect pair.1 (.text (.term (.operator pair.2.comparison.operator)))
    pair.2.operand

def conditionsOfEntries (dialect : Dialect) (entries : List (Value × Value)) :
    Result (List FieldCondition) := do
  (← ofEntries entries).mapM (condition dialect)

/-- The conditions of a filter: all of them, or the first failure. -/
def conditions (dialect : Dialect) (filters : Value) : Result (List FieldCondition) := do
  conditionsOfEntries dialect (← filters.items)

end Filter
end BoundQuery
