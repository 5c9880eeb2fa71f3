import BoundQuery.Condition.Filter
import BoundQuery.Condition.Render

/-!
# Calls that restrict a statement

The calls by which a statement gets its conditions: a comparison of any operator, a shorthand for
one operator, a raw fragment, or a whole filter.
-/

namespace BoundQuery

inductive Restriction where
  | compare (field operator operand : Value)
  | equals (field operand : Value)
  | notEquals (field operand : Value)
  | member (field values : Value)
  | notMember (field values : Value)
  | like (field operand : Value)
  | ilike (field operand : Value)
  | null (field : Value)
  | notNull (field : Value)
  | raw (fragment values : Value)
  | filters (mapping : Value)

def Operator.toValue (op : Operator) : Value :=
  .text (.term (.operator op))

namespace Restriction

def comparison (dialect : Dialect) (field operator operand : Value) : Result (List Condition) :=
  return [.field (← FieldCondition.make dialect field operator operand)]

def conditions (dialect : Dialect) : Restriction → Result (List Condition)
  | compare field operator operand => comparison dialect field operator operand
  | equals field operand => comparison dialect field Operator.eq.toValue operand
  | notEquals field operand => comparison dialect field Operator.ne.toValue operand
  | member field values => do
    comparison dialect field Operator.oneOf.toValue (.list (← values.elements))
  | notMember field values => do
    comparison dialect field Operator.noneOf.toValue (.list (← values.elements))
  | like field operand => comparison dialect field Operator.like.toValue operand
  | ilike field operand => comparison dialect field Operator.ilike.toValue operand
  | null field => comparison dialect field Operator.isNull.toValue .null
  | notNull field => comparison dialect field Operator.isNotNull.toValue .null
  | raw fragment values => return [← Condition.makeRaw fragment values]
  | filters mapping => return (← Filter.conditions dialect mapping).map .field

end Restriction

/-- A clause of conditions after its keyword, or nothing when no condition writes anything. -/
def conditionClause (keyword : Str) (conditions : Option Template) : Template :=
  match conditions with
  | some t => .text keyword :: t
  | none => []

/-- A name to return, or the star for all of them. -/
def returningItem (v : Value) : Result Text :=
  match v with
  | .text t => if t.spelling == "*" then .ok t else Name.qualified "returning field" v
  | v => Name.qualified "returning field" v

def returningClause : List Text → Template
  | [] => []
  | items => [.text (" RETURNING " ++ Str.intercalate ", " (items.map Text.spelling))]

end BoundQuery
