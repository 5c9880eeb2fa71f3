import BoundQuery.Chars.Blank
import BoundQuery.Chars.Case
import BoundQuery.Name
import BoundQuery.Value.Access

/-!
# Conditions

A condition is a test of one field or a raw fragment of the caller with the values for its markers.
A test that is made here can be written in its dialect: null is only ever tested with `IS` and
`IS NOT`, and membership only in a list.
-/

namespace BoundQuery

/-- The operator that a value spells: words may be apart by any white space and in any case, and
`!=` is another spelling of `<>`. -/
def Operator.ofValue? : Value → Option Operator
  | .text (.term (.operator op)) => some op
  | .text t =>
    let words := (Chars.words t.chars).map Str.ofList
    let spelling := Chars.upper (Str.intercalate " " words)
    Operator.ofSpelling? (if spelling == "!=" then "<>" else spelling)
  | _ => none

/-- What a field is tested for. -/
inductive Test where
  | null (negated : Bool)
  | member (negated : Bool) (values : List Value)
  | compare (op : Operator) (operand : Value)

namespace Test

def operator : Test → Operator
  | null negated => if negated then .isNotNull else .isNull
  | member negated _ => if negated then .noneOf else .oneOf
  | compare op _ => op

def operand : Test → Value
  | null _ => .null
  | member _ values => .tuple values
  | compare _ v => v

def ofList (field : Text) (op : Operator) (negated : Bool) (operand : Value) : Result Test :=
  match operand with
  | .list xs | .tuple xs | .set xs => .ok (.member negated xs)
  | v => .error (.condition (.needsList field op v))

/-- The test for null, which is spelled with equality too. -/
def ofNull (field : Text) : Operator → Result Test
  | .eq | .isNull => .ok (.null false)
  | .ne | .isNotNull => .ok (.null true)
  | op => .error (.condition (.comparesNull field op))

def ofGiven (field : Text) (op : Operator) (operand : Value) : Result Test :=
  match op with
  | .isNull | .isNotNull => .error (.condition (.onlyNull field op))
  | .oneOf => ofList field op false operand
  | .noneOf => ofList field op true operand
  | op => .ok (.compare op operand)

end Test

def Operator.isAvailable (op : Operator) : Dialect → Bool
  | .relational => !op.isGraphOnly
  | .graph => !op.isRelationalOnly

structure FieldCondition where
  field : Text
  test : Test

namespace FieldCondition

def ofOperator (dialect : Dialect) (field : Text) (op : Operator) (operand : Value) :
    Result FieldCondition :=
  if !op.isAvailable dialect then .error (.condition (.unavailable field op dialect))
  else if operand.isNull then (Test.ofNull field op).map (⟨field, ·⟩)
  else (Test.ofGiven field op operand).map (⟨field, ·⟩)

/-- The condition on a field that has passed its gate. -/
def onField (dialect : Dialect) (field : Text) (operator operand : Value) :
    Result FieldCondition :=
  match Operator.ofValue? operator with
  | some op => ofOperator dialect field op operand
  | none => .error (.condition (.unsupported field operator))

/-- The condition of a `WHERE` clause, on a qualified name. -/
def make (dialect : Dialect) (field operator operand : Value) : Result FieldCondition := do
  onField dialect (← Name.qualified "condition field" field) operator operand

/-- The condition of a `HAVING` clause, on a name or a call. -/
def makeAggregate (dialect : Dialect) (field operator operand : Value) :
    Result FieldCondition := do
  onField dialect (← Name.expression "condition field" field) operator operand

end FieldCondition

inductive Condition where
  | field (c : FieldCondition)
  | raw (fragment : Text) (values : List Value)

/-- A text of the caller that says something. -/
def Text.isBlank (t : Text) : Bool :=
  Chars.isAllBlank t.spelling

/-- A raw condition; values that are not given are none. -/
def Condition.makeRaw (fragment values : Value) : Result Condition :=
  match fragment with
  | .text t =>
    if t.isBlank then .error (.condition .blankCondition)
    else (values.elementsOrNone).map (.raw t)
  | _ => .error (.condition .blankCondition)

end BoundQuery
