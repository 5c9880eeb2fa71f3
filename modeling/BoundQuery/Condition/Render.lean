import BoundQuery.Condition.Basic
import BoundQuery.Marker

/-!
# Writing conditions

The template of a condition, and of several joined by `AND`. Membership in an empty list writes
nothing, so that a filter without values restricts nothing.
-/

namespace BoundQuery

namespace FieldCondition

def memberTemplate (dialect : Dialect) (field : Text) (negated : Bool) (values : List Value) :
    Template :=
  let slots := Template.slots ", " values
  match dialect with
  | .relational =>
    .text (field.shown ++ (if negated then " NOT IN (" else " IN (")) :: slots ++ [.text ")"]
  | .graph =>
    .text ((if negated then "NOT " else "") ++ field.shown ++ " IN [") :: slots ++ [.text "]"]

def template? (dialect : Dialect) (c : FieldCondition) : Option Template :=
  match c.test with
  | .null negated =>
    some [.text (c.field.shown ++ if negated then " IS NOT NULL" else " IS NULL")]
  | .member _ [] => none
  | .member negated values => some (memberTemplate dialect c.field negated values)
  | .compare op operand => some [.text (c.field.shown ++ " " ++ op.spelling ++ " "), .slot operand]

end FieldCondition

namespace Condition

/-- The template of a condition, if it writes anything; fragments are cut at `marker`. -/
def template? (dialect : Dialect) (marker : List Chr) : Condition → Result (Option Template)
  | .field c => .ok (c.template? dialect)
  | .raw fragment values => (Marker.template marker fragment values).map some

def conjunction : Str :=
  " AND "

/-- The template of all conditions that write anything, if any does. -/
def joined? : List Template → Option Template
  | [] => none
  | ts => some (Template.join conjunction ts)

/-- The templates of the conditions that write anything. -/
def templates (dialect : Dialect) (marker : List Chr) (cs : List Condition) :
    Result (List Template) :=
  return (← cs.mapM (template? dialect marker)).filterMap id

def conjunction? (dialect : Dialect) (marker : List Chr) (cs : List Condition) :
    Result (Option Template) :=
  return joined? (← templates dialect marker cs)

/-- The text of a condition, with its values added to a store unless it is turned down. -/
def render {σ : Type} (mint : Value → σ → Str × σ) (dialect : Dialect) (marker : List Chr)
    (c : Condition) (store : σ) : Result (Option Str) × σ :=
  match template? dialect marker c with
  | .error fault => (.error fault, store)
  | .ok none => (.ok none, store)
  | .ok (some t) =>
    let (text, store) := t.fill mint store
    (.ok (some text), store)

/-- The texts of several conditions. The values of the conditions before one that is turned down
have been added by then. -/
def renderEach {σ : Type} (mint : Value → σ → Str × σ) (dialect : Dialect)
    (marker : List Chr) : List Condition → σ → Result (List Str) × σ
  | [], store => (.ok [], store)
  | c :: rest, store =>
    match c.render mint dialect marker store with
    | (.error fault, store) => (.error fault, store)
    | (.ok text?, store) =>
      let (texts, store) := renderEach mint dialect marker rest store
      (texts.map (text?.toList ++ ·), store)

/-- The texts of several conditions joined by `AND`, if any writes anything. -/
def renderAll {σ : Type} (mint : Value → σ → Str × σ) (dialect : Dialect)
    (marker : List Chr) (cs : List Condition) (store : σ) : Result (Option Str) × σ :=
  let (texts, store) := renderEach mint dialect marker cs store
  (texts.map fun
    | [] => none
    | texts => some (Str.intercalate conjunction texts), store)

end Condition
end BoundQuery
