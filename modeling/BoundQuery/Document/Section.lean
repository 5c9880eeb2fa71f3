import BoundQuery.Value.Access

/-!
# Sections of documents

A document describes a statement as a mapping of sections. A key may be mandatory, may have a value
that stands in for it, or may simply be missing.
-/

namespace BoundQuery.Document

abbrev Entries := List (Value × Value)

/-- The value of a key that must be there; `place` says in messages where it was looked for. -/
def require (part : Value) (key place : Str) : Result Value :=
  match part with
  | .map entries =>
    match Value.field? entries key with
    | some v => .ok v
    | none => .error (.argument (.missingKey place key))
  | v => .error (.argument (.notMapping place v))

def entriesOf : Value → Entries
  | .map entries => entries
  | _ => []

def fieldOr (entries : Entries) (key : Str) (standard : Value) : Value :=
  (Value.field? entries key).getD standard

def hasKey (entries : Entries) (key : Str) : Bool :=
  (Value.field? entries key).isSome

/-- The field and the direction of an entry that says how to sort; a text is a field alone. -/
def sortEntry (entry : Value) : Result (Value × Value) :=
  match entry with
  | .text _ => .ok (entry, .str "ASC")
  | entry => do
    let field ← require entry "field" "order_by entry"
    return (field, fieldOr (entriesOf entry) "direction" (.str "ASC"))

end BoundQuery.Document
