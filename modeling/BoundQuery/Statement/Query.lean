import BoundQuery.Error.Basic
import BoundQuery.Parameters.Positional
import BoundQuery.Value.Access

/-!
# Relational statements

The text of a statement with numbered placeholders, and its parameters in the order of their
numbers.
-/

namespace BoundQuery

structure SqlQuery where
  text : Str
  params : List Value

namespace SqlQuery

/-- The statement of a template: its slots numbered from left to right. -/
def ofTemplate (t : Template) : SqlQuery :=
  let (text, store) := ({} : Positional).fill t
  ⟨text, store.values⟩

@[simp] theorem params_ofTemplate (t : Template) : (ofTemplate t).params = t.values := by
  simp [ofTemplate]

/-- A statement that the caller has written, unchanged. -/
def raw (text params : Value) : Result (Value × List Value) :=
  return (text, ← params.elementsOrNone)

end SqlQuery

/-- The texts of a list with commas between them. -/
def commaSeparated (texts : List Str) : Str :=
  Str.intercalate ", " texts

end BoundQuery
