import BoundQuery.Chars.Case
import BoundQuery.Error.Basic

/-!
# Registered dialects

Dialects are registered and looked up by name, without regard to case. Registering a name again
replaces the dialect.
-/

namespace BoundQuery

/-- A dialect under its name, with the style of its placeholders, and the family of statements it
renders if it is one that this library renders. -/
structure RegisteredDialect where
  name : Text
  paramstyle : Str
  family : Option Dialect := none

abbrev Registry := List (Str × RegisteredDialect)

namespace Registry

def postgres : RegisteredDialect :=
  ⟨.plain "postgres", "numeric_dollar", some .relational⟩

def cypher : RegisteredDialect :=
  ⟨.plain "cypher", "named_dollar", some .graph⟩

def standard : Registry :=
  [("cypher", cypher), ("postgres", postgres)]

def put (key : Str) (d : RegisteredDialect) : Registry → Registry
  | [] => [(key, d)]
  | (k, e) :: rest => if k == key then (key, d) :: rest else (k, e) :: put key d rest

def register (name : Value) (paramstyle : Str) (r : Registry) : Result Registry :=
  match name with
  | .text t =>
    if t.isEmpty then .error (.setting .unnamedDialect)
    else .ok (put (Chars.lower t.spelling) ⟨t, paramstyle, none⟩ r)
  | _ => .error (.setting .unnamedDialect)

/-- The key that a name is looked up by; nothing given is looked up as the empty text. -/
def keyOf (name : Value) : Result Str :=
  if name.isTruthy then
    match name with
    | .text t => .ok (Chars.lower t.spelling)
    | v => .error (.misuse (.noMember v "lower"))
  else .ok ""

/-- The registered dialects in the order of their keys. -/
def available (r : Registry) : Registry :=
  r.mergeSort fun a b => a.1 ≤ b.1

def get (name : Value) (r : Registry) : Result RegisteredDialect := do
  match r.lookup (← keyOf name) with
  | some d => return d
  | none => throw (.refusal (.unknownDialect name (r.available.map (·.1))))

end Registry
end BoundQuery
