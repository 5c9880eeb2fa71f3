import BoundQuery.Parameters.Fragment
import BoundQuery.Parameters.Named
import BoundQuery.Parameters.Positional
import BoundQuery.Value.Display

/-!
# Parameter stores

A store of either kind, or one of no kind that has a place for values but no way to name them, and
the calls that can be made on it.
-/

namespace BoundQuery

inductive Store where
  | kindless
  | positional (p : Positional)
  | named (f : Family)

inductive Store.Call where
  | add (value stem : Value)
  | addNamed (value stem : Value)
  | generateName (stem : Value)
  | scope
  | length
  | bindMarkers (fragment values marker : Value)

namespace Store

/-- The values of a store; those of one of no kind cannot be asked for. -/
def values (i : Nat) : Store → Value
  | kindless => .null
  | positional p => .list p.values
  | named f => .record (f.store i).values

def keepsNoNames (member : Str) : Fault :=
  .misuse (.noMember .null member)

def runKindless : Call → Result Value
  | .add _ _ | .length => throw (.misuse .abstractStore)
  | .addNamed _ _ => throw (keepsNoNames "add_named")
  | .generateName _ => throw (keepsNoNames "generate_name")
  | .scope => throw (keepsNoNames "scope")
  | .bindMarkers fragment values marker => do
    let template ← Fragment.template fragment values marker
    if template.values.isEmpty then return .str (template.print fun _ => "")
    else throw (.misuse .abstractStore)

def runPositional (p : Positional) : Call → Result (Value × Positional)
  | .add value _ => let (placeholder, p) := p.add value; return (.str placeholder, p)
  | .addNamed _ _ => throw (keepsNoNames "add_named")
  | .generateName _ => throw (keepsNoNames "generate_name")
  | .scope => throw (keepsNoNames "scope")
  | .length => return (.int p.values.length, p)
  | .bindMarkers fragment values marker => do
    let (text, p) := p.fill (← Fragment.template fragment values marker)
    return (.str text, p)

def runNamed (f : Family) (i : Nat) : Call → Result (Value × Family)
  | .add value stem =>
    let (placeholder, p) := (f.store i).add stem.shown value
    return (.str placeholder, f.update i p)
  | .addNamed value stem =>
    let (name, p) := (f.store i).addNamed stem.shown value
    return (.str name, f.update i p)
  | .generateName stem =>
    let (name, p) := (f.store i).generateName stem.shown
    return (.str name, f.update i p)
  | .scope => let (place, f) := f.scope; return (.int place, f)
  | .length => return (.int (f.store i).values.length, f)
  | .bindMarkers fragment values marker => do
    let (text, p) := (f.store i).fill (← Fragment.template fragment values marker)
    return (.str text, f.update i p)

/-- Runs a call on the `i`-th store of a family; a call that fails changes nothing. -/
def run (s : Store) (i : Nat) (call : Call) : Result Value × Store :=
  match s with
  | kindless => (runKindless call, s)
  | positional p =>
    match runPositional p call with
    | .ok (answer, p) => (.ok answer, positional p)
    | .error fault => (.error fault, s)
  | named f =>
    match runNamed f i call with
    | .ok (answer, f) => (.ok answer, named f)
    | .error fault => (.error fault, s)

end Store
end BoundQuery
