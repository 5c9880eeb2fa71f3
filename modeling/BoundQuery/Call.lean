import BoundQuery.Value.Access

/-!
# Effects of calls

A call on a builder comes down to edits of what the builder has collected, and may be turned down.
Most calls that are turned down edit nothing; a call that takes a list of names stops at the first
bad one and keeps those before it.
-/

namespace BoundQuery

structure Effect (ε : Type) where
  edits : List ε
  fault : Option Fault := none

namespace Effect

/-- All edits or none. -/
def ofResult {ε : Type} : Result (List ε) → Effect ε
  | .ok edits => { edits }
  | .error fault => { edits := [], fault := some fault }

def ofSingle {ε : Type} (edit : Result ε) : Effect ε :=
  ofResult (edit.map ([·]))

/-- One edit for each element, up to the first that is turned down. -/
def upToFault {α ε : Type} (f : α → Result ε) : List α → Effect ε
  | [] => { edits := [] }
  | x :: xs =>
    match f x with
    | .error fault => { edits := [], fault := some fault }
    | .ok edit =>
      let rest := upToFault f xs
      { rest with edits := edit :: rest.edits }

def upToFaultOf {α ε : Type} (f : α → Result ε) : Result (List α) → Effect ε
  | .ok xs => upToFault f xs
  | .error fault => { edits := [], fault := some fault }

theorem edits_ofResult_of_fault {ε : Type} {r : Result (List ε)} {fault : Fault}
    (h : (ofResult r).fault = some fault) : (ofResult r).edits = [] := by
  cases r with
  | ok edits => simp [ofResult] at h
  | error _ => rfl

end Effect
end BoundQuery
