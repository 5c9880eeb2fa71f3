import BoundQuery.Marker
import BoundQuery.Value.Access

/-!
# Fragments of any kind

A fragment and its marker are texts. A marker is only looked for outside quotes, though, so what
stands in quotes throughout is a fragment whatever its marker is, also when it is handed over as a
list of parts that are texts.
-/

namespace BoundQuery.Fragment

/-- The parts of what is handed over as a fragment, each of which a mapping may lack: it is asked
for the keys from 0 on. -/
def parts : Value → Result (List (Option Value))
  | .text t => .ok (t.chars.map fun c => some (.str (Str.singleton c)))
  | .list xs | .tuple xs => .ok (xs.map some)
  | .set [] => .ok []
  | .map entries => .ok ((List.range entries.length).map fun index =>
      (entries.find? fun entry => entry.1.sameKey (.int index)).map (·.2))
  | v => .error (.misuse (.notText 0 v))

/-- The parts of a fragment that stands in quotes from `index` on, where `quoted` says whether a
quote is open. Outside quotes a marker would have to be looked for, which fails with `fault`. -/
def inQuotes (fault : Fault) : Nat → Bool → List (Option Value) → Result (List Value)
  | _, _, [] => .ok []
  | index, _, none :: _ => .error (.misuse (.noEntry index))
  | index, quoted, some part :: rest =>
    if part.isText "'" then (inQuotes fault (index + 1) (!quoted) rest).map (part :: ·)
    else if quoted then (inQuotes fault (index + 1) quoted rest).map (part :: ·)
    else .error fault

/-- Why a marker cannot be looked for in a fragment. -/
def searchFault (fragment marker : Value) : Fault :=
  match fragment with
  | .text _ => .misuse (.notText 0 marker)
  | fragment => .misuse (.noMember fragment "startswith")

/-- The template of a fragment in which no marker has to be looked for. -/
def unmarkedTemplate (fragment values marker : Value) : Result Template := do
  let parts ← inQuotes (searchFault fragment marker) 0 false (← parts fragment)
  let piece := Str.join (← spellings 0 parts)
  match ← values.elements with
  | [] => return [.text piece]
  | values => throw (.refusal (.markerCount fragment 0 values.length))

/-- The template of a fragment with a value for each of its markers. -/
def template (fragment values marker : Value) : Result Template :=
  if !marker.isTruthy then throw (.argument .emptyMarker)
  else match fragment, marker with
    | .text fragment, .text marker => do
      Marker.template marker.chars fragment (← values.elements)
    | _, _ => unmarkedTemplate fragment values marker

end BoundQuery.Fragment
