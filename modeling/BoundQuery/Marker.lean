import BoundQuery.Error.Basic
import BoundQuery.Template

/-!
# Markers in raw fragments

A raw fragment is text of the caller in which a marker stands for each value to be bound. A marker
counts only outside single quotes, and a doubled quote inside a quoted literal closes and opens it
at once. Fragments are cut from left to right, so of two overlapping markers the first counts.
-/

namespace BoundQuery.Marker

/-- The pieces between the markers, where `skip` characters belong to a marker that has been read
and `quoted` says whether a quote is open. -/
def splitFrom (marker : List Chr) : Nat → Bool → List Chr → List (List Chr)
  | _, _, [] => [[]]
  | skip + 1, quoted, _ :: rest => splitFrom marker skip quoted rest
  | 0, quoted, c :: rest =>
    if c == '\'' then (splitFrom marker 0 (!quoted) rest).modifyHead (c :: ·)
    else if !quoted && marker.isPrefixOf (c :: rest) then
      [] :: splitFrom marker (marker.length - 1) quoted rest
    else (splitFrom marker 0 quoted rest).modifyHead (c :: ·)

theorem splitFrom_ne_nil (marker : List Chr) (skip : Nat) (quoted : Bool) (cs : List Chr) :
    splitFrom marker skip quoted cs ≠ [] := by
  fun_induction splitFrom marker skip quoted cs <;>
    simp_all [List.modifyHead_eq_nil_iff]

/-- The pieces of a fragment between its markers, one more than there are markers. -/
def split (marker fragment : List Chr) : Result (List (List Chr)) :=
  if marker.isEmpty then .error (.argument .emptyMarker)
  else .ok (splitFrom marker 0 false fragment)

/-- The template of a fragment with a value for each of its markers. -/
def template (marker : List Chr) (fragment : Text) (values : List Value) : Result Template := do
  let pieces ← split marker fragment.chars
  if pieces.length == values.length + 1 then return Template.weave pieces values
  else throw (.refusal (.markerCount (.text fragment) (pieces.length - 1) values.length))

end BoundQuery.Marker
