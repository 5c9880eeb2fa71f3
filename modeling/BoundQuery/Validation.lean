import BoundQuery.Chars.Blank
import BoundQuery.Chars.Case
import BoundQuery.Error.Basic

/-!
# Checks of arguments

Counts, sort directions and kinds of join, as both families of builders take them.
-/

namespace BoundQuery

/-- The stripped characters of a text in upper case. -/
def Text.keyword (t : Text) : Str :=
  Chars.upper (Str.ofList (Chars.strip t.chars))

/-- A whole number that is not negative; truth values are no numbers here. -/
def checkCount (what : Str) (v : Value) : Result Int :=
  match v with
  | .int i => if i < 0 then .error (.argument (.notCount what v)) else .ok i
  | v => .error (.argument (.notCount what v))

def SortDirection.ofValue? : Value → Option SortDirection
  | .text t => ofSpelling? t.keyword
  | _ => none

def checkDirection (v : Value) : Result SortDirection :=
  match SortDirection.ofValue? v with
  | some d => .ok d
  | none => .error (.argument (.notDirection v))

def JoinType.ofValue? : Value → Option JoinType
  | .text t => ofSpelling? t.keyword
  | _ => none

def checkJoinType (v : Value) : Result JoinType :=
  match JoinType.ofValue? v with
  | some j => .ok j
  | none => .error (.argument (.notJoinType v))

def RelDirection.ofValue? : Value → Option RelDirection
  | .text t => ofSpelling? t.spelling
  | _ => none

def checkRelDirection (v : Value) : Result RelDirection :=
  match RelDirection.ofValue? v with
  | some d => .ok d
  | none => .error (.argument (.notRelDirection v))

theorem checkCount_eq_ok {what : Str} {v : Value} {i : Int} (h : checkCount what v = .ok i) :
    v = .int i ∧ 0 ≤ i := by
  unfold checkCount at h
  split at h
  · split at h
    · cases h
    · cases h
      exact ⟨rfl, by omega⟩
  · cases h

end BoundQuery
