import BoundQuery.Call
import BoundQuery.Proofs.Result

/-!
# Edits of effects

What holds of every edit that a request gives holds of every edit of its effect, also of one that is
cut short by a fault. An effect that is cut short edits what stands before its fault. Requests that
agree have effects with related edits.

## Main definitions

* `Effect.CutShort` — the names that stand before the first one that is turned down.
* `Effect.Alike` — effects with related edits that are cut short together.

## Main statements

* `Effect.exists_cutShort_of` — the edits of a list of names that is turned down.
-/

namespace BoundQuery.Effect

variable {α ε : Type} {P : ε → Prop}

theorem forall_edits_ofResult {r : Result (List ε)}
    (h : ∀ edits, r = .ok edits → ∀ e ∈ edits, P e) :
    ∀ e ∈ (ofResult r).edits, P e := by
  cases r with
  | error fault => simp [ofResult]
  | ok edits => exact h edits rfl

theorem forall_edits_ofSingle {r : Result ε} (h : ∀ e, r = .ok e → P e) :
    ∀ e ∈ (ofSingle r).edits, P e := by
  cases r with
  | error fault => simp [ofSingle, ofResult, Except.map]
  | ok edit => simpa [ofSingle, ofResult, Except.map] using h edit rfl

theorem forall_edits_upToFault {f : α → Result ε} (h : ∀ x e, f x = .ok e → P e) (xs : List α) :
    ∀ e ∈ (upToFault f xs).edits, P e := by
  induction xs with
  | nil => simp [upToFault]
  | cons x xs ih =>
    rw [upToFault]
    cases made : f x with
    | error fault => simp
    | ok edit =>
      intro e mem
      rcases List.mem_cons.1 mem with rfl | mem
      · exact h x e made
      · exact ih e mem

theorem forall_edits_upToFaultOf {f : α → Result ε} (h : ∀ x e, f x = .ok e → P e)
    (xs : Result (List α)) : ∀ e ∈ (upToFaultOf f xs).edits, P e := by
  cases xs with
  | error fault => simp [upToFaultOf]
  | ok xs => exact forall_edits_upToFault h xs

/-! ## Lists of names that are cut short -/

/-- The texts `taken` stand before the first item that is turned down; there are none when the items
cannot be listed. -/
inductive CutShort (check : Value → Result Text) (fault : Fault) :
    Result (List Value) → List Text → Prop
  | unlisted : CutShort check fault (.error fault) []
  | item {taken : List Text} {x : Value} {rest : List Value}
      (passed : ∀ t ∈ taken, check (.text t) = .ok t) (refused : check x = .error fault) :
      CutShort check fault (.ok (taken.map .text ++ x :: rest)) taken

section
variable {check : Value → Result Text} {f : Value → Result ε} {fault : Fault}

theorem exists_cutShort (toEdit : Text → ε) (own : ∀ v t, check v = .ok t → v = .text t)
    (each : ∀ v, f v = (check v).map toEdit) {xs : List Value}
    (h : (upToFault f xs).fault = some fault) :
    ∃ taken, CutShort check fault (.ok xs) taken ∧ (upToFault f xs).edits = taken.map toEdit := by
  induction xs with
  | nil => cases h
  | cons x xs ih =>
    rw [upToFault, each x] at h ⊢
    cases passed : check x with
    | error fault' =>
      rw [passed] at h
      cases h
      have cut : CutShort check fault (.ok (List.map Value.text [] ++ x :: xs)) [] :=
        .item (by simp) passed
      exact ⟨[], cut, rfl⟩
    | ok t =>
      rw [passed] at h
      obtain ⟨taken, cut, edits⟩ := ih h
      cases own x t passed
      cases cut with
      | item others refused =>
        refine ⟨t :: taken, .item (List.forall_mem_cons.2 ⟨passed, others⟩) refused, ?_⟩
        simp [Except.map, edits]

theorem exists_cutShort_of (toEdit : Text → ε) (own : ∀ v t, check v = .ok t → v = .text t)
    (each : ∀ v, f v = (check v).map toEdit) {items : Result (List Value)}
    (h : (upToFaultOf f items).fault = some fault) :
    ∃ taken, CutShort check fault items taken ∧
      (upToFaultOf f items).edits = taken.map toEdit := by
  cases items with
  | error fault' =>
    cases h
    exact ⟨[], .unlisted, rfl⟩
  | ok xs => exact exists_cutShort toEdit own each h

end

section
variable {f : α → Result ε} {xs : List α}

theorem upToFault_of_mapM_ok {edits : List ε} (h : xs.mapM f = .ok edits) :
    upToFault f xs = { edits } := by
  induction xs generalizing edits with
  | nil =>
    cases h
    rfl
  | cons x xs ih =>
    rw [List.mapM_cons] at h
    obtain ⟨edit, first, h⟩ := Result.bind_eq_ok.1 h
    obtain ⟨others, rest, h⟩ := Result.bind_eq_ok.1 h
    cases h
    simp only [upToFault, first, ih rest]

theorem fault_upToFault_of_mapM_error {fault : Fault} (h : xs.mapM f = .error fault) :
    (upToFault f xs).fault = some fault := by
  induction xs with
  | nil => cases h
  | cons x xs ih =>
    rw [List.mapM_cons] at h
    unfold upToFault
    cases first : f x with
    | error fault' =>
      rw [first] at h
      cases h
      rfl
    | ok edit =>
      rw [first] at h
      cases rest : xs.mapM f with
      | error fault' =>
        rw [rest] at h
        cases h
        exact ih rest
      | ok others =>
        rw [rest] at h
        cases h

end

/-! ## Two effects -/

/-- Related edits one by one, and a fault in both effects or in none. -/
structure Alike (S : ε → ε → Prop) (x y : Effect ε) : Prop where
  edits : List.Forall₂ S x.edits y.edits
  fault : x.fault.isSome = y.fault.isSome

variable {S : ε → ε → Prop}

theorem alike_self (x : Effect ε) (h : ∀ e ∈ x.edits, S e e) : Alike S x x :=
  ⟨List.forall₂_same.2 h, rfl⟩

theorem alike_ofResult {r r' : Result (List ε)} (h : Result.Agree (List.Forall₂ S) r r') :
    Alike S (ofResult r) (ofResult r') := by
  cases h with
  | ok related => exact ⟨related, rfl⟩
  | error fault fault' => exact ⟨.nil, rfl⟩

theorem alike_ofSingle {r r' : Result ε} (h : Result.Agree S r r') :
    Alike S (ofSingle r) (ofSingle r') :=
  alike_ofResult (h.map fun _ _ related => .cons related .nil)

end BoundQuery.Effect
