import BoundQuery.Condition.Render
import BoundQuery.Proofs.Result

/-!
# Raw conditions with too many or too few values

A raw condition has a value for each marker of its fragment, or it cannot be written. Nothing else
can go wrong when conditions are written: those on a field have been checked when they were made. Of
several conditions the first that cannot be written says why the whole cannot.

## Main definitions

* `Marker.count` — how many markers of a fragment count.
* `Condition.IsMiscounted` — a raw condition whose values are more or less than its markers.
* `Condition.FirstMiscounted` — the first such condition of several.

## Main statements

* `Condition.isRefused_conjunction?_iff`, `Condition.conjunction?_of_first` — when conditions cannot
  be written, and what is said then.
-/

namespace BoundQuery

namespace Marker

/-- How many markers stand in a fragment outside quotes: one less than it has pieces. -/
def count (marker fragment : List Chr) : Nat :=
  (splitFrom marker 0 false fragment).length - 1

/-- What is said when a fragment has not as many markers as values. -/
def miscount (marker : List Chr) (fragment : Text) (values : List Value) : Fault :=
  .refusal (.markerCount (.text fragment) (count marker fragment.chars) values.length)

variable {marker : List Chr} {fragment : Text} {values : List Value}

theorem split_of_ne_nil (given : marker ≠ []) (cs : List Chr) :
    split marker cs = .ok (splitFrom marker 0 false cs) := by
  rw [split, if_neg (by simpa using given)]

theorem length_splitFrom (marker cs : List Chr) :
    (splitFrom marker 0 false cs).length = count marker cs + 1 := by
  have nonempty := List.length_pos_of_ne_nil (splitFrom_ne_nil marker 0 false cs)
  rw [count]
  omega

theorem template_eq_ok_of_count (given : marker ≠ [])
    (same : count marker fragment.chars = values.length) :
    ∃ t, template marker fragment values = .ok t := by
  have fits : ((splitFrom marker 0 false fragment.chars).length == values.length + 1) = true := by
    simp [length_splitFrom, same]
  rw [template, split_of_ne_nil given]
  exact ⟨_, if_pos fits⟩

theorem template_eq_error_of_count (given : marker ≠ [])
    (other : count marker fragment.chars ≠ values.length) :
    template marker fragment values = .error (miscount marker fragment values) := by
  have unfit :
      ¬ ((splitFrom marker 0 false fragment.chars).length == values.length + 1) = true := by
    simp [length_splitFrom, other]
  rw [template, split_of_ne_nil given]
  refine (if_neg unfit).trans ?_
  have less (n : Nat) : ((n + 1 : Nat) : Int) - 1 = n := by omega
  rw [miscount, length_splitFrom, less]
  rfl

end Marker

namespace Condition

variable {marker : List Chr} {d : Dialect} {cs : List Condition}

/-- A raw condition that has not as many values as markers. -/
def IsMiscounted (marker : List Chr) : Condition → Prop
  | .field _ => False
  | .raw fragment values => Marker.count marker fragment.chars ≠ values.length

instance decidableIsMiscounted (marker : List Chr) :
    (c : Condition) → Decidable (c.IsMiscounted marker)
  | .field _ => inferInstanceAs (Decidable False)
  | .raw fragment values =>
    inferInstanceAs (Decidable (Marker.count marker fragment.chars ≠ values.length))

theorem exists_template?_of_not_isMiscounted (given : marker ≠ []) {c : Condition}
    (h : ¬ c.IsMiscounted marker) : ∃ t?, c.template? d marker = .ok t? := by
  cases c with
  | field c => exact ⟨_, rfl⟩
  | raw fragment values =>
    obtain ⟨t, made⟩ := Marker.template_eq_ok_of_count given (not_not.1 h)
    exact ⟨some t, Result.map_eq_ok.2 ⟨t, made, rfl⟩⟩

theorem isRefused_template?_iff (given : marker ≠ []) {c : Condition} :
    (c.template? d marker).IsRefused ↔ c.IsMiscounted marker := by
  constructor
  · intro refused
    by_contra counted
    exact Result.not_isRefused_iff.2 (exists_template?_of_not_isMiscounted given counted) refused
  · intro miscounted
    cases c with
    | field c => cases miscounted
    | raw fragment values =>
      exact Result.isRefused_map_iff.2 ⟨_, Marker.template_eq_error_of_count given miscounted⟩

/-- The conjunction of conditions is turned down when one of them cannot be written. -/
theorem isRefused_conjunction?_iff (given : marker ≠ []) :
    (conjunction? d marker cs).IsRefused ↔ ∃ c ∈ cs, c.IsMiscounted marker := by
  have each : (cs.mapM (template? d marker)).IsRefused ↔ ∃ c ∈ cs, c.IsMiscounted marker := by
    simp only [Result.isRefused_mapM_iff, isRefused_template?_iff given]
  rw [← each, conjunction?, templates]
  cases cs.mapM (template? d marker) with
  | error fault => exact iff_of_true ⟨fault, rfl⟩ ⟨fault, rfl⟩
  | ok ts => exact iff_of_false (Result.not_isRefused_ok _) (Result.not_isRefused_ok _)

/-- The first raw condition that has not as many values as markers. -/
def FirstMiscounted (marker : List Chr) (cs : List Condition) (fragment : Text)
    (values : List Value) : Prop :=
  ∃ before after, cs = before ++ .raw fragment values :: after ∧
    (∀ c ∈ before, ¬ c.IsMiscounted marker) ∧ IsMiscounted marker (.raw fragment values)

theorem exists_firstMiscounted (h : ∃ c ∈ cs, c.IsMiscounted marker) :
    ∃ fragment values, FirstMiscounted marker cs fragment values := by
  induction cs with
  | nil => simp at h
  | cons c cs ih =>
    by_cases here : c.IsMiscounted marker
    · cases c with
      | field c => cases here
      | raw fragment values => exact ⟨fragment, values, [], cs, rfl, by simp, here⟩
    · obtain ⟨fragment, values, before, after, rfl, passed, miscounted⟩ :=
        ih (by simpa [here] using h)
      exact ⟨fragment, values, c :: before, after, rfl, List.forall_mem_cons.2 ⟨here, passed⟩,
        miscounted⟩

/-- The first condition that cannot be written says why the conjunction cannot. -/
theorem conjunction?_of_first (given : marker ≠ []) {fragment : Text} {values : List Value}
    (h : FirstMiscounted marker cs fragment values) :
    conjunction? d marker cs = .error (Marker.miscount marker fragment values) := by
  obtain ⟨before, after, rfl, passed, miscounted⟩ := h
  have refused : template? d marker (.raw fragment values) =
      .error (Marker.miscount marker fragment values) := by
    rw [template?, Marker.template_eq_error_of_count given miscounted]
    rfl
  have first : (before ++ .raw fragment values :: after).mapM (template? d marker) =
      .error (Marker.miscount marker fragment values) :=
    Result.mapM_eq_error_of_first
      (fun c mem => exists_template?_of_not_isMiscounted given (passed c mem)) refused
  rw [conjunction?, templates, first]
  rfl

end Condition
end BoundQuery
