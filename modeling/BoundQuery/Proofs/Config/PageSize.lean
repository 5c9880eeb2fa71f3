import BoundQuery.Proofs.Config.Marker

/-!
# The page sizes of a configuration

A configuration that passes its check has page sizes that are numbers: it has been found out which
of them is below the other. The largest size may be left out.

## Main definitions

* `Config.IsTooLarge` — the sizes that a configuration lets no page have.
-/

namespace BoundQuery.Config

variable {settings : Settings} {config : Config}

/-- A page of `n` rows is larger than the largest one. -/
def IsTooLarge (config : Config) (n : Int) : Prop :=
  ∃ most, config.maxPageSize.measure? = some most ∧ most.lt (.ofInt n) = true

theorem isTooLarge_of_null (unbounded : config.maxPageSize = .null) (n : Int) :
    ¬ config.IsTooLarge n := by
  rintro ⟨most, measured, _⟩
  rw [unbounded] at measured
  cases measured

theorem isTooLarge_of_int {most : Int} (bounded : config.maxPageSize = .int most) (n : Int) :
    config.IsTooLarge n ↔ most < n := by
  simp [IsTooLarge, bounded, Value.measure?]

theorem isBelow_eq_ok {v w : Value} {b : Bool} :
    isBelow v w = .ok b ↔ ∃ x y, v.measure? = some x ∧ w.measure? = some y ∧ x.lt y = b := by
  unfold isBelow
  cases v.measure? with
  | none => simp
  | some x => cases w.measure? <;> simp

/-- The largest size of a configuration that has passed its check can be compared. -/
theorem measured_of_ofSettings (accepted : ofSettings settings = .ok config) :
    config.maxPageSize.isNull = true ∨ ∃ most, config.maxPageSize.measure? = some most := by
  obtain ⟨_, _, h⟩ := Result.bind_eq_ok.1 accepted
  obtain ⟨_, _, h⟩ := Result.bind_eq_ok.1 h
  obtain ⟨_, checked, h⟩ := Result.bind_eq_ok.1 h
  obtain ⟨_, _, same⟩ := Result.bind_eq_ok.1 h
  cases same
  unfold checkMaxPageSize at checked
  by_cases unbounded : settings.maxPageSize.isNull = true
  · exact .inl unbounded
  · rw [Bool.not_eq_true] at unbounded
    rw [unbounded] at checked
    obtain ⟨_, compared, _⟩ := Result.bind_eq_ok.1 checked
    obtain ⟨most, _, measured, _⟩ := isBelow_eq_ok.1 compared
    exact .inr ⟨most, measured⟩

end BoundQuery.Config
