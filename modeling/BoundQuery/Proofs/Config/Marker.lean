import BoundQuery.Config.Basic
import BoundQuery.Proofs.Result

/-!
# The marker of a configuration

A configuration that passes its check has a marker that says something and holds no dollar sign.
-/

namespace BoundQuery.Config

variable {settings : Settings} {config : Config}

theorem checkMarker_eq_ok {v : Value} {t : Text} (h : checkMarker v = .ok t) :
    Chars.isAllBlank t.spelling = false ∧ .scalar '$' ∉ t.chars := by
  unfold checkMarker at h
  split at h
  · next t' =>
    split at h
    · cases h
    · next nonblank =>
      split at h
      · cases h
      · next plain =>
        cases h
        simp only [Bool.or_eq_true, not_or, Bool.not_eq_true] at nonblank
        exact ⟨nonblank.2, by simpa using plain⟩
  · cases h

/-- The marker of a configuration that has passed its check. -/
theorem marker_of_ofSettings (accepted : ofSettings settings = .ok config) :
    (∃ c ∈ config.marker, Chars.isBlank c = false) ∧ .scalar '$' ∉ config.marker := by
  obtain ⟨text, checked, h⟩ := Result.bind_eq_ok.1 accepted
  obtain ⟨_, _, h⟩ := Result.bind_eq_ok.1 h
  obtain ⟨_, _, h⟩ := Result.bind_eq_ok.1 h
  obtain ⟨_, _, same⟩ := Result.bind_eq_ok.1 h
  cases same
  obtain ⟨nonblank, plain⟩ := checkMarker_eq_ok checked
  exact ⟨by simpa [Chars.isAllBlank, marker, Text.chars] using nonblank, plain⟩

theorem marker_ne_nil (accepted : ofSettings settings = .ok config) : config.marker ≠ [] := by
  obtain ⟨⟨c, mem, _⟩, _⟩ := marker_of_ofSettings accepted
  exact List.ne_nil_of_mem mem

end BoundQuery.Config
