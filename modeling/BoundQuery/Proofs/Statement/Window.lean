import BoundQuery.Proofs.Result
import BoundQuery.Statement.Select

/-!
# Pages

A page is turned down before anything is set, or sets both its limit and its offset: what a window
holds passes the checks of either.
-/

namespace BoundQuery.Select

theorem positive?_eq_some {v : Value} {i : Int} (h : positive? v = some i) : 1 ≤ i := by
  unfold positive? at h
  split at h
  · split at h
    · cases h
    · cases h
      omega
  · cases h

theorem window_nonneg {config : Config} {page size : Value} {most skipped : Int}
    (h : window config page size = .ok (most, skipped)) : 0 ≤ most ∧ 0 ≤ skipped := by
  unfold window at h
  dsimp only at h
  generalize (if size.isNull = true then config.defaultPageSize else size) = chosen at h
  split at h
  · cases h
  · next p onPage =>
    split at h
    · cases h
    · next n ofSize =>
      obtain ⟨exceeds, _, h⟩ := Result.bind_eq_ok.1 h
      have first := positive?_eq_some onPage
      have rows := positive?_eq_some ofSize
      cases exceeds with
      | true => cases h
      | false =>
        cases h
        exact ⟨by omega, Int.mul_nonneg (by omega) (by omega)⟩

theorem checkCount_int (what : Str) {i : Int} (h : 0 ≤ i) : checkCount what (.int i) = .ok i :=
  if_neg (Int.not_lt.2 h)

/-- The checks of the limit and of the offset turn no page down. -/
theorem effect_paginate (config : Config) (page size : Value) :
    (Call.paginate page size).effect config =
      .ofResult ((window config page size).map fun (most, skipped) =>
        [.limit most, .offset skipped]) := by
  change Effect.upToFaultOf id ((window config page size).map fun (most, skipped) =>
    [setLimit (.int most), setOffset (.int skipped)]) = _
  cases found : window config page size with
  | error fault => rfl
  | ok window =>
    have bounds := window_nonneg found
    have limit : setLimit (.int window.1) = .ok (.limit window.1) := by
      rw [setLimit, checkCount_int _ bounds.1]
      rfl
    have offset : setOffset (.int window.2) = .ok (.offset window.2) := by
      rw [setOffset, checkCount_int _ bounds.2]
      rfl
    simp only [Except.map, Effect.upToFaultOf, Effect.upToFault, id, limit, offset]
    rfl

end BoundQuery.Select
