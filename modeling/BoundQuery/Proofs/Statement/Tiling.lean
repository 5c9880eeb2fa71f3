import BoundQuery.Proofs.Config.PageSize
import BoundQuery.Proofs.Statement.Count
import BoundQuery.Proofs.Statement.Window

/-!
# Pages tile the rows

A page of a selection is a window of its rows. The pages of one size lie side by side: page after
page no row is left out and none comes twice.

## Main definitions

* `Select.IsPage` — a page that is not turned down, with its number and its size.
* `Select.InWindow` — a row that a selection gives.

## Main statements

* `Select.window_eq_ok` — the window of a page.
* `Select.build_windowed` — a statement with a window is the statement without one and, at its end,
  the limit and the offset.
* `Select.pages_tile` — which pages are turned down, what the others set, and that each row lies in
  the window of one page.
-/

namespace BoundQuery

/-- The statement with a limit and an offset at its end. -/
def SqlQuery.windowed (q : SqlQuery) (limit offset : Int) : SqlQuery where
  text := q.text ++ " LIMIT " ++ Positional.placeholder (q.params.length + 1) ++
    " OFFSET " ++ Positional.placeholder (q.params.length + 2)
  params := q.params ++ [.int limit, .int offset]

namespace Select

/-! ## The window of a page -/

/-- The size of a page: the one asked for, or else the configured one. -/
def pageSize (config : Config) (size : Value) : Value :=
  if size.isNull then config.defaultPageSize else size

/-- The page has the number `p` and `n` rows, both whole numbers from one on, and is not too
large. -/
structure IsPage (config : Config) (page size : Value) (p n : Int) : Prop where
  number : page = .int p
  first : 1 ≤ p
  rows : pageSize config size = .int n
  nonempty : 1 ≤ n
  fits : ¬ config.IsTooLarge n

theorem positive?_eq_some_iff {v : Value} {i : Int} :
    positive? v = some i ↔ v = .int i ∧ 1 ≤ i := by
  constructor
  · intro h
    refine ⟨?_, positive?_eq_some h⟩
    unfold positive? at h
    split at h
    · split at h
      · cases h
      · cases h
        rfl
    · cases h
  · rintro ⟨rfl, least⟩
    exact if_neg (Int.not_lt.2 least)

variable {settings : Settings} {config : Config} {page size : Value} {p n limit offset : Int}

theorem exceedsMost_eq_ok (accepted : Config.ofSettings settings = .ok config) (n : Int) :
    exceedsMost config (.int n) = .ok false ∧ ¬ config.IsTooLarge n ∨
      exceedsMost config (.int n) = .ok true ∧ config.IsTooLarge n := by
  unfold exceedsMost
  rcases Config.measured_of_ofSettings accepted with unbounded | ⟨most, measured⟩
  · have null : config.maxPageSize = .null := by
      cases most : config.maxPageSize with
      | null => rfl
      | _ =>
        rw [most] at unbounded
        cases unbounded
    rw [if_pos unbounded]
    exact .inl ⟨rfl, Config.isTooLarge_of_null null n⟩
  · have bounded : ¬ config.maxPageSize.isNull = true := by
      intro unbounded
      cases most : config.maxPageSize <;> simp [most, Value.isNull, Value.measure?] at *
    have compared : Config.isBelow config.maxPageSize (.int n) = .ok (most.lt (.ofInt n)) :=
      Config.isBelow_eq_ok.2 ⟨most, .ofInt n, measured, rfl, rfl⟩
    rw [if_neg bounded, compared]
    cases below : most.lt (.ofInt n) with
    | false =>
      refine .inl ⟨rfl, ?_⟩
      rintro ⟨most', measured', above⟩
      obtain rfl := Option.some.inj (measured.symm.trans measured')
      rw [below] at above
      cases above
    | true => exact .inr ⟨rfl, most, measured, below⟩

theorem window_eq_ok (accepted : Config.ofSettings settings = .ok config) :
    window config page size = .ok (limit, offset) ↔
      ∃ p, IsPage config page size p limit ∧ offset = (p - 1) * limit := by
  have folded : (if size.isNull = true then config.defaultPageSize else size) =
    pageSize config size := rfl
  unfold window
  dsimp only
  rw [folded]
  constructor
  · intro h
    split at h
    · cases h
    · next p onPage =>
      split at h
      · cases h
      · next n ofSize =>
        obtain ⟨number, first⟩ := positive?_eq_some_iff.1 onPage
        obtain ⟨rows, nonempty⟩ := positive?_eq_some_iff.1 ofSize
        change (exceedsMost config (pageSize config size) >>= _) = _ at h
        rw [rows] at h
        rcases exceedsMost_eq_ok accepted n with ⟨compared, fits⟩ | ⟨compared, large⟩
        · rw [compared] at h
          cases h
          exact ⟨p, ⟨number, first, rows, nonempty, fits⟩, rfl⟩
        · rw [compared] at h
          cases h
  · rintro ⟨p, ⟨number, first, rows, nonempty, fits⟩, rfl⟩
    rw [positive?_eq_some_iff.2 ⟨number, first⟩, positive?_eq_some_iff.2 ⟨rows, nonempty⟩]
    change (exceedsMost config (pageSize config size) >>= _) = _
    rw [rows]
    rcases exceedsMost_eq_ok accepted limit with ⟨compared, _⟩ | ⟨_, large⟩
    · rw [compared]
      rfl
    · exact absurd large fits

/-- A page is turned down for its number, for its size, or for being too large. -/
theorem not_isPage_iff :
    (¬ ∃ p n, IsPage config page size p n) ↔
      (¬ ∃ p : Int, page = .int p ∧ 1 ≤ p) ∨
      (¬ ∃ n : Int, pageSize config size = .int n ∧ 1 ≤ n) ∨
      ∃ n : Int, pageSize config size = .int n ∧ config.IsTooLarge n := by
  constructor
  · intro none
    by_contra refused
    simp only [not_or, not_not] at refused
    obtain ⟨⟨p, number, first⟩, ⟨n, rows, nonempty⟩, fits⟩ := refused
    exact none ⟨p, n, number, first, rows, nonempty, fun large => fits ⟨n, rows, large⟩⟩
  · rintro refused ⟨p, n, given⟩
    rcases refused with number | rows | ⟨n', rows, large⟩
    · exact number ⟨p, given.number, given.first⟩
    · exact rows ⟨n, given.rows, given.nonempty⟩
    · cases given.rows.symm.trans rows
      exact given.fits large

/-! ## Setting a page -/

/-- The selection with another window. -/
def windowed (s : Select) (limit offset : Int) : Select :=
  { s with limit := some limit, offset := some offset }

/-- The selection without a window. -/
def unwindowed (s : Select) : Select :=
  { s with limit := none, offset := none }

variable {s : Select}

/-- What a page does that is not turned down. -/
theorem step_paginate_eq_iff (accepted : Config.ofSettings settings = .ok s.config)
    {paged : Select} :
    s.step (.paginate page size) = (paged, none) ↔
      ∃ p n, IsPage s.config page size p n ∧ paged = s.windowed n ((p - 1) * n) := by
  rw [step, effect_paginate]
  constructor
  · intro stepped
    cases found : window s.config page size with
    | error fault =>
      rw [found] at stepped
      cases stepped
    | ok rows =>
      obtain ⟨most, skipped⟩ := rows
      obtain ⟨p, given, rfl⟩ := (window_eq_ok accepted).1 found
      rw [found] at stepped
      cases stepped
      exact ⟨p, most, given, rfl⟩
  · rintro ⟨p, n, given, rfl⟩
    rw [(window_eq_ok accepted).2 ⟨p, given, rfl⟩]
    rfl

/-- What a page does that is turned down. -/
theorem step_paginate_of_not_isPage (accepted : Config.ofSettings settings = .ok s.config)
    (none : ¬ ∃ p n, IsPage s.config page size p n) :
    ∃ fault, s.step (.paginate page size) = (s, some fault) := by
  rw [step, effect_paginate]
  cases found : window s.config page size with
  | error fault => exact ⟨fault, rfl⟩
  | ok rows =>
    obtain ⟨p, given, _⟩ := (window_eq_ok accepted).1 found
    exact absurd ⟨p, _, given⟩ none

theorem exists_fault_paginate_iff (accepted : Config.ofSettings settings = .ok s.config) :
    (∃ fault, (s.step (.paginate page size)).2 = some fault) ↔
      ¬ ∃ p n, IsPage s.config page size p n := by
  constructor
  · rintro ⟨fault, turned⟩ ⟨p, n, given⟩
    rw [(step_paginate_eq_iff accepted).2 ⟨p, n, given, rfl⟩] at turned
    cases turned
  · intro none
    obtain ⟨fault, stepped⟩ := step_paginate_of_not_isPage accepted none
    exact ⟨fault, by rw [stepped]⟩

/-- A statement with a window is the statement without one and, at its end, the limit and the
offset. -/
theorem build_windowed (s : Select) (limit offset : Int) :
    (s.windowed limit offset).build =
      s.unwindowed.build.map fun q => q.windowed limit offset := by
  have fields : (s.windowed limit offset).fields = s.unwindowed.fields := rfl
  have body : (s.windowed limit offset).body = s.unwindowed.body := rfl
  unfold build
  rw [fields, body]
  cases spellings 0 s.unwindowed.fields with
  | error fault => rfl
  | ok names =>
    cases s.unwindowed.body with
    | error fault => rfl
    | ok body =>
      change Except.ok (SqlQuery.ofTemplate (head _ :: (body ++ tail _))) =
        Except.ok (SqlQuery.windowed (SqlQuery.ofTemplate (head _ :: (body ++ tail _))) _ _)
      rw [SqlQuery.ofTemplate_eq, SqlQuery.ofTemplate_eq]
      simp [SqlQuery.windowed, windowed, unwindowed, head, Template.inscribe,
        Template.inscribe_append, Template.values, written_tail, values_tail, tailText,
        windowValues, countText, countValues, Str.append_assoc]

/-! ## The rows of a page -/

/-- A selection gives the rows from its offset on, as many as its limit. -/
def InWindow (s : Select) (row : Nat) : Prop :=
  ∃ limit offset, s.limit = some limit ∧ s.offset = some offset ∧
    offset ≤ row ∧ row < offset + limit

/-- A row lies on the page that dividing by the size says. -/
theorem existsUnique_page (nonempty : 1 ≤ n) (row : Nat) :
    ∃! p : Int, 1 ≤ p ∧ (p - 1) * n ≤ row ∧ row < (p - 1) * n + n := by
  have positive : 0 < n := by omega
  refine ⟨row / n + 1, ⟨?_, ?_⟩, ?_⟩
  · have least : 0 ≤ (row : Int) / n := Int.ediv_nonneg (by omega) (by omega)
    omega
  · rw [Int.add_sub_cancel]
    exact (Int.ediv_eq_iff_of_pos positive).1 rfl
  · rintro p ⟨-, inPage⟩
    have quotient := (Int.ediv_eq_iff_of_pos positive).2 inPage
    omega

/-- Among the pages of one size, exactly one gives a row. -/
theorem existsUnique_inWindow (accepted : Config.ofSettings settings = .ok s.config)
    (rows : pageSize s.config size = .int n) (nonempty : 1 ≤ n) (fits : ¬ s.config.IsTooLarge n)
    (row : Nat) :
    ∃! p : Int, ∃ paged, s.step (.paginate (.int p) size) = (paged, none) ∧ paged.InWindow row := by
  obtain ⟨p, ⟨first, inPage⟩, only⟩ := existsUnique_page nonempty row
  have given : IsPage s.config (.int p) size p n := ⟨rfl, first, rows, nonempty, fits⟩
  have stepped := (step_paginate_eq_iff accepted).2 ⟨p, n, given, rfl⟩
  refine ⟨p, ⟨_, stepped, _, _, rfl, rfl, inPage⟩, ?_⟩
  rintro q ⟨paged, stepped, limit, offset, limited, skipped, inside⟩
  obtain ⟨q', n', other, rfl⟩ := (step_paginate_eq_iff accepted).1 stepped
  cases other.number
  cases other.rows.symm.trans rows
  cases limited
  cases skipped
  exact only q ⟨other.first, inside⟩

/-- A page is turned down when its number or its size is no whole number from one on or the size is
too large, and then changes nothing. Any other page takes the place of the limit and the offset that
were set before and binds both as the last two parameters. Every row lies in the window of exactly
one page of a size. -/
theorem pages_tile (accepted : Config.ofSettings settings = .ok s.config) (page size : Value) :
    ((∃ fault, (s.step (.paginate page size)).2 = some fault) ↔
      (¬ ∃ p : Int, page = .int p ∧ 1 ≤ p) ∨
      (¬ ∃ n : Int, pageSize s.config size = .int n ∧ 1 ≤ n) ∨
      ∃ n : Int, pageSize s.config size = .int n ∧ s.config.IsTooLarge n) ∧
    (∀ fault, (s.step (.paginate page size)).2 = some fault →
      (s.step (.paginate page size)).1 = s) ∧
    (∀ paged, s.step (.paginate page size) = (paged, none) →
      ∃ p n : Int, page = .int p ∧ pageSize s.config size = .int n ∧
        paged = s.windowed n ((p - 1) * n) ∧
        paged.build = s.unwindowed.build.map fun q => q.windowed n ((p - 1) * n)) ∧
    ∀ n : Int, pageSize s.config size = .int n → 1 ≤ n → ¬ s.config.IsTooLarge n →
      ∀ row : Nat, ∃! p : Int, ∃ paged, s.step (.paginate (.int p) size) = (paged, none) ∧
        paged.InWindow row := by
  refine ⟨(exists_fault_paginate_iff accepted).trans not_isPage_iff, ?_, ?_, ?_⟩
  · intro fault turned
    have none := (exists_fault_paginate_iff accepted).1 ⟨fault, turned⟩
    obtain ⟨fault', stepped⟩ := step_paginate_of_not_isPage accepted none
    rw [stepped]
  · intro paged stepped
    obtain ⟨p, n, given, rfl⟩ := (step_paginate_eq_iff accepted).1 stepped
    exact ⟨p, n, given.number, given.rows, rfl, build_windowed s _ _⟩
  · intro n rows nonempty fits row
    exact existsUnique_inWindow accepted rows nonempty fits row

/-- No page of this configuration has more than 100 rows. -/
def capped : Config :=
  { Config.standard with maxPageSize := .int 100 }

/-- Some elders, with a window that a page replaces. -/
def cappedElders : Select :=
  { Statement.elders with config := capped, offset := some 7 }

theorem build_unwindowed_cappedElders :
    cappedElders.unwindowed.build = .ok
      { text := Str.join ["SELECT id FROM users WHERE role IN ($1, $2) ",
          "AND note <> '?' OR age > $3"]
        params := [.str "admin", .str "owner", .int 60] } := by
  rfl

/-- The third page of 25 elders is given and one of 101 is not; the elder in row 60 is on one
page. -/
theorem pages_tile_elders :
    Config.ofSettings { maxPageSize := .int 100 } = .ok cappedElders.config ∧
    (∃ fault, (cappedElders.step (.paginate (.int 3) (.int 101))).2 = some fault) ∧
    (∃ q, (cappedElders.step (.paginate (.int 3) (.int 25))).1.build = .ok q ∧
      q.params = [.str "admin", .str "owner", .int 60, .int 25, .int 50]) ∧
    ∃! p : Int, ∃ paged, cappedElders.step (.paginate (.int p) (.int 25)) = (paged, none) ∧
      paged.InWindow 60 := by
  have accepted : Config.ofSettings { maxPageSize := .int 100 } = .ok cappedElders.config := by rfl
  have large (n : Int) : cappedElders.config.IsTooLarge n ↔ 100 < n :=
    Config.isTooLarge_of_int rfl n
  refine ⟨accepted, ?_, ?_, ?_⟩
  · refine (pages_tile accepted (.int 3) (.int 101)).1.2 (.inr (.inr ⟨101, rfl, ?_⟩))
    exact (large 101).2 (by decide)
  · obtain ⟨p, n, number, rows, _, built⟩ :=
      (pages_tile accepted (.int 3) (.int 25)).2.2.1
        (cappedElders.step (.paginate (.int 3) (.int 25))).1 (by rfl)
    cases number
    cases rows
    rw [built, build_unwindowed_cappedElders]
    exact ⟨_, rfl, rfl⟩
  · refine (pages_tile accepted (.int 1) (.int 25)).2.2.2 25 rfl (by decide) ?_ 60
    rw [large]
    decide

end Select
end BoundQuery
