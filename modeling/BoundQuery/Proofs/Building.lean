import BoundQuery.GraphQuery.Build
import BoundQuery.Proofs.Condition.Miscount
import BoundQuery.Proofs.Config.Marker
import BoundQuery.Proofs.GraphQuery.Atomic
import BoundQuery.Proofs.Statement.Cells
import BoundQuery.Proofs.Statement.Count
import BoundQuery.Proofs.Statement.Stored
import BoundQuery.Proofs.TurnedDown

/-!
# When building fails

Whatever has been called before, a selection, an update or a deletion can be built unless one of its
raw conditions has not as many values as markers. An insertion can always be built, for each of its
rows has been found to have all columns, and so can a graph query: its raw fragments are counted
when they are handed over, by the same rule.

## Main definitions

* `Condition.EndsBy` — building that fails for nothing but a raw condition.
* `GraphQuery.rawFault` — when a raw fragment is turned down.

## Main statements

* `build_of_run` — how building ends, for builders of every kind.
-/

namespace BoundQuery

open Run (after)

/-! ## Conditions -/

/-- Building with some conditions fails when one of them is a raw one that has not as many values as
markers, and the first such condition says why. -/
structure Condition.EndsBy {α : Type} (marker : List Chr) (cs : List Condition)
    (built : Result α) : Prop where
  isRefused_iff : built.IsRefused ↔ ∃ c ∈ cs, c.IsMiscounted marker
  first : built.IsRefused → ∃ fragment values, FirstMiscounted marker cs fragment values
  fault : ∀ fragment values, FirstMiscounted marker cs fragment values →
    built = .error (Marker.miscount marker fragment values)

theorem Condition.endsBy_map {α : Type} {marker : List Chr} (given : marker ≠ [])
    (d : Dialect) (cs : List Condition) (f : Option Template → α) :
    EndsBy marker cs ((conjunction? d marker cs).map f) where
  isRefused_iff := by rw [Result.isRefused_map_iff, isRefused_conjunction?_iff given]
  first refused := by
    rw [Result.isRefused_map_iff, isRefused_conjunction?_iff given] at refused
    exact exists_firstMiscounted refused
  fault fragment values first := by
    rw [conjunction?_of_first given first]
    rfl

/-- Conditions on fields can always be written. -/
theorem Condition.exists_conjunction?_field {marker : List Chr} (given : marker ≠ []) (d : Dialect)
    (cs : List FieldCondition) : ∃ t?, conjunction? d marker (cs.map .field) = .ok t? := by
  rw [← Result.not_isRefused_iff, isRefused_conjunction?_iff given]
  rintro ⟨c, mem, miscounted⟩
  obtain ⟨fc, _, rfl⟩ := List.mem_map.1 mem
  exact miscounted

/-! ## Selections, updates and deletions -/

namespace Select

theorem endsBy_build {s : Select} {names : List Text} (texts : s.fields = names.map .text)
    (given : s.config.marker ≠ []) :
    Condition.EndsBy s.config.marker s.conditions s.build := by
  obtain ⟨having, written⟩ :=
    Condition.exists_conjunction?_field given .relational s.having
  have opened : s.build = (Condition.conjunction? .relational s.config.marker s.conditions).map
      fun conditions => .ofTemplate
        (head (commaSeparated (names.map Text.spelling)) ::
          (.text (" FROM " ++ s.table.shown) :: s.joins.map (fun j => .text (joinText j)) ++
            conditionClause " WHERE " conditions ++ [.text (groupText s.groups)] ++
            conditionClause " HAVING " having) ++ s.tail) := by
    rw [build, texts, spellings_texts, body, written]
    cases Condition.conjunction? .relational s.config.marker s.conditions <;> rfl
  rw [opened]
  exact Condition.endsBy_map given .relational s.conditions _

theorem made_of_make {config : Config} {table fields : Value} {s : Select}
    (made : make config table fields = .ok s) : s.config = config ∧ s.conditions = [] := by
  obtain ⟨name, _, made⟩ := Result.bind_eq_ok.1 made
  dsimp only at made
  split at made <;>
  · obtain ⟨texts, _, same⟩ := Result.bind_eq_ok.1 made
    cases same
    exact ⟨rfl, rfl⟩

end Select

namespace Modify

theorem endsBy_build {s : Modify} (given : s.config.marker ≠ []) :
    Condition.EndsBy s.config.marker s.conditions s.build := by
  have opened : s.build = (Condition.conjunction? .relational s.config.marker s.conditions).map
      fun conditions => .ofTemplate
        (s.head ++ conditionClause " WHERE " conditions ++ returningClause s.returning) := by
    rw [build, template]
    cases Condition.conjunction? .relational s.config.marker s.conditions <;> rfl
  rw [opened]
  exact Condition.endsBy_map given .relational s.conditions _

theorem made_of_makeUpdate {config : Config} {table data : Value} {s : Modify}
    (made : makeUpdate config table data = .ok s) : s.config = config ∧ s.conditions = [] := by
  obtain ⟨name, _, made⟩ := Result.bind_eq_ok.1 made
  dsimp only at made
  split at made
  · cases made
  · obtain ⟨entries, _, made⟩ := Result.bind_eq_ok.1 made
    obtain ⟨assignments, _, same⟩ := Result.bind_eq_ok.1 made
    cases same
    exact ⟨rfl, rfl⟩

theorem made_of_makeDelete {config : Config} {table : Value} {s : Modify}
    (made : makeDelete config table = .ok s) : s.config = config ∧ s.conditions = [] := by
  obtain ⟨name, _, same⟩ := Result.bind_eq_ok.1 made
  cases same
  exact ⟨rfl, rfl⟩

end Modify

/-! ## Graph queries -/

namespace GraphQuery

theorem exists_build {q : GraphQuery} {names names' : List Text} {between : Text}
    (withTexts : q.withItems = names.map .text) (returnTexts : q.returnItems = names'.map .text)
    (text : q.config.clauseSeparator = .text between) : ∃ built, q.build = .ok built := by
  rw [build, clauses, withTexts, returnTexts, spellings_texts, spellings_texts, separator, text]
  exact ⟨_, rfl⟩

section
variable {marker : List Chr} {fragment : Text} {values : Value} {xs : List Value}

theorem rawPattern_eq (nonblank : fragment.isBlank = false)
    (listed : values.elementsOrNone = .ok xs) :
    rawPattern marker (.text fragment) values =
      liftM (Marker.template marker fragment xs) >>= Minting.fill := by
  simp only [rawPattern, nonblank, listed]
  rfl

/-- Whether a raw fragment is turned down. -/
def rawFault (marker : List Chr) (fragment : Text) (xs : List Value) : Option Fault :=
  if Marker.count marker fragment.chars = xs.length then none
  else some (Marker.miscount marker fragment xs)

theorem fault_placed_rawPattern (given : marker ≠ []) (nonblank : fragment.isBlank = false)
    (listed : values.elementsOrNone = .ok xs) (clause : PatternClause) (n : Nat) :
    (Effect.ofResult
        ((placed clause (rawPattern marker (.text fragment) values)).outcome n).1).fault =
      rawFault marker fragment xs := by
  rw [rawPattern_eq nonblank listed, rawFault]
  by_cases same : Marker.count marker fragment.chars = xs.length
  · obtain ⟨t, made⟩ := Marker.template_eq_ok_of_count given same
    rw [made, if_pos same]
    rfl
  · rw [Marker.template_eq_error_of_count given same, if_neg same]
    rfl

end

end GraphQuery

/-! ## Builders of every kind -/

theorem Restriction.given_raw {fragment : Text} {values : Value} {xs : List Value}
    (nonblank : fragment.isBlank = false) (listed : values.elementsOrNone = .ok xs) :
    (Restriction.raw (.text fragment) values).given = [.raw fragment xs] := by
  simp only [given, conditions, Condition.makeRaw, nonblank, listed]
  rfl

/-- A selection, an update or a deletion stores its conditions in the order of the calls, and can be
built unless a raw one among them has not as many values as markers. An insertion can be built, and
so can a graph query whose items and whose separator are texts: a raw fragment is turned down by the
call for it, when a statement that had stored it could not be built. -/
theorem build_of_run {settings : Settings} {config : Config}
    (accepted : Config.ofSettings settings = .ok config) :
    (∀ (table fields : Value) (s : Select) (names : List Text) (calls : List Select.Call),
      Select.make config table fields = .ok s → s.fields = names.map .text →
      (after Select.step s calls).conditions = calls.flatMap Select.Call.conditions ∧
      Condition.EndsBy config.marker (after Select.step s calls).conditions
        (after Select.step s calls).build) ∧
    (∀ (table data : Value) (s : Modify) (calls : List Modify.Call),
      Modify.makeUpdate config table data = .ok s ∨ Modify.makeDelete config table = .ok s →
      (after Modify.step s calls).conditions = calls.flatMap Modify.Call.conditions ∧
      Condition.EndsBy config.marker (after Modify.step s calls).conditions
        (after Modify.step s calls).build) ∧
    (∀ (table data : Value) (s : Insert) (calls : List Insert.Call),
      Insert.make table data = .ok s →
      (after Insert.step s calls).builtFrom? (Insert.rowsGiven data) =
        some (after Insert.step s calls).build) ∧
    (∀ (q : GraphQuery) (names names' : List Text) (between : Text),
      q.withItems = names.map .text → q.returnItems = names'.map .text →
      q.config.clauseSeparator = .text between → ∃ built, q.build = .ok built) ∧
    ∀ (q : GraphQuery) (fragment : Text) (values : Value) (xs : List Value),
      q.config = config → fragment.isBlank = false → values.elementsOrNone = .ok xs →
      (q.step (.condition (.text fragment) values)).2 =
        GraphQuery.rawFault config.marker fragment xs ∧
      (q.step (.assign (.text fragment) values)).2 =
        GraphQuery.rawFault config.marker fragment xs ∧
      (Restriction.raw (.text fragment) values).given = [.raw fragment xs] := by
  have given := Config.marker_ne_nil accepted
  refine ⟨?_, ?_, ?_, ?_, ?_⟩
  · intro table fields s names calls made texts
    obtain ⟨sameConfig, empty⟩ := Select.made_of_make made
    obtain ⟨stored, keptConfig, keptFields⟩ := Select.conditions_after s calls
    rw [empty, List.nil_append] at stored
    have same := keptConfig.trans sameConfig
    refine ⟨stored, ?_⟩
    rw [← same]
    exact Select.endsBy_build (keptFields.trans texts) (same ▸ given)
  · intro table data s calls made
    obtain ⟨sameConfig, empty⟩ : s.config = config ∧ s.conditions = [] := by
      rcases made with made | made
      · exact Modify.made_of_makeUpdate made
      · exact Modify.made_of_makeDelete made
    obtain ⟨stored, keptConfig⟩ := Modify.conditions_after s calls
    rw [empty, List.nil_append] at stored
    have same := keptConfig.trans sameConfig
    refine ⟨stored, ?_⟩
    rw [← same]
    exact Modify.endsBy_build (same ▸ given)
  · intro table data s calls made
    exact Insert.builtFrom?_after made calls
  · intro q names names' between withTexts returnTexts text
    exact GraphQuery.exists_build withTexts returnTexts text
  · intro q fragment values xs same nonblank listed
    subst same
    exact ⟨GraphQuery.fault_placed_rawPattern given nonblank listed .condition q.counter,
      GraphQuery.fault_placed_rawPattern given nonblank listed .assign q.counter,
      Restriction.given_raw nonblank listed⟩

/-- A condition on a field, and two raw ones of which the second has a value too few. -/
def unbuildable : List Select.Call :=
  [.restrict (.equals (.str "role") (.str "admin")),
    .restrict (.raw (.str "name <> '?'") .null),
    .limit (.int 5),
    .restrict (.raw (.str "age < ? OR age > ?") (.list [.int 18]))]

theorem build_of_run_unbuildable :
    Config.ofSettings {} = .ok .standard ∧
    Select.make .standard (.str "users") (.str "role") = .ok Statement.bare ∧
    (after Select.step Statement.bare unbuildable).build =
      .error (.refusal (.markerCount (.str "age < ? OR age > ?") 2 1)) ∧
    (numbered.step (.condition (.str "n.age < ? OR n.age > ?") (.list [.int 18]))).2 =
      some (.refusal (.markerCount (.str "n.age < ? OR n.age > ?") 2 1)) ∧
    ∃ built, numbered.build = .ok built := by
  have accepted : Config.ofSettings {} = .ok .standard := by rfl
  have made : Select.make .standard (.str "users") (.str "role") = .ok Statement.bare := by rfl
  have all := build_of_run accepted
  refine ⟨accepted, made, ?_, ?_, ?_⟩
  · refine (all.1 _ _ Statement.bare [.plain "role"] unbuildable made rfl).2.fault
      (.plain "age < ? OR age > ?") [.int 18] ⟨[_, _], [], rfl, ?_, ?_⟩
    · intro c mem
      rcases List.mem_pair.1 mem with rfl | rfl
      · exact id
      · decide
    · decide
  · exact (all.2.2.2.2 numbered (.plain "n.age < ? OR n.age > ?") (.list [.int 18]) [.int 18] rfl
      (by decide) rfl).1
  · exact all.2.2.2.1 numbered [] [] (.plain "\n") rfl rfl rfl

end BoundQuery
