import BoundQuery.Proofs.Answer
import BoundQuery.Proofs.Condition.Reading
import BoundQuery.Proofs.Condition.Values
import BoundQuery.Proofs.Json.Tree

/-!
# Conditions on data

A condition that is asked for with data is made or refused, and what it binds is data again: the
operand itself, its elements, or nothing.

## Main statements

* `FieldCondition.answers_make` — one comparison.
* `Filter.answers_conditionsOfEntries` — a whole filter, whatever its values look like.
-/

namespace BoundQuery

open Result

namespace Value

/-- The elements of data are data: the characters of a text, the keys of a mapping. -/
theorem IsData.elements {v : Value} {xs : List Value} (data : v.IsData)
    (h : v.elements = .ok xs) : ∀ x ∈ xs, x.IsData := by
  cases data with
  | null | bool _ | int _ | float _ => cases h
  | str s =>
    cases h
    intro x mem
    obtain ⟨c, _, rfl⟩ := List.mem_map.1 mem
    exact .str _
  | list each =>
    cases h
    exact each
  | map keys _ _ =>
    cases h
    intro x mem
    obtain ⟨e, inside, rfl⟩ := List.mem_map.1 mem
    obtain ⟨s, key⟩ := keys e inside
    rw [key]
    exact .str s

end Value

theorem Operator.isData_of_mem_bound (op : Operator) {operand : Value} (data : operand.IsData) :
    ∀ v ∈ op.bound operand, v.IsData := by
  have listed : ∀ v ∈ operand.elements.toOption.getD [], v.IsData := by
    cases found : operand.elements with
    | error fault => simp [Except.toOption]
    | ok xs => exact data.elements found
  unfold bound
  split
  · simp
  · split
    · exact listed
    · exact listed
    · simpa using data

namespace FieldCondition

/-- What a condition binds is data. -/
def HoldsData (c : FieldCondition) : Prop :=
  ∀ v ∈ c.test.values, v.IsData

theorem answers_ofNull (field : Text) (op : Operator) :
    (Test.ofNull field op).Answers fun _ => True := by
  unfold Test.ofNull
  split
  · exact .ok trivial
  · exact .ok trivial
  · exact .ok trivial
  · exact .ok trivial
  · exact .refused rfl

theorem answers_ofGiven (field : Text) (op : Operator) (operand : Value) :
    (Test.ofGiven field op operand).Answers fun _ => True := by
  have listed (negated : Bool) : (Test.ofList field op negated operand).Answers fun _ => True := by
    unfold Test.ofList
    split
    · exact .ok trivial
    · exact .ok trivial
    · exact .ok trivial
    · exact .refused rfl
  unfold Test.ofGiven
  split
  · exact .refused rfl
  · exact .refused rfl
  · exact listed false
  · exact listed true
  · exact .ok trivial

/-- A test of a field that has passed its gate, made or refused. -/
theorem answers_onField (d : Dialect) (field : Text) (operator : Value) {operand : Value}
    (data : operand.IsData) : (onField d field operator operand).Answers HoldsData := by
  have made : (onField d field operator operand).Answers fun _ => True := by
    unfold onField
    split
    · next op _ =>
      unfold ofOperator
      split
      · exact .refused rfl
      · split
        · exact (answers_ofNull field op).map fun _ _ => trivial
        · exact (answers_ofGiven field op operand).map fun _ _ => trivial
    · exact .refused rfl
  refine made.answered.imp fun c holds => ?_
  obtain ⟨op, _, values⟩ := values_of_onField holds.1
  rw [HoldsData, values]
  exact op.isData_of_mem_bound data

theorem answers_make (d : Dialect) (field operator : Value) {operand : Value}
    (data : operand.IsData) : (make d field operator operand).Answers HoldsData :=
  (Name.answers_gate _ _ field).bind fun name _ => answers_onField d name operator data

theorem answers_makeAggregate (d : Dialect) (field operator : Value) {operand : Value}
    (data : operand.IsData) : (makeAggregate d field operator operand).Answers HoldsData :=
  (Name.answers_gate _ _ field).bind fun name _ => answers_onField d name operator data

end FieldCondition

/-! ## Filters -/

namespace Comparator

theorem answers_ofEntry (key : Text) {operand : Value} (data : operand.IsData) :
    (ofEntry key operand).Answers fun c => c.operand.IsData := by
  unfold ofEntry
  split
  · exact .ok .null
  · split
    · exact .ok data
    · exact .refused rfl

theorem mem_of_namedEntries? {entries : List (Value × Value)} {named : List (Text × Value)}
    (h : namedEntries? entries = some named) : ∀ e ∈ named, (Value.text e.1, e.2) ∈ entries := by
  obtain ⟨rfl, _⟩ := eq_of_namedEntries? h
  exact fun e mem => List.mem_map.2 ⟨e, mem, rfl⟩

/-- What a value asks of a field is compared with data when the value is data. -/
theorem answers_ofSpec {spec : Value} (data : spec.IsData) :
    (ofSpec spec).Answers fun cs => ∀ c ∈ cs, c.operand.IsData := by
  cases data with
  | null => exact .ok (by simpa using Value.IsJson.null)
  | bool b => exact .ok (by simpa using Value.IsJson.bool b)
  | int i => exact .ok (by simpa using Value.IsJson.int i)
  | float h => exact .ok (by simpa using Value.IsJson.float h)
  | str s => exact .ok (by simpa using Value.IsJson.str s)
  | list each => exact .ok (by simpa using Value.IsJson.list each)
  | @map entries keys distinct each =>
    have whole := Value.IsJson.map keys distinct each
    cases entries with
    | nil => exact .ok (by simpa using whole)
    | cons e rest =>
      unfold ofSpec
      dsimp only
      cases read : namedEntries? (e :: rest) with
      | none => exact .ok (by simpa using whole)
      | some named =>
        refine answers_mapM fun (entry : Text × Value) mem => answers_ofEntry entry.1 ?_
        exact each _ (mem_of_namedEntries? read entry mem)

end Comparator

namespace Filter

theorem answers_ofEntries {entries : List (Value × Value)} (data : ∀ e ∈ entries, e.2.IsData) :
    (ofEntries entries).Answers fun pairs => ∀ pair ∈ pairs, pair.2.operand.IsData := by
  induction entries with
  | nil => exact .ok (by simp)
  | cons e entries ih =>
    obtain ⟨first, others⟩ := List.forall_mem_cons.1 data
    refine (Comparator.answers_ofSpec first).bind fun cs operands => ?_
    refine (ih others).bind fun pairs rest => .ok fun pair mem => ?_
    rcases List.mem_append.1 mem with here | there
    · obtain ⟨c, inside, rfl⟩ := List.mem_map.1 here
      exact operands c inside
    · exact rest pair there

/-- A filter on data is made or refused, whatever its keys and values look like. -/
theorem answers_conditionsOfEntries (d : Dialect) {entries : List (Value × Value)}
    (data : ∀ e ∈ entries, e.2.IsData) :
    (conditionsOfEntries d entries).Answers fun cs => ∀ c ∈ cs, c.HoldsData :=
  (answers_ofEntries data).bind fun _ operands =>
    answers_mapM fun pair mem => FieldCondition.answers_make d pair.1 _ (operands pair mem)

end Filter

/-! ## Templates of data -/

/-- Every slot holds data. -/
def Template.HoldsData (t : Template) : Prop :=
  ∀ v ∈ t.values, v.IsData

namespace Template

variable {s t : Template}

theorem HoldsData.append (left : s.HoldsData) (right : t.HoldsData) : HoldsData (s ++ t) := by
  intro v mem
  rw [values_append] at mem
  rcases List.mem_append.1 mem with mem | mem
  · exact left v mem
  · exact right v mem

theorem holdsData_nil : HoldsData [] := by
  simp [HoldsData, values]

theorem HoldsData.text (text : Str) (rest : t.HoldsData) : HoldsData (.text text :: t) :=
  rest

theorem holdsData_join (separator : Str) {ts : List Template}
    (each : ∀ t ∈ ts, t.HoldsData) : HoldsData (join separator ts) := by
  fun_induction join separator ts with
  | case1 => exact holdsData_nil
  | case2 t => exact each t (by simp)
  | case3 t ts _ ih =>
    have rest := ih fun t mem => each t (by simp [mem])
    exact (each t (by simp)).append (rest.text separator)

end Template

theorem FieldCondition.holdsData_template? {d : Dialect} {c : FieldCondition} (h : c.HoldsData)
    {t : Template} (written : c.template? d = some t) : t.HoldsData := by
  have values := values_template? d c
  rw [written] at values
  exact fun v mem => h v (values ▸ mem)

end BoundQuery
