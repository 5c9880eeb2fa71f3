import BoundQuery.Document.Relational
import BoundQuery.Proofs.Document.Shape
import BoundQuery.Proofs.Statement.Rows
import BoundQuery.Proofs.Statement.Window

/-!
# Statements of data

A statement that collects data is built or refused, and binds data. A call on it is refused or keeps
it so, as long as the call gets data in the places where it looks into a value: any other argument
is checked before it is used.

## Main definitions

* `Select.HoldsData`, `Modify.HoldsData`, `Insert.HoldsData` — statements that bind data only.
* `Select.Call.HoldsData` — calls with data where they look into a value.

## Main statements

* `Select.keeps_call`, `Modify.answers_modifyCall` — calls in the order of a document.
* `Select.HoldsData.answers_build`, `Modify.HoldsData.answers_build`,
  `Insert.HoldsData.build` — what is built.
-/

namespace BoundQuery

open Result Document

/-! ## Clauses that bind data -/

/-- A condition that was made from a field, an operator and data. -/
def Condition.HoldsData (c : Condition) : Prop :=
  ∃ f, c = .field f ∧ f.HoldsData

def SqlQuery.HoldsData (q : SqlQuery) : Prop :=
  ∀ v ∈ q.params, v.IsData

theorem SqlQuery.holdsData_ofTemplate {t : Template} (h : t.HoldsData) :
    (ofTemplate t).HoldsData := by
  intro v mem
  rw [params_ofTemplate] at mem
  exact h v mem

/-- Conditions on data can all be written. -/
theorem Condition.answers_conjunction? {d : Dialect} {marker : List Chr} {cs : List Condition}
    (h : ∀ c ∈ cs, c.HoldsData) :
    (conjunction? d marker cs).Answers fun t? => ∀ t ∈ t?, t.HoldsData := by
  have each : ∀ c ∈ cs, (template? d marker c).Answers fun t? => ∀ t ∈ t?, t.HoldsData := by
    intro c mem
    obtain ⟨f, rfl, data⟩ := h c mem
    exact .ok fun t written => f.holdsData_template? data written
  have templates : (templates d marker cs).Answers fun ts => ∀ t ∈ ts, t.HoldsData := by
    refine (answers_mapM each).bind fun found data => .ok fun t mem => ?_
    obtain ⟨t?, inside, written⟩ := List.mem_filterMap.1 mem
    exact data t? inside t written
  refine templates.bind fun ts data => .ok fun t joined => ?_
  cases ts with
  | nil => cases joined
  | cons first rest =>
    cases joined
    exact Template.holdsData_join _ data

theorem holdsData_conditionClause (keyword : Str) {t? : Option Template}
    (h : ∀ t ∈ t?, t.HoldsData) : (conditionClause keyword t?).HoldsData := by
  cases t? with
  | none => exact Template.holdsData_nil
  | some t => exact (h t rfl).text keyword

theorem holdsData_returningClause (fields : List Text) : (returningClause fields).HoldsData := by
  cases fields <;> exact Template.holdsData_nil

/-- The conditions of a filter on data. -/
theorem Restriction.answers_filters {d : Dialect} {entries : List (Value × Value)}
    (data : (Value.map entries).IsData) :
    (conditions d (.filters (.map entries))).Answers fun cs => ∀ c ∈ cs, c.HoldsData := by
  cases data with | map _ _ each =>
  refine (Filter.answers_conditionsOfEntries d each).bind fun fs holds => .ok fun c mem => ?_
  obtain ⟨f, inside, rfl⟩ := List.mem_map.1 mem
  exact ⟨f, rfl, holds f inside⟩

theorem answers_returningItem (v : Value) : (returningItem v).Answers fun _ => True := by
  unfold returningItem
  split
  · split
    · exact .ok trivial
    · exact Name.answers_gate _ _ _
  · exact Name.answers_gate _ _ _

/-! ## Selections -/

namespace Select

/-- A selection of texts that binds data. -/
structure HoldsData (s : Select) : Prop where
  config : s.config = .standard
  fields : ∀ v ∈ s.fields, v.IsString
  conditions : ∀ c ∈ s.conditions, c.HoldsData
  having : ∀ c ∈ s.having, c.HoldsData

def Edit.HoldsData : Edit → Prop
  | condition c => c.HoldsData
  | having c => c.HoldsData
  | _ => True

/-- A call with data in the places where a call looks into it. -/
def Call.HoldsData : Call → Prop
  | restrict r => ∃ entries, r = .filters (.map entries) ∧ (Value.map entries).IsData
  | groupBy fields => fields.IsString ∨ fields.IsList
  | having _ _ operand => operand.IsData
  | _ => True

variable {s : Select}

theorem HoldsData.apply (h : s.HoldsData) {e : Edit} (data : e.HoldsData) :
    (s.apply e).HoldsData := by
  cases e with
  | condition c =>
    have all : ∀ d ∈ s.conditions ++ [c], d.HoldsData := by
      simpa [or_imp, forall_and] using ⟨h.conditions, data⟩
    exact { h with conditions := all }
  | having c =>
    have all : ∀ d ∈ s.having ++ [c], d.HoldsData := by
      simpa [or_imp, forall_and] using ⟨h.having, data⟩
    exact { h with having := all }
  | join _ | group _ | sort _ | limit _ | offset _ => exact { h with }

theorem answers_makeJoin (table type condition : Value) :
    (makeJoin table type condition).Answers fun _ => True := by
  have checked : (checkJoinCondition condition).Answers fun _ => True := by
    unfold checkJoinCondition
    split
    · split
      · exact .refused rfl
      · exact .ok trivial
    · exact .refused rfl
  refine (answers_checkJoinType type).bind fun _ _ => checked.bind fun _ _ => ?_
  exact (Name.answers_gate _ _ table).bind fun _ _ => .ok trivial

theorem answers_makeSort (field direction : Value) :
    (makeSort field direction).Answers fun _ => True :=
  (Name.answers_gate _ _ field).bind fun _ _ =>
    (answers_checkDirection direction).bind fun _ _ => .ok trivial

/-- Under the standard configuration no page is too large. -/
theorem answers_window (page size : Value) :
    (window .standard page size).Answers fun _ => True := by
  unfold window
  dsimp only
  split
  · exact .refused rfl
  · split
    · exact .refused rfl
    · exact .ok trivial

theorem Call.answers_effect {c : Call} (h : c.HoldsData) :
    (c.effect .standard).Answers Edit.HoldsData := by
  cases c with
  | restrict r =>
    obtain ⟨entries, rfl, data⟩ := h
    refine Effect.answers_ofResult ((Restriction.answers_filters data).map fun cs holds e mem => ?_)
    obtain ⟨c, inside, rfl⟩ := List.mem_map.1 mem
    exact holds c inside
  | join table type condition =>
    exact Effect.answers_ofSingle ((answers_makeJoin table type condition).map fun _ _ => trivial)
  | groupBy fields =>
    refine Effect.answers_upToFaultOf ((Value.answers_asList h).imp fun xs _ x _ => ?_)
    exact (Name.answers_gate _ _ x).map fun _ _ => trivial
  | having expression operator operand =>
    exact Effect.answers_ofSingle
      ((FieldCondition.answers_makeAggregate _ expression operator h).map fun _ holds => holds)
  | orderBy field direction =>
    exact Effect.answers_ofSingle ((answers_makeSort field direction).map fun _ _ => trivial)
  | limit count | offset count =>
    exact Effect.answers_ofSingle ((answers_checkCount _ count).map fun _ _ => trivial)
  | paginate page size =>
    rw [effect_paginate]
    refine Effect.answers_ofResult ((answers_window page size).map fun bounds _ e mem => ?_)
    rcases List.mem_pair.1 mem with rfl | rfl <;> trivial

/-- A call on data keeps a selection of data, or is refused. -/
theorem keeps_call {c : Call} (h : c.HoldsData) :
    Keeps HoldsData (Relational.call c) fun _ => True := by
  intro s holds
  have effect := Call.answers_effect h
  rw [← holds.config] at effect
  have kept := effect.foldl holds fun _ kept _ data => kept.apply data
  refine effect.settle (a := ((), _)) (fun f cut => ?_) (fun whole => ?_) ⟨trivial, kept⟩
  · simp only [Relational.call, step, StateT.run_bind, StateT.run_get, pure_bind, cut]
    rfl
  · simp only [Relational.call, step, StateT.run_bind, StateT.run_get, pure_bind, whole]
    rfl

theorem answers_make (table : Value) {fields : Value}
    (shape : IfGiven (fun v => v.IsString ∨ v.IsListOf Value.IsString) fields) :
    (make .standard table fields).Answers HoldsData := by
  refine (Name.answers_gate _ _ table).bind fun name _ => ?_
  dsimp only
  split
  · next given =>
    exact (Value.answers_asList_strings (shape.shape given)).bind fun vs strings =>
      .ok ⟨rfl, strings, by simp, by simp⟩
  · exact .ok ⟨rfl, by simp [Value.IsString], by simp, by simp⟩

theorem HoldsData.answers_body (h : s.HoldsData) : s.body.Answers Template.HoldsData := by
  have having : ∀ c ∈ s.having.map Condition.field, c.HoldsData := by
    intro c mem
    obtain ⟨f, inside, rfl⟩ := List.mem_map.1 mem
    exact ⟨f, rfl, h.having f inside⟩
  have joins : Template.HoldsData (s.joins.map fun j => .text (joinText j)) := by
    induction s.joins with
    | nil => exact Template.holdsData_nil
    | cons j joins ih => exact ih.text (joinText j)
  refine (Condition.answers_conjunction? h.conditions).bind fun wheres restricted => ?_
  refine (Condition.answers_conjunction? having).bind fun groups grouped => .ok ?_
  refine .append (.append (.append (joins.text _) ?_) (Template.holdsData_nil.text _)) ?_
  · exact holdsData_conditionClause _ restricted
  · exact holdsData_conditionClause _ grouped

theorem holdsData_tail (s : Select) : s.tail.HoldsData := by
  have counted (keyword : Str) (count : Option Int) :
      (countClause keyword count).HoldsData := by
    cases count with
    | none => exact Template.holdsData_nil
    | some n => simpa [Template.HoldsData, countClause, Template.values] using Value.IsJson.int n
  exact ((counted _ s.limit).text _).append (counted _ s.offset)

theorem HoldsData.answers_build (h : s.HoldsData) : s.build.Answers SqlQuery.HoldsData := by
  refine (answers_spellings h.fields 0).bind fun texts _ => ?_
  refine h.answers_body.bind fun body data => .ok (SqlQuery.holdsData_ofTemplate ?_)
  exact (data.append s.holdsData_tail).text _

theorem HoldsData.answers_buildCount (h : s.HoldsData) :
    s.buildCount.Answers SqlQuery.HoldsData :=
  h.answers_body.bind fun _ data => .ok (SqlQuery.holdsData_ofTemplate (data.text _))

end Select

/-! ## Insertions -/

namespace Insert

/-- An insertion of data. -/
def HoldsData (s : Insert) : Prop :=
  ∀ row ∈ s.rows, ∀ v ∈ row, v.IsData

/-- A row of data. -/
def IsRow (v : Value) : Prop :=
  ∃ row, v = .map row ∧ (Value.map row).IsData

theorem answers_rowsOf {data : Value} (isData : data.IsData)
    (shape : data.IsMapping ∨ data.IsListOf Value.IsMapping) :
    (rowsOf data).Answers fun rows => ∀ row ∈ rows, IsRow row := by
  rcases shape with ⟨row, rfl⟩ | ⟨xs, rfl, mappings⟩
  · exact .ok (by simpa [IsRow] using isData)
  · refine .ok fun v mem => ?_
    obtain ⟨row, rfl⟩ := mappings v mem
    exact ⟨row, rfl, isData.elements rfl _ mem⟩

theorem isData_of_mem_cells {row : Row} (data : (Value.map row).IsData) (columns : List Text) :
    ∀ v ∈ cells columns row, v.IsData := by
  intro v mem
  obtain ⟨column, _, rfl⟩ := List.mem_map.1 mem
  exact data.field column.spelling

theorem answers_laterRows (columns : List Text) {rows : List Value}
    (shapes : ∀ row ∈ rows, IsRow row) (index : Nat) :
    (laterRows columns index rows).Answers fun later => ∀ row ∈ later, ∀ v ∈ row, v.IsData := by
  induction rows generalizing index with
  | nil => exact .ok (by simp)
  | cons row rows ih =>
    obtain ⟨⟨entries, rfl, data⟩, others⟩ := List.forall_mem_cons.1 shapes
    change Answers _ (if hasColumns columns entries = true then _ else _)
    split
    · refine (ih others (index + 1)).bind fun later rest => .ok ?_
      exact List.forall_mem_cons.2 ⟨isData_of_mem_cells data columns, rest⟩
    · exact .refused rfl

theorem answers_make (table : Value) {data : Value} (isData : data.IsData)
    (shape : data.IsMapping ∨ data.IsListOf Value.IsMapping) :
    (make table data).Answers HoldsData := by
  refine (Name.answers_gate _ _ table).bind fun name _ => ?_
  refine (answers_rowsOf isData shape).bind fun rows shapes => ?_
  cases rows with
  | nil => exact .refused rfl
  | cons first rest =>
    obtain ⟨⟨entries, rfl, found⟩, others⟩ := List.forall_mem_cons.1 shapes
    refine (answers_mapM fun e _ => (Name.answers_gate _ _ e.1)).bind fun columns _ => ?_
    dsimp only
    split
    · exact .refused rfl
    · refine (answers_laterRows columns others 1).bind fun later rest => .ok ?_
      exact List.forall_mem_cons.2 ⟨isData_of_mem_cells found columns, rest⟩

theorem HoldsData.build {s : Insert} (h : s.HoldsData) : s.build.HoldsData := by
  intro v mem
  rw [params_build] at mem
  obtain ⟨row, inRows, inside⟩ := List.mem_flatten.1 mem
  exact h row inRows v inside

theorem Call.answers_effect {fields : Value} (shape : fields.IsString ∨ fields.IsList) :
    (Call.returning fields).effect.Answers fun _ => True :=
  Effect.answers_upToFaultOf
    ((Value.answers_asList shape).imp fun _ _ x _ => answers_returningItem x)

/-- An insertion that returns fields is built, or refused for one of the fields. -/
theorem HoldsData.answers_returning {s : Insert} (h : s.HoldsData) {fields : Value}
    (shape : fields.IsString ∨ fields.IsList) :
    Answers SqlQuery.HoldsData (match s.step (.returning fields) with
      | (_, some fault) => throw fault
      | (s, none) => return s.build) := by
  have effect := Call.answers_effect shape
  have built := HoldsData.build (s := (s.step (.returning fields)).1) h
  refine effect.settle (fun f cut => ?_) (fun whole => ?_) built
  · simp only [step, cut]
    rfl
  · simp only [step, whole]
    rfl

end Insert

/-! ## Updates and deletions -/

namespace Modify

/-- A change of rows by conditions on data, and to data. -/
structure HoldsData (s : Modify) : Prop where
  modification : ∀ assignments, s.modification = .update assignments →
    ∀ a ∈ assignments, a.2.IsData
  conditions : ∀ c ∈ s.conditions, c.HoldsData

theorem answers_makeUpdate (config : Config) (table : Value) {data : Value} (isData : data.IsData)
    (shape : IfGiven Value.IsMapping data) :
    (makeUpdate config table data).Answers HoldsData := by
  refine (Name.answers_gate _ _ table).bind fun name _ => ?_
  dsimp only
  split
  · exact .refused rfl
  · next given =>
    obtain ⟨entries, rfl⟩ := shape.shape (by simpa using given)
    cases isData with | map _ _ each =>
    have assigned : (entries.mapM assignment).Answers fun as => ∀ a ∈ as, a.2.IsData :=
      answers_mapM fun e mem => (Name.answers_gate _ _ e.1).bind fun _ _ => .ok (each e mem)
    refine assigned.bind fun assignments holds => .ok ⟨?_, by simp⟩
    intro others same
    cases same
    exact holds

theorem answers_makeDelete (config : Config) (table : Value) :
    (makeDelete config table).Answers HoldsData :=
  (Name.answers_gate _ _ table).bind fun _ _ => .ok ⟨by simp, by simp⟩

variable {s : Modify}

def Edit.HoldsData : Edit → Prop
  | condition c => c.HoldsData
  | returning _ => True

theorem HoldsData.apply (h : s.HoldsData) {e : Edit} (data : e.HoldsData) :
    (s.apply e).HoldsData := by
  cases e with
  | condition c =>
    have all : ∀ d ∈ s.conditions ++ [c], d.HoldsData := by
      simpa [or_imp, forall_and] using ⟨h.conditions, data⟩
    exact { h with conditions := all }
  | returning field => exact { h with }

theorem Call.answers_filters {entries : List (Value × Value)} (data : (Value.map entries).IsData) :
    (Call.restrict (.filters (.map entries))).effect.Answers Edit.HoldsData := by
  refine Effect.answers_ofResult ((Restriction.answers_filters data).map fun cs holds e mem => ?_)
  obtain ⟨c, inside, rfl⟩ := List.mem_map.1 mem
  exact holds c inside

theorem Call.answers_returning {fields : Value} (shape : fields.IsString ∨ fields.IsList) :
    (Call.returning fields).effect.Answers Edit.HoldsData := by
  refine Effect.answers_upToFaultOf ((Value.answers_asList shape).imp fun _ _ x _ => ?_)
  exact (answers_returningItem x).map fun _ _ => trivial

theorem answers_modifyCall {c : Call} (h : s.HoldsData)
    (effect : c.effect.Answers Edit.HoldsData) :
    (Relational.modifyCall s c).Answers HoldsData := by
  have kept := effect.foldl h fun _ kept _ data => kept.apply data
  refine effect.settle (fun f cut => ?_) (fun whole => ?_) kept
  · simp only [Relational.modifyCall, step, cut]
  · simp only [Relational.modifyCall, step, whole]

theorem HoldsData.answers_build (h : s.HoldsData) : s.build.Answers SqlQuery.HoldsData := by
  have head : s.head.HoldsData := by
    unfold head
    split
    · next assignments same =>
      refine (Template.holdsData_join _ fun t mem => ?_).text _
      obtain ⟨a, inside, rfl⟩ := List.mem_map.1 mem
      simpa [Template.HoldsData, assignmentTemplate, Template.values] using
        h.modification assignments same a inside
    · exact Template.holdsData_nil
  have template : s.template.Answers Template.HoldsData := by
    refine (Condition.answers_conjunction? h.conditions).bind fun wheres data => .ok ?_
    exact (head.append (holdsData_conditionClause _ data)).append (holdsData_returningClause _)
  exact template.bind fun t data => .ok (SqlQuery.holdsData_ofTemplate data)

end Modify

end BoundQuery
