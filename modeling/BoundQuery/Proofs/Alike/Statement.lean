import BoundQuery.Proofs.Alike.Condition
import BoundQuery.Proofs.Call
import BoundQuery.Proofs.Statement.Cells
import BoundQuery.Proofs.Statement.Reordering
import BoundQuery.Statement.Insert
import BoundQuery.Statement.Modify

/-!
# Statements with other values

Two runs of the same calls with values of the same shape lead to statements that have collected the
same clauses, with related values in them. What they are built into has the same text, and
parameters that are related one by one.

## Main definitions

* `Select.Call.Alike`, `Modify.Call.Alike` — the same call with values of the same shape.
* `RowsAlike`, `MappingsAlike` — the data of an insertion or an update, with other values.

## Main statements

* `Select.related_runs`, `Modify.related_runs`, `Insert.related_runs` — alike calls on alike
  statements.
* `Select.Alike.agree_build`, `Modify.Alike.agree_build`, `Insert.Alike.build` — what alike
  statements are built into.
-/

namespace BoundQuery

open Result (Agree)

/-! ## Shapes of arguments -/

/-- Whether a value is a whole number that is not negative. -/
def Value.isCount : Value → Bool
  | .int i => 0 ≤ i
  | _ => false

section
variable (R : Value → Value → Prop)

/-- Counts that are related, or what are no counts. -/
inductive CountsAlike : Value → Value → Prop
  | count {i j : Int} (left : 0 ≤ i) (right : 0 ≤ j) (related : R (.int i) (.int j)) :
      CountsAlike (.int i) (.int j)
  | other {v w : Value} (left : v.isCount = false) (right : w.isCount = false) : CountsAlike v w

/-- Mappings with the same keys in the same order and related values, or no mappings at all. -/
inductive MappingsAlike : Value → Value → Prop
  | mapping {es fs : List (Value × Value)} (each : List.Forall₂ (Keyed R) es fs) :
      MappingsAlike (.map es) (.map fs)
  | other {v w : Value} (left : v.isMap = false) (right : w.isMap = false) : MappingsAlike v w

/-- One row, or as many rows as on the other side, with the same columns. -/
inductive RowsAlike : Value → Value → Prop
  | row {es fs : List (Value × Value)} (each : List.Forall₂ (Keyed R) es fs) :
      RowsAlike (.map es) (.map fs)
  | rows {v w : Value} (left : v.isMap = false) (right : w.isMap = false)
      (each : Agree (List.Forall₂ (MappingsAlike R)) v.elements w.elements) : RowsAlike v w

def IntRelated (i j : Int) : Prop :=
  R (.int i) (.int j)

end

variable {R : Value → Value → Prop}

theorem exists_checkCount_of_not_isCount (what : Str) {v : Value} (h : v.isCount = false) :
    ∃ fault, checkCount what v = .error fault := by
  cases v with
  | int i => exact ⟨_, if_pos (by simpa [Value.isCount] using h)⟩
  | _ => exact ⟨_, rfl⟩

theorem CountsAlike.agree_checkCount (what : Str) {v w : Value} (h : CountsAlike R v w) :
    Agree (IntRelated R) (checkCount what v) (checkCount what w) := by
  cases h with
  | count left right related =>
    rw [Select.checkCount_int what left, Select.checkCount_int what right]
    exact .ok related
  | other left right =>
    obtain ⟨fault, refused⟩ := exists_checkCount_of_not_isCount what left
    obtain ⟨fault', refused'⟩ := exists_checkCount_of_not_isCount what right
    rw [refused, refused']
    exact .error _ _

theorem MappingsAlike.agree_entriesFor (member : Str) {v w : Value} (h : MappingsAlike R v w) :
    Agree (List.Forall₂ (Keyed R)) (v.entriesFor member) (w.entriesFor member) := by
  cases h with
  | mapping each => exact .ok each
  | other left right =>
    obtain ⟨fault, refused⟩ := Value.exists_entriesFor_of_not_isMap left member
    obtain ⟨fault', refused'⟩ := Value.exists_entriesFor_of_not_isMap right member
    rw [refused, refused']
    exact .error _ _

/-! ## Clauses -/

theorem alike_conditionClause (keyword : Str) {t t' : Option Template}
    (h : Option.Rel (Template.Alike R) t t') :
    Template.Alike R (conditionClause keyword t) (conditionClause keyword t') := by
  cases h with
  | none => exact .nil
  | some same => exact Template.alike_text keyword same

theorem Template.alike_texts (texts : List Str) :
    Template.Alike R (texts.map .text) (texts.map .text) :=
  List.forall₂_same.2 (List.forall_mem_map.2 fun text _ => .text text)

theorem alike_returningClause (items : List Text) :
    Template.Alike R (returningClause items) (returningClause items) := by
  cases items with
  | nil => exact .nil
  | cons item items => exact Template.alike_text _ .nil

/-! ## Selections -/

section
variable (R)

/-- The same clauses with related values. -/
structure Select.Alike (s t : Select) : Prop where
  config : s.config = t.config
  table : s.table = t.table
  fields : s.fields = t.fields
  conditions : List.Forall₂ (Condition.Alike R) s.conditions t.conditions
  joins : s.joins = t.joins
  groups : s.groups = t.groups
  having : List.Forall₂ (FieldCondition.Alike R) s.having t.having
  sorts : s.sorts = t.sorts
  limit : Option.Rel (IntRelated R) s.limit t.limit
  offset : Option.Rel (IntRelated R) s.offset t.offset

inductive Select.Edit.Alike : Select.Edit → Select.Edit → Prop
  | condition {c c' : Condition} (same : c.Alike R c') : Alike (.condition c) (.condition c')
  | join (j : Join) : Alike (.join j) (.join j)
  | group (field : Text) : Alike (.group field) (.group field)
  | having {c c' : FieldCondition} (same : c.Alike R c') : Alike (.having c) (.having c')
  | sort (k : SortKey) : Alike (.sort k) (.sort k)
  | limit {i j : Int} (related : IntRelated R i j) : Alike (.limit i) (.limit j)
  | offset {i j : Int} (related : IntRelated R i j) : Alike (.offset i) (.offset j)

/-- The same call with values of the same shape. A page may be replaced by one with a related limit
and a related offset. -/
inductive Select.Call.Alike (config : Config) : Select.Call → Select.Call → Prop
  | restrict {r r' : Restriction} (same : r.Alike R r') : Alike config (.restrict r) (.restrict r')
  | join (table type condition : Value) :
      Alike config (.join table type condition) (.join table type condition)
  | groupBy (fields : Value) : Alike config (.groupBy fields) (.groupBy fields)
  | having (expression operator : Value) {v w : Value} (operands : ComparedAlike R operator v w) :
      Alike config (.having expression operator v) (.having expression operator w)
  | orderBy (field direction : Value) :
      Alike config (.orderBy field direction) (.orderBy field direction)
  | limit {v w : Value} (counts : CountsAlike R v w) : Alike config (.limit v) (.limit w)
  | offset {v w : Value} (counts : CountsAlike R v w) : Alike config (.offset v) (.offset w)
  | paginate {page page' size size' : Value}
      (windows : Agree (fun x y => IntRelated R x.1 y.1 ∧ IntRelated R x.2 y.2)
        (Select.window config page size) (Select.window config page' size')) :
      Alike config (.paginate page size) (.paginate page' size')

end

namespace Select

variable {s t : Select}

theorem Alike.apply (h : s.Alike R t) {e e' : Edit} (edits : e.Alike R e') :
    (s.apply e).Alike R (t.apply e') := by
  cases edits with
  | condition same =>
    exact { h with conditions := List.rel_append h.conditions (.cons same .nil) }
  | join j => exact { h with joins := congrArg (· ++ [j]) h.joins }
  | group field => exact { h with groups := congrArg (· ++ [field]) h.groups }
  | having same => exact { h with having := List.rel_append h.having (.cons same .nil) }
  | sort k => exact { h with sorts := congrArg (· ++ [k]) h.sorts }
  | limit related => exact { h with limit := .some related }
  | offset related => exact { h with offset := .some related }

theorem Call.Alike.effect {config : Config} {c c' : Call} (h : c.Alike R config c') :
    (c.effect config).Alike (Edit.Alike R) (c'.effect config) := by
  cases h with
  | restrict same =>
    refine Effect.alike_ofResult ((Restriction.agree_conditions same .relational).map ?_)
    exact fun _ _ each => List.rel_map (fun _ _ same => .condition same) each
  | join table type condition =>
    refine Effect.alike_self _ (Effect.forall_edits_ofSingle fun e made => ?_)
    obtain ⟨j, _, rfl⟩ := Result.map_eq_ok.1 made
    exact .join j
  | groupBy fields =>
    refine Effect.alike_self _ (Effect.forall_edits_upToFaultOf (fun x e made => ?_) fields.asList)
    obtain ⟨field, _, rfl⟩ := Result.map_eq_ok.1 made
    exact .group field
  | having expression operator operands =>
    have agree := FieldCondition.agree_makeAggregate operands .relational expression
    exact Effect.alike_ofSingle (agree.map fun _ _ same => .having same)
  | orderBy field direction =>
    refine Effect.alike_self _ (Effect.forall_edits_ofSingle fun e made => ?_)
    obtain ⟨k, _, rfl⟩ := Result.map_eq_ok.1 made
    exact .sort k
  | limit counts =>
    exact Effect.alike_ofSingle ((counts.agree_checkCount "limit").map fun _ _ same => .limit same)
  | offset counts =>
    exact Effect.alike_ofSingle
      ((counts.agree_checkCount "offset").map fun _ _ same => .offset same)
  | paginate windows =>
    rw [effect_paginate, effect_paginate]
    refine Effect.alike_ofResult (windows.map fun x y same => ?_)
    exact .cons (.limit same.1) (.cons (.offset same.2) .nil)

/-- Alike calls on alike selections lead to alike selections, and are turned down together. -/
theorem related_runs {calls calls' : List Call} (h : s.Alike R t)
    (same : List.Forall₂ (Call.Alike R s.config) calls calls') :
    (Run.after step s calls).Alike R (Run.after step t calls') ∧
      Run.verdicts step s calls = Run.verdicts step t calls' := by
  have each : ∀ (u v : Select) c c', u.Alike R v ∧ u.config = s.config →
      Call.Alike R s.config c c' →
        ((u.step c).1.Alike R (v.step c').1 ∧ (u.step c).1.config = s.config) ∧
          (u.step c).2.isSome = (v.step c').2.isSome := by
    rintro u v c c' ⟨alike, fixed⟩ call
    have effects := call.effect
    rw [← fixed] at effects
    have next : ((u.step c).1).Alike R (v.step c').1 := by
      rw [step, step, ← alike.config]
      exact List.rel_foldl (fun _ _ same _ _ edit => same.apply edit) alike effects.edits
    refine ⟨⟨next, (config_foldl_apply _ u).trans fixed⟩, ?_⟩
    rw [step, step, ← alike.config]
    exact effects.fault
  obtain ⟨⟨alike, _⟩, verdicts⟩ := Run.related each same ⟨h, rfl⟩
  exact ⟨alike, verdicts⟩

theorem alike_countClause (keyword : Str) {i j : Option Int}
    (h : Option.Rel (IntRelated R) i j) :
    Template.Alike R (countClause keyword i) (countClause keyword j) := by
  cases h with
  | none => exact .nil
  | some related => exact Template.alike_text keyword (.cons (.slot related) .nil)

theorem Alike.agree_body (h : s.Alike R t) : Agree (Template.Alike R) s.body t.body := by
  unfold body
  rw [h.config, h.table, h.joins, h.groups]
  have having : List.Forall₂ (Condition.Alike R) (s.having.map .field) (t.having.map .field) :=
    List.rel_map (fun _ _ same => .field same) h.having
  refine (Condition.agree_conjunction? h.conditions .relational _).bind fun c c' restricted => ?_
  refine (Condition.agree_conjunction? having .relational _).bind fun g g' grouped => .ok ?_
  have joined := Template.alike_texts (R := R) (t.joins.map joinText)
  rw [List.map_map] at joined
  have source := Template.alike_text (" FROM " ++ t.table.shown) joined
  have clauses := List.rel_append source (alike_conditionClause " WHERE " restricted)
  have groups := List.rel_append clauses (Template.alike_text (groupText t.groups) .nil)
  exact List.rel_append groups (alike_conditionClause " HAVING " grouped)

theorem Alike.tail (h : s.Alike R t) : Template.Alike R s.tail t.tail := by
  unfold Select.tail
  rw [h.sorts]
  have limit := Template.alike_text (sortText t.sorts) (alike_countClause " LIMIT " h.limit)
  exact List.rel_append limit (alike_countClause " OFFSET " h.offset)

theorem Alike.agree_build (h : s.Alike R t) : Agree (SqlQuery.Alike R) s.build t.build := by
  unfold build
  rw [h.fields]
  refine Result.agree_bind_same fun fields => h.agree_body.bind fun body body' same => .ok ?_
  exact SqlQuery.alike_ofTemplate (Template.alike_text _ (List.rel_append same h.tail))

theorem Alike.agree_buildCount (h : s.Alike R t) :
    Agree (SqlQuery.Alike R) s.buildCount t.buildCount :=
  h.agree_body.bind fun _ _ same => .ok (SqlQuery.alike_ofTemplate (Template.alike_text _ same))

theorem exists_of_make {config : Config} {table fields : Value}
    (h : make config table fields = .ok s) :
    ∃ name listed, s = { config, table := name, fields := listed } := by
  obtain ⟨name, _, h⟩ := Result.bind_eq_ok.1 h
  dsimp only at h
  split at h <;>
  · obtain ⟨listed, _, same⟩ := Result.bind_eq_ok.1 h
    cases same
    exact ⟨name, listed, rfl⟩

/-- A selection that was just made holds no values. -/
theorem alike_of_make {config : Config} {table fields : Value}
    (h : make config table fields = .ok s) : s.Alike R s := by
  obtain ⟨name, listed, rfl⟩ := exists_of_make h
  exact ⟨rfl, rfl, rfl, .nil, rfl, rfl, .nil, rfl, .none, .none⟩

end Select

/-! ## Insertions -/

/-- The same columns with related cells. -/
structure Insert.Alike (R : Value → Value → Prop) (s t : Insert) : Prop where
  table : s.table = t.table
  columns : s.columns = t.columns
  rows : List.Forall₂ (List.Forall₂ R) s.rows t.rows
  returning : s.returning = t.returning

namespace Insert

variable {s t : Insert} {es fs : List (Value × Value)}

theorem rel_field? (key : Str) (each : List.Forall₂ (Keyed R) es fs) :
    Option.Rel R (Value.field? es key) (Value.field? fs key) := by
  induction each with
  | nil => exact .none
  | @cons e f es fs first _ ih =>
    obtain ⟨k, v⟩ := e
    obtain ⟨k', w⟩ := f
    obtain ⟨same, related⟩ := first
    cases same
    unfold Value.field? at ih ⊢
    cases found : k.isText key with
    | true => simpa [List.find?_cons, found] using Option.Rel.some related
    | false => simpa [List.find?_cons, found] using ih

theorem isSome_eq_of_rel {x y : Option Value} (h : Option.Rel R x y) : x.isSome = y.isSome := by
  cases h <;> rfl

theorem getD_of_rel {x y : Option Value} (h : Option.Rel R x y) (found : x.isSome = true)
    (v w : Value) : R (x.getD v) (y.getD w) := by
  cases h with
  | none => cases found
  | some related => exact related

theorem hasColumns_eq (columns : List Text) (each : List.Forall₂ (Keyed R) es fs) :
    hasColumns columns es = hasColumns columns fs := by
  have same : (fun column : Text => (Value.field? es column.spelling).isSome) =
      fun column => (Value.field? fs column.spelling).isSome :=
    funext fun column => isSome_eq_of_rel (rel_field? column.spelling each)
  rw [hasColumns, hasColumns, each.length_eq, same]

theorem forall₂_cells {columns : List Text} (each : List.Forall₂ (Keyed R) es fs)
    (found : ∀ column ∈ columns, (Value.field? es column.spelling).isSome = true) :
    List.Forall₂ R (cells columns es) (cells columns fs) := by
  rw [cells, cells, List.forall₂_map_left_iff, List.forall₂_map_right_iff]
  exact List.forall₂_same.2 fun column mem =>
    getD_of_rel (rel_field? column.spelling each) (found column mem) .null .null

theorem agree_columns (each : List.Forall₂ (Keyed R) es fs) :
    Agree Eq (es.mapM fun e => Name.plain "column name" e.1)
      (fs.mapM fun e => Name.plain "column name" e.1) := by
  have gate : ∀ e f, Keyed R e f →
      Agree Eq (Name.plain "column name" e.1) (Name.plain "column name" f.1) :=
    fun e f keyed => keyed.key ▸ Result.agree_eq _
  have gates := Result.agree_mapM each gate
  rwa [List.forall₂_eq_eq_eq] at gates

theorem agree_laterRows (columns : List Text) {rows rows' : List Value}
    (h : List.Forall₂ (MappingsAlike R) rows rows') (index : Nat) :
    Agree (List.Forall₂ (List.Forall₂ R)) (laterRows columns index rows)
      (laterRows columns index rows') := by
  induction h generalizing index with
  | nil => exact .ok .nil
  | cons first _ ih =>
    refine (first.agree_entriesFor "keys").bind fun es fs each => ?_
    rw [← hasColumns_eq columns each]
    split
    · next columned =>
      refine (ih (index + 1)).bind fun rest rest' later => .ok (.cons ?_ later)
      exact forall₂_cells each (found_of_hasColumns columned)
    · exact .error _ _

theorem agree_rowsOf {v w : Value} (h : RowsAlike R v w) :
    Agree (List.Forall₂ (MappingsAlike R)) (rowsOf v) (rowsOf w) := by
  cases h with
  | row each => exact .ok (.cons (.mapping each) .nil)
  | rows left right each =>
    have listed {u : Value} (h : u.isMap = false) : rowsOf u = u.elements := by
      cases u <;> first | rfl | cases h
    rw [listed left, listed right]
    exact each

theorem agree_make (table : Value) {v w : Value} (h : RowsAlike R v w) :
    Agree (Alike R) (make table v) (make table w) := by
  refine Result.agree_bind_same fun name => (agree_rowsOf h).bind fun rows rows' each => ?_
  cases each with
  | nil => exact .error _ _
  | cons first rest =>
    refine (first.agree_entriesFor "keys").bind fun es fs entries => ?_
    refine (agree_columns entries).answered.bind fun columns columns' named => ?_
    obtain ⟨read, rfl⟩ := named
    dsimp only
    split
    · exact .error _ _
    · refine (agree_laterRows columns rest 1).bind fun later later' rows => .ok ?_
      exact ⟨rfl, rfl, .cons (forall₂_cells entries (found_of_columns read)) rows, rfl⟩

/-- The same calls on alike insertions lead to alike insertions, and are turned down together. -/
theorem related_runs (calls : List Call) (h : s.Alike R t) :
    (Run.after step s calls).Alike R (Run.after step t calls) ∧
      Run.verdicts step s calls = Run.verdicts step t calls := by
  refine Run.related (C := Eq) ?_ (List.forall₂_same.2 fun _ _ => rfl) h
  rintro u v c _ alike rfl
  exact ⟨{ alike with returning := congrArg (· ++ c.effect.edits) alike.returning }, rfl⟩

theorem alike_rowTemplate {row row' : List Value} (h : List.Forall₂ R row row') :
    Template.Alike R (rowTemplate row) (rowTemplate row') := by
  have slots := Template.alike_slots ", " h
  exact Template.alike_text "(" (List.rel_append slots (Template.alike_text ")" .nil))

theorem Alike.build (h : s.Alike R t) : SqlQuery.Alike R s.build t.build := by
  refine SqlQuery.alike_ofTemplate ?_
  unfold template
  rw [h.table, h.columns, h.returning]
  have rows : List.Forall₂ (Template.Alike R) (s.rows.map rowTemplate) (t.rows.map rowTemplate) :=
    List.rel_map (fun _ _ row => alike_rowTemplate row) h.rows
  exact List.rel_append (Template.alike_text _ (Template.alike_join ", " rows))
    (alike_returningClause t.returning)

end Insert

/-! ## Updates and deletions -/

section
variable (R)

inductive Modification.Alike : Modification → Modification → Prop
  | update {es fs : List (Text × Value)} (each : List.Forall₂ (Keyed R) es fs) :
      Alike (.update es) (.update fs)
  | delete : Alike .delete .delete

structure Modify.Alike (s t : Modify) : Prop where
  config : s.config = t.config
  table : s.table = t.table
  modification : s.modification.Alike R t.modification
  conditions : List.Forall₂ (Condition.Alike R) s.conditions t.conditions
  returning : s.returning = t.returning

inductive Modify.Edit.Alike : Modify.Edit → Modify.Edit → Prop
  | condition {c c' : Condition} (same : c.Alike R c') : Alike (.condition c) (.condition c')
  | returning (field : Text) : Alike (.returning field) (.returning field)

/-- The same call with values of the same shape. -/
inductive Modify.Call.Alike : Modify.Call → Modify.Call → Prop
  | restrict {r r' : Restriction} (same : r.Alike R r') : Alike (.restrict r) (.restrict r')
  | returning (fields : Value) : Alike (.returning fields) (.returning fields)

end

namespace Modify

variable {s t : Modify}

theorem Alike.apply (h : s.Alike R t) {e e' : Edit} (edits : e.Alike R e') :
    (s.apply e).Alike R (t.apply e') := by
  cases edits with
  | condition same =>
    exact { h with conditions := List.rel_append h.conditions (.cons same .nil) }
  | returning field => exact { h with returning := congrArg (· ++ [field]) h.returning }

theorem Call.Alike.effect {c c' : Call} (h : c.Alike R c') :
    c.effect.Alike (Edit.Alike R) c'.effect := by
  cases h with
  | restrict same =>
    refine Effect.alike_ofResult ((Restriction.agree_conditions same .relational).map ?_)
    exact fun _ _ each => List.rel_map (fun _ _ same => .condition same) each
  | returning fields =>
    refine Effect.alike_self _ (Effect.forall_edits_upToFaultOf (fun x e made => ?_) fields.asList)
    obtain ⟨field, _, rfl⟩ := Result.map_eq_ok.1 made
    exact .returning field

/-- Alike calls on alike statements lead to alike statements, and are turned down together. -/
theorem related_runs {calls calls' : List Call} (h : s.Alike R t)
    (same : List.Forall₂ (Call.Alike R) calls calls') :
    (Run.after step s calls).Alike R (Run.after step t calls') ∧
      Run.verdicts step s calls = Run.verdicts step t calls' := by
  refine Run.related (fun u v c c' alike call => ⟨?_, call.effect.fault⟩) same h
  exact List.rel_foldl (fun _ _ same _ _ edit => same.apply edit) alike call.effect.edits

theorem alike_head (h : s.Alike R t) : Template.Alike R s.head t.head := by
  have modification := h.modification
  unfold head
  rw [h.table]
  generalize s.modification = m at modification ⊢
  generalize t.modification = m' at modification ⊢
  cases modification with
  | @update es fs each =>
    have assignments : List.Forall₂ (Template.Alike R) (es.map assignmentTemplate)
        (fs.map assignmentTemplate) := by
      refine List.rel_map (fun e f keyed => ?_) each
      rw [assignmentTemplate, assignmentTemplate, keyed.key]
      exact Template.alike_text _ (.cons (.slot keyed.value) .nil)
    exact Template.alike_text _ (Template.alike_join ", " assignments)
  | delete => exact Template.alike_text _ .nil

theorem Alike.agree_build (h : s.Alike R t) : Agree (SqlQuery.Alike R) s.build t.build := by
  have template : Agree (Template.Alike R) s.template t.template := by
    unfold Modify.template
    rw [h.config, h.returning]
    refine (Condition.agree_conjunction? h.conditions .relational _).bind fun c c' same => .ok ?_
    have body := List.rel_append (alike_head h) (alike_conditionClause " WHERE " same)
    exact List.rel_append body (alike_returningClause t.returning)
  exact template.bind fun _ _ same => .ok (SqlQuery.alike_ofTemplate same)

theorem agree_assignment {e f : Value × Value} (h : Keyed R e f) :
    Agree (Keyed R) (assignment e) (assignment f) := by
  unfold assignment
  rw [h.key]
  exact Result.agree_bind_same fun column => .ok ⟨rfl, h.value⟩

theorem agree_makeUpdate (config : Config) (table : Value) {v w : Value} (h : MappingsAlike R v w) :
    Agree (Alike R) (makeUpdate config table v) (makeUpdate config table w) := by
  refine Result.agree_bind_same fun name => ?_
  dsimp only
  cases h with
  | @mapping es fs each =>
    have given : (Value.map es).isTruthy = (Value.map fs).isTruthy := by cases each <;> rfl
    rw [given]
    split
    · exact .error _ _
    · refine Agree.bind (S := List.Forall₂ (Keyed R)) (.ok each) fun es fs entries => ?_
      refine (Result.agree_mapM entries fun e f keyed => agree_assignment keyed).bind ?_
      exact fun as bs assignments => .ok ⟨rfl, rfl, .update assignments, .nil, rfl⟩
  | other left right =>
    obtain ⟨fault, refused⟩ := Value.exists_entriesFor_of_not_isMap left "items"
    obtain ⟨fault', refused'⟩ := Value.exists_entriesFor_of_not_isMap right "items"
    rw [Value.items, Value.items, refused, refused']
    split <;> split <;> exact .error _ _

theorem agree_makeDelete (config : Config) (table : Value) :
    Agree (Alike R) (makeDelete config table) (makeDelete config table) :=
  Result.agree_bind_same fun _ => .ok ⟨rfl, rfl, .delete, .nil, rfl⟩

end Modify
end BoundQuery
