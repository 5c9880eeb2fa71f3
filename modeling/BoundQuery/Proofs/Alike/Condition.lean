import BoundQuery.Condition.Render
import BoundQuery.Proofs.Alike.Template
import BoundQuery.Proofs.Condition.Reading
import BoundQuery.Statement.Restriction

/-!
# Conditions with other values

What is compared may be replaced by something of the same shape: null by null, a list that is tested
for membership by one of the same length, and anything else by anything but null. Conditions that
are asked for with such operands are accepted together, and their templates are alike.

## Main definitions

* `OperandsAlike` — what an operator compares with, and what may stand for it.
* `SpecsAlike`, `FiltersAlike` — filters with the same structure.
* `Restriction.Alike` — calls that restrict a statement by alike operands.

## Main statements

* `Restriction.agree_conditions` — alike calls give alike conditions, or both are turned down.
* `Condition.agree_conjunction?` — alike conditions are written with alike templates.
-/

namespace BoundQuery

/-! ## Operands -/

section
variable (R : Value → Value → Prop)

/-- What may stand for each other behind an operator: null for null only, a list of the same length
for one that is tested for membership, and any value but null for any other. Membership in what is
no list is turned down. -/
inductive OperandsAlike (op : Operator) : Value → Value → Prop
  | null : OperandsAlike op .null .null
  | members {v w : Value} {xs ys : List Value} (membership : op.isMembership = true)
      (left : v.listed? = some xs) (right : w.listed? = some ys) (each : List.Forall₂ R xs ys) :
      OperandsAlike op v w
  | noMembers {v w : Value} (membership : op.isMembership = true) (left : v.listed? = none)
      (right : w.listed? = none) : OperandsAlike op v w
  | single {v w : Value} (other : op.isMembership = false) (left : v.isNull = false)
      (right : w.isNull = false) (related : R v w) : OperandsAlike op v w

/-- Operands of what may be an operator; what is none is turned down. -/
def ComparedAlike (operator v w : Value) : Prop :=
  ∀ op, Operator.ofValue? operator = some op → OperandsAlike R op v w

/-- Lists of the same length, or what has no elements. -/
def ElementsAlike (v w : Value) : Prop :=
  Result.Agree (List.Forall₂ R) v.elements w.elements

/-- Values for the markers of a fragment, as many for the one as for the other. -/
def MarkedAlike (v w : Value) : Prop :=
  Result.Agree (List.Forall₂ R) v.elementsOrNone w.elementsOrNone

/-! ## Conditions -/

inductive Test.Alike : Test → Test → Prop
  | null (negated : Bool) : Alike (.null negated) (.null negated)
  | member (negated : Bool) {xs ys : List Value} (each : List.Forall₂ R xs ys) :
      Alike (.member negated xs) (.member negated ys)
  | compare (op : Operator) {v w : Value} (related : R v w) :
      Alike (.compare op v) (.compare op w)

structure FieldCondition.Alike (c c' : FieldCondition) : Prop where
  field : c.field = c'.field
  test : c.test.Alike R c'.test

inductive Condition.Alike : Condition → Condition → Prop
  | field {c c' : FieldCondition} (same : c.Alike R c') : Alike (.field c) (.field c')
  | raw (fragment : Text) {vs ws : List Value} (each : List.Forall₂ R vs ws) :
      Alike (.raw fragment vs) (.raw fragment ws)

/-! ## Filters -/

/-- Operands of one `$` key. That of `$null` is no value to be bound but says which test is
meant. -/
def NamedOperandsAlike (key : Text) (v w : Value) : Prop :=
  if key.spelling = "$null" then v.isTruthy = w.isTruthy
  else ∀ c, Comparator.ofKey? key.spelling = some c → OperandsAlike R c.operator v w

/-- Whether a field is asked to be equal to the value itself, as by a text or a number. -/
def Value.AsksEquality (spec : Value) : Prop :=
  Comparator.ofSpec spec = .ok [⟨.eq, spec⟩]

/-- What is asked of a field in the same way. -/
inductive SpecsAlike : Value → Value → Prop
  | null : SpecsAlike .null .null
  | comparator (c : Comparison) {v w : Value} (operands : OperandsAlike R c.operator v w) :
      SpecsAlike (.comparator c v) (.comparator c w)
  | list {v w : Value} {xs ys : List Value} (left : v.listed? = some xs)
      (right : w.listed? = some ys) (each : List.Forall₂ R xs ys) : SpecsAlike v w
  | named {es fs : List (Value × Value)} (nonempty : es ≠ [])
      (each : List.Forall₂ (fun e f => ∃ key : Text, e.1 = .text key ∧ f.1 = .text key ∧
        key.chars.head? = some (.scalar '$') ∧ NamedOperandsAlike R key e.2 f.2) es fs) :
      SpecsAlike (.map es) (.map fs)
  | equal {v w : Value} (left : v.AsksEquality) (right : w.AsksEquality) (related : R v w) :
      SpecsAlike v w

/-- Filters of the same fields, or no filters at all. -/
inductive FiltersAlike : Value → Value → Prop
  | mapping {es fs : List (Value × Value)} (each : List.Forall₂ (Keyed (SpecsAlike R)) es fs) :
      FiltersAlike (.map es) (.map fs)
  | other {v w : Value} (left : v.isMap = false) (right : w.isMap = false) : FiltersAlike v w

structure Comparator.Alike (c c' : Comparator) : Prop where
  comparison : c.comparison = c'.comparison
  operands : OperandsAlike R c.comparison.operator c.operand c'.operand

/-- The same call with operands that may stand for each other. -/
inductive Restriction.Alike : Restriction → Restriction → Prop
  | compare (field operator : Value) {v w : Value} (operands : ComparedAlike R operator v w) :
      Alike (.compare field operator v) (.compare field operator w)
  | equals (field : Value) {v w : Value} (operands : OperandsAlike R .eq v w) :
      Alike (.equals field v) (.equals field w)
  | notEquals (field : Value) {v w : Value} (operands : OperandsAlike R .ne v w) :
      Alike (.notEquals field v) (.notEquals field w)
  | member (field : Value) {v w : Value} (elements : ElementsAlike R v w) :
      Alike (.member field v) (.member field w)
  | notMember (field : Value) {v w : Value} (elements : ElementsAlike R v w) :
      Alike (.notMember field v) (.notMember field w)
  | like (field : Value) {v w : Value} (operands : OperandsAlike R .like v w) :
      Alike (.like field v) (.like field w)
  | ilike (field : Value) {v w : Value} (operands : OperandsAlike R .ilike v w) :
      Alike (.ilike field v) (.ilike field w)
  | null (field : Value) : Alike (.null field) (.null field)
  | notNull (field : Value) : Alike (.notNull field) (.notNull field)
  | raw (fragment : Value) {v w : Value} (values : MarkedAlike R v w) :
      Alike (.raw fragment v) (.raw fragment w)
  | filters {v w : Value} (filters : FiltersAlike R v w) : Alike (.filters v) (.filters w)

end

open Result (Agree)

variable {R : Value → Value → Prop}

/-! ## Making conditions -/

theorem Value.AsksEquality.isNull {v : Value} (h : v.AsksEquality) : v.isNull = false := by
  cases v <;> first | rfl | cases h

theorem Value.exists_entriesFor_of_not_isMap {v : Value} (h : v.isMap = false) (member : Str) :
    ∃ fault, v.entriesFor member = .error fault := by
  cases v <;> first | exact ⟨_, rfl⟩ | cases h

namespace Test

variable {v : Value}

theorem agree_ofNull (field : Text) (op : Operator) :
    Agree (Alike R) (ofNull field op) (ofNull field op) := by
  cases op with
  | eq | isNull | ne | isNotNull => exact .ok (.null _)
  | _ => exact .error _ _

theorem agree_ofGiven {op : Operator} (other : op.isMembership = false) (field : Text) {w : Value}
    (related : R v w) : Agree (Alike R) (ofGiven field op v) (ofGiven field op w) := by
  cases op with
  | oneOf | noneOf => cases other
  | isNull | isNotNull => exact .error _ _
  | _ => exact .ok (.compare _ related)

end Test

namespace FieldCondition

variable {v w : Value}

theorem agree_ofOperator {op : Operator} (h : OperandsAlike R op v w) (d : Dialect) (field : Text) :
    Agree (Alike R) (ofOperator d field op v) (ofOperator d field op w) := by
  cases h with
  | null =>
    unfold ofOperator
    split
    · exact .error _ _
    · exact (Test.agree_ofNull field op).map fun _ _ same => ⟨rfl, same⟩
  | members membership left right each =>
    unfold ofOperator
    split
    · exact .error _ _
    · obtain ⟨negated, listed⟩ := Test.exists_ofGiven_of_membership membership field
      rw [Value.isNull_of_listed? left, Value.isNull_of_listed? right, listed, listed,
        Test.ofList_of_listed? field op negated left, Test.ofList_of_listed? field op negated right]
      exact .ok ⟨rfl, .member negated each⟩
  | noMembers membership left right =>
    obtain ⟨fault, refused⟩ := exists_ofOperator_of_unlisted membership left d field
    obtain ⟨fault', refused'⟩ := exists_ofOperator_of_unlisted membership right d field
    rw [refused, refused']
    exact .error _ _
  | single other left right related =>
    unfold ofOperator
    split
    · exact .error _ _
    · rw [left, right]
      exact (Test.agree_ofGiven other field related).map fun _ _ same => ⟨rfl, same⟩

theorem agree_onField {operator : Value} (h : ComparedAlike R operator v w) (d : Dialect)
    (field : Text) : Agree (Alike R) (onField d field operator v) (onField d field operator w) := by
  unfold onField
  split
  · next op found => exact agree_ofOperator (h op found) d field
  · exact .error _ _

theorem agree_make {operator : Value} (h : ComparedAlike R operator v w) (d : Dialect)
    (field : Value) : Agree (Alike R) (make d field operator v) (make d field operator w) :=
  Result.agree_bind_same fun name => agree_onField h d name

theorem agree_makeAggregate {operator : Value} (h : ComparedAlike R operator v w) (d : Dialect)
    (field : Value) :
    Agree (Alike R) (makeAggregate d field operator v) (makeAggregate d field operator w) :=
  Result.agree_bind_same fun name => agree_onField h d name

end FieldCondition

/-- A member of the vocabulary of operators is parsed as itself. -/
theorem comparedAlike_toValue {op : Operator} {v w : Value} (h : OperandsAlike R op v w) :
    ComparedAlike R op.toValue v w := by
  rintro op' same
  cases same
  exact h

/-! ## Reading filters -/

namespace Comparator

theorem alike_membership {xs ys : List Value} (each : List.Forall₂ R xs ys) :
    Alike R ⟨.oneOf, .list xs⟩ ⟨.oneOf, .list ys⟩ :=
  ⟨rfl, .members rfl rfl rfl each⟩

theorem agree_ofEntry {key : Text} {v w : Value} (h : NamedOperandsAlike R key v w) :
    Agree (Alike R) (ofEntry key v) (ofEntry key w) := by
  unfold NamedOperandsAlike at h
  unfold ofEntry
  by_cases null : key.spelling = "$null"
  · rw [if_pos null] at h
    simp only [null, h, beq_self_eq_true, if_true]
    exact .ok ⟨rfl, .null⟩
  · rw [if_neg null] at h
    simp only [beq_iff_eq, null, if_false]
    cases asked : ofKey? key.spelling with
    | none => exact .error _ _
    | some comparison => exact .ok ⟨rfl, h comparison asked⟩

theorem exists_namedEntries {es fs : List (Value × Value)}
    (each : List.Forall₂ (fun e f => ∃ key : Text, e.1 = .text key ∧ f.1 = .text key ∧
      key.chars.head? = some (.scalar '$') ∧ NamedOperandsAlike R key e.2 f.2) es fs) :
    ∃ ns ms, namedEntries? es = some ns ∧ namedEntries? fs = some ms ∧
      List.Forall₂ (fun n m => n.1 = m.1 ∧ NamedOperandsAlike R n.1 n.2 m.2) ns ms := by
  induction each with
  | nil => exact ⟨[], [], rfl, rfl, .nil⟩
  | @cons e f es fs first _ ih =>
    obtain ⟨k, v⟩ := e
    obtain ⟨k', w⟩ := f
    obtain ⟨key, rfl, rfl, dollar, operands⟩ := first
    obtain ⟨ns, ms, left, right, rest⟩ := ih
    refine ⟨(key, v) :: ns, (key, w) :: ms, ?_, ?_, .cons ⟨rfl, operands⟩ rest⟩
    · simp [namedEntries?, dollar, left]
    · simp [namedEntries?, dollar, right]

theorem agree_ofSpec {v w : Value} (h : SpecsAlike R v w) :
    Agree (List.Forall₂ (Alike R)) (ofSpec v) (ofSpec w) := by
  cases h with
  | null => exact .ok (.cons ⟨rfl, .null⟩ .nil)
  | comparator c operands => exact .ok (.cons ⟨rfl, operands⟩ .nil)
  | list left right each =>
    rw [ofSpec_of_listed? left, ofSpec_of_listed? right]
    exact .ok (.cons (alike_membership each) .nil)
  | @named es fs nonempty each =>
    have nonempty' : fs ≠ [] := by
      rintro rfl
      exact nonempty (List.forall₂_nil_right_iff.1 each)
    obtain ⟨ns, ms, left, right, named⟩ := exists_namedEntries each
    rw [ofSpec_of_named nonempty left, ofSpec_of_named nonempty' right]
    refine Result.agree_mapM named ?_
    rintro ⟨key, v⟩ ⟨key', w⟩ ⟨same, operands⟩
    cases same
    exact agree_ofEntry operands
  | equal left right related =>
    rw [left, right]
    exact .ok (.cons ⟨rfl, .single rfl left.isNull right.isNull related⟩ .nil)

end Comparator

namespace Filter

theorem agree_ofEntries {es fs : List (Value × Value)}
    (each : List.Forall₂ (Keyed (SpecsAlike R)) es fs) :
    Agree (List.Forall₂ fun p q => p.1 = q.1 ∧ p.2.Alike R q.2) (ofEntries es) (ofEntries fs) := by
  induction each with
  | nil => exact .ok .nil
  | @cons e f es fs first _ ih =>
    obtain ⟨key, v⟩ := e
    obtain ⟨key', w⟩ := f
    obtain ⟨same, specs⟩ := first
    cases same
    refine (Comparator.agree_ofSpec specs).bind fun cs cs' here => ih.bind fun ps ps' rest => ?_
    refine .ok (List.rel_append ?_ rest)
    exact List.rel_map (fun _ _ same => ⟨rfl, same⟩) here

theorem agree_condition (d : Dialect) {p q : Value × Comparator}
    (h : p.1 = q.1 ∧ p.2.Alike R q.2) :
    Agree (FieldCondition.Alike R) (condition d p) (condition d q) := by
  obtain ⟨field, c⟩ := p
  obtain ⟨field', c'⟩ := q
  obtain ⟨same, comparison, operands⟩ := h
  cases same
  unfold condition
  rw [← comparison]
  exact FieldCondition.agree_make (comparedAlike_toValue operands) d field

theorem agree_conditionsOfEntries (d : Dialect) {es fs : List (Value × Value)}
    (each : List.Forall₂ (Keyed (SpecsAlike R)) es fs) :
    Agree (List.Forall₂ (FieldCondition.Alike R)) (conditionsOfEntries d es)
      (conditionsOfEntries d fs) :=
  (agree_ofEntries each).bind fun _ _ pairs =>
    Result.agree_mapM pairs fun _ _ same => agree_condition d same

theorem agree_items {v w : Value} (h : FiltersAlike R v w) :
    Agree (List.Forall₂ (Keyed (SpecsAlike R))) v.items w.items := by
  cases h with
  | mapping each => exact .ok each
  | other left right =>
    obtain ⟨fault, refused⟩ := Value.exists_entriesFor_of_not_isMap left "items"
    obtain ⟨fault', refused'⟩ := Value.exists_entriesFor_of_not_isMap right "items"
    rw [Value.items, Value.items, refused, refused']
    exact .error _ _

end Filter

/-! ## Restricting calls -/

namespace Restriction

theorem agree_comparison (d : Dialect) (field : Value) {operator v w : Value}
    (h : ComparedAlike R operator v w) :
    Agree (List.Forall₂ (Condition.Alike R)) (comparison d field operator v)
      (comparison d field operator w) :=
  (FieldCondition.agree_make h d field).bind fun _ _ same => .ok (.cons (.field same) .nil)

theorem agree_membership (d : Dialect) (field : Value) {op : Operator}
    (membership : op.isMembership = true) {v w : Value} (h : ElementsAlike R v w) :
    Agree (List.Forall₂ (Condition.Alike R))
      (v.elements >>= fun xs => comparison d field op.toValue (.list xs))
      (w.elements >>= fun xs => comparison d field op.toValue (.list xs)) :=
  Agree.bind h fun _ _ each =>
    agree_comparison d field (comparedAlike_toValue (.members membership rfl rfl each))

theorem agree_makeRaw (fragment : Value) {v w : Value} (h : MarkedAlike R v w) :
    Agree (Condition.Alike R) (Condition.makeRaw fragment v) (Condition.makeRaw fragment w) := by
  unfold Condition.makeRaw
  split
  · split
    · exact .error _ _
    · exact Agree.map h fun _ _ each => .raw _ each
  · exact .error _ _

theorem agree_conditions {r r' : Restriction} (h : r.Alike R r') (d : Dialect) :
    Agree (List.Forall₂ (Condition.Alike R)) (r.conditions d) (r'.conditions d) := by
  cases h with
  | compare field operator operands => exact agree_comparison d field operands
  | equals field operands | notEquals field operands | like field operands
  | ilike field operands => exact agree_comparison d field (comparedAlike_toValue operands)
  | member field elements | notMember field elements => exact agree_membership d field rfl elements
  | null field | notNull field => exact agree_comparison d field (comparedAlike_toValue .null)
  | raw fragment values =>
    exact (agree_makeRaw fragment values).bind fun _ _ same => .ok (.cons same .nil)
  | filters filters =>
    refine Agree.bind (S := List.Forall₂ (FieldCondition.Alike R)) ?_ fun cs cs' each => .ok ?_
    · exact (Filter.agree_items filters).bind fun _ _ entries =>
        Filter.agree_conditionsOfEntries d entries
    · exact List.rel_map (fun _ _ same => .field same) each

end Restriction

/-! ## Writing conditions -/

theorem FieldCondition.alike_template? {c c' : FieldCondition} (h : c.Alike R c') (d : Dialect) :
    Option.Rel (Template.Alike R) (c.template? d) (c'.template? d) := by
  obtain ⟨field, test⟩ := c
  obtain ⟨field', test'⟩ := c'
  obtain ⟨same, tests⟩ := h
  cases same
  cases tests with
  | null negated => exact .some (Template.alike_text _ .nil)
  | @member negated xs ys each =>
    cases each with
    | nil => exact .none
    | @cons x y xs ys first rest =>
      have slots := Template.alike_slots ", " (List.Forall₂.cons first rest)
      have closed (close : Str) := List.rel_append slots (Template.alike_text close .nil)
      cases d with
      | relational => exact .some (Template.alike_text _ (closed ")"))
      | graph => exact .some (Template.alike_text _ (closed "]"))
  | compare op related => exact .some (Template.alike_text _ (.cons (.slot related) .nil))

namespace Condition

theorem agree_template? {c c' : Condition} (h : c.Alike R c') (d : Dialect) (marker : List Chr) :
    Agree (Option.Rel (Template.Alike R)) (c.template? d marker) (c'.template? d marker) := by
  cases h with
  | field same => exact .ok (FieldCondition.alike_template? same d)
  | raw fragment each => exact (Marker.agree_template marker fragment each).map fun _ _ => .some

theorem forall₂_filterMap_id {α : Type} {S : α → α → Prop} {xs ys : List (Option α)}
    (h : List.Forall₂ (Option.Rel S) xs ys) :
    List.Forall₂ S (xs.filterMap id) (ys.filterMap id) := by
  induction h with
  | nil => exact .nil
  | cons first _ ih =>
    cases first with
    | none => exact ih
    | some related => exact .cons related ih

theorem agree_conjunction? {cs cs' : List Condition} (h : List.Forall₂ (Alike R) cs cs')
    (d : Dialect) (marker : List Chr) :
    Agree (Option.Rel (Template.Alike R)) (conjunction? d marker cs)
      (conjunction? d marker cs') := by
  have each := Result.agree_mapM h fun _ _ same => agree_template? same d marker
  have templates := each.bind (T := List.Forall₂ (Template.Alike R)) fun _ _ found =>
    .ok (forall₂_filterMap_id found)
  refine templates.bind fun ts ts' alike => .ok ?_
  cases alike with
  | nil => exact .none
  | cons first rest => exact .some (Template.alike_join conjunction (.cons first rest))

end Condition
end BoundQuery
