import BoundQuery.Condition.Filter
import BoundQuery.Proofs.Condition.Clean

/-!
# Values of conditions

What a comparison binds is told by its operator and its operand: nothing for null, each element for
membership in a list, and the operand itself otherwise. A condition that is made of them binds just
these values, in this order.

## Main definitions

* `Operator.bound` — the values that a comparison binds.
* `Filter.bound` — the values that a whole filter binds.

## Main statements

* `FieldCondition.values_of_make`, `Filter.values_of_conditionsOfEntries` — the conditions that are
  made bind these values.
-/

namespace BoundQuery

/-- The values that a comparison binds, from what is compared. -/
def Operator.bound (op : Operator) (operand : Value) : List Value :=
  if operand.isNull then []
  else match op with
    | .oneOf | .noneOf => operand.elements.toOption.getD []
    | _ => [operand]

/-- The values that a filter binds, field by field and comparison by comparison. -/
def Filter.bound (entries : List (Value × Value)) : List Value :=
  entries.flatMap fun entry =>
    ((Comparator.ofSpec entry.2).toOption.getD []).flatMap fun c =>
      c.comparison.operator.bound c.operand

def Test.values : Test → List Value
  | null _ => []
  | member _ values => values
  | compare _ operand => [operand]

namespace FieldCondition

theorem values_memberTemplate (d : Dialect) (field : Text) (negated : Bool) (values : List Value) :
    (memberTemplate d field negated values).values = values := by
  cases d <;> simp [memberTemplate, Template.values, Template.values_slots]

theorem values_template? (d : Dialect) (c : FieldCondition) :
    ((c.template? d).map Template.values).getD [] = c.test.values := by
  rcases c with ⟨field, test⟩
  cases test with
  | null negated => rfl
  | member negated values =>
    cases values with
    | nil => rfl
    | cons v vs => simp [template?, Test.values, values_memberTemplate]
  | compare op operand => rfl

theorem values_of_ofGiven {field : Text} {op : Operator} {operand : Value} {test : Test}
    (given : operand.isNull = false) (h : Test.ofGiven field op operand = .ok test) :
    test.values = op.bound operand := by
  have listed (negated : Bool) (h : Test.ofList field op negated operand = .ok test) :
      test.values = operand.elements.toOption.getD [] := by
    unfold Test.ofList at h
    split at h <;> cases h <;> rfl
  cases op with
  | isNull | isNotNull => cases h
  | oneOf | noneOf => simpa [Operator.bound, given] using listed _ h
  | _ =>
    cases h
    simp [Operator.bound, given, Test.values]

theorem values_of_ofNull {field : Text} {op : Operator} {test : Test}
    (h : Test.ofNull field op = .ok test) : test.values = [] := by
  unfold Test.ofNull at h
  split at h <;> cases h <;> rfl

theorem values_of_onField {d : Dialect} {field : Text} {operator operand : Value}
    {c : FieldCondition} (h : onField d field operator operand = .ok c) :
    ∃ op, Operator.ofValue? operator = some op ∧ c.test.values = op.bound operand := by
  unfold onField at h
  split at h
  · next op found =>
    refine ⟨op, found, ?_⟩
    unfold ofOperator at h
    split at h
    · cases h
    · split at h
      · next null =>
        obtain ⟨test, made, rfl⟩ := Result.map_eq_ok.1 h
        simp [values_of_ofNull made, Operator.bound, null]
      · next given =>
        obtain ⟨test, made, rfl⟩ := Result.map_eq_ok.1 h
        exact values_of_ofGiven (by simpa using given) made
  · cases h

theorem values_of_make {d : Dialect} {field operator operand : Value} {c : FieldCondition}
    (h : make d field operator operand = .ok c) :
    ∃ op, Operator.ofValue? operator = some op ∧ c.test.values = op.bound operand := by
  obtain ⟨name, _, h⟩ := Result.bind_eq_ok.1 h
  exact values_of_onField h

end FieldCondition

namespace Filter

theorem values_of_condition {d : Dialect} {pair : Value × Comparator} {c : FieldCondition}
    (h : condition d pair = .ok c) :
    c.test.values = pair.2.comparison.operator.bound pair.2.operand := by
  obtain ⟨op, found, values⟩ := FieldCondition.values_of_make h
  cases found
  exact values

theorem values_of_ofEntries {entries : List (Value × Value)} {pairs : List (Value × Comparator)}
    (h : ofEntries entries = .ok pairs) :
    pairs.flatMap (fun pair => pair.2.comparison.operator.bound pair.2.operand) =
      bound entries := by
  induction entries generalizing pairs with
  | nil =>
    cases h
    rfl
  | cons entry entries ih =>
    obtain ⟨field, spec⟩ := entry
    obtain ⟨comparators, read, h⟩ := Result.bind_eq_ok.1 h
    obtain ⟨rest, others, same⟩ := Result.bind_eq_ok.1 h
    cases same
    have first : (Comparator.ofSpec spec).toOption.getD [] = comparators := by
      rw [read]
      rfl
    rw [bound, List.flatMap_cons, first, List.flatMap_append, ih others, List.flatMap_map]
    rfl

theorem values_of_conditionsOfEntries {d : Dialect} {entries : List (Value × Value)}
    {cs : List FieldCondition} (h : conditionsOfEntries d entries = .ok cs) :
    cs.flatMap (·.test.values) = bound entries := by
  obtain ⟨pairs, read, each⟩ := Result.bind_eq_ok.1 h
  rw [← values_of_ofEntries read]
  have related := Result.mapM_eq_ok.1 each
  clear each h read
  induction related with
  | nil => rfl
  | cons made _ ih => rw [List.flatMap_cons, List.flatMap_cons, values_of_condition made, ih]

end Filter
end BoundQuery
