import BoundQuery.Condition.Basic

/-!
# Membership

`IN` and `NOT IN` compare a field with the values of a list, a tuple or a set, and with nothing
else: a text or a mapping is turned down although it could be taken apart.

## Main definitions

* `Value.listed?` — the values of a list, a tuple or a set.
* `Operator.isMembership` — the operators that compare with a list.

## Main statements

* `FieldCondition.exists_ofOperator_of_listed?` — the condition that is made of a list.
* `FieldCondition.exists_ofOperator_of_unlisted` — anything but a list is turned down.
-/

namespace BoundQuery

/-- The elements of a list, a tuple or a set. -/
def Value.listed? : Value → Option (List Value)
  | .list xs | .tuple xs | .set xs => some xs
  | _ => none

/-- Whether an operator compares with a list. -/
def Operator.isMembership : Operator → Bool
  | oneOf | noneOf => true
  | _ => false

theorem Value.isNull_of_listed? {v : Value} {xs : List Value} (h : v.listed? = some xs) :
    v.isNull = false := by
  cases v <;> first | rfl | cases h

theorem Value.elements_of_listed? {v : Value} {xs : List Value} (h : v.listed? = some xs) :
    v.elements = .ok xs := by
  cases v <;> cases h <;> rfl

theorem Operator.isAvailable_of_isMembership {op : Operator} (membership : op.isMembership = true)
    (d : Dialect) : op.isAvailable d = true := by
  cases op <;> cases membership <;> cases d <;> rfl

namespace Test

variable {v : Value}

theorem ofList_of_listed? {xs : List Value} (field : Text) (op : Operator) (negated : Bool)
    (h : v.listed? = some xs) : ofList field op negated v = .ok (.member negated xs) := by
  cases v <;> cases h <;> rfl

theorem exists_ofList_of_unlisted (field : Text) (op : Operator) (negated : Bool)
    (h : v.listed? = none) : ∃ fault, ofList field op negated v = .error fault := by
  cases v <;> first | exact ⟨_, rfl⟩ | cases h

theorem exists_ofGiven_of_membership {op : Operator} (membership : op.isMembership = true)
    (field : Text) : ∃ negated, ∀ v, ofGiven field op v = ofList field op negated v := by
  cases op with
  | oneOf => exact ⟨false, fun _ => rfl⟩
  | noneOf => exact ⟨true, fun _ => rfl⟩
  | _ => cases membership

end Test

namespace FieldCondition

variable {v : Value} {op : Operator}

theorem exists_ofOperator_of_unlisted (membership : op.isMembership = true)
    (h : v.listed? = none) (d : Dialect) (field : Text) :
    ∃ fault, ofOperator d field op v = .error fault := by
  unfold ofOperator
  split
  · exact ⟨_, rfl⟩
  · split
    · cases op <;> first | exact ⟨_, rfl⟩ | cases membership
    · obtain ⟨negated, listed⟩ := Test.exists_ofGiven_of_membership membership field
      obtain ⟨fault, refused⟩ := Test.exists_ofList_of_unlisted field op negated h
      exact ⟨fault, by rw [listed, refused]; rfl⟩

/-- The condition that an operator for membership asks of a field with a list. -/
theorem exists_ofOperator_of_listed? (membership : op.isMembership = true) (d : Dialect)
    (field : Text) : ∃ negated, ∀ v xs, v.listed? = some xs →
      ofOperator d field op v = .ok ⟨field, .member negated xs⟩ := by
  obtain ⟨negated, given⟩ := Test.exists_ofGiven_of_membership membership field
  refine ⟨negated, fun v xs listed => ?_⟩
  rw [ofOperator, Operator.isAvailable_of_isMembership membership, Value.isNull_of_listed? listed,
    given, Test.ofList_of_listed? field op negated listed]
  rfl

end FieldCondition

end BoundQuery
