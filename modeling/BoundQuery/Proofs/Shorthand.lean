import BoundQuery.Proofs.Condition.Membership
import BoundQuery.Proofs.Restricting
import BoundQuery.Proofs.TurnedDown

/-!
# Shorthands

A shorthand names its operator and leaves the rest to the general call. The shorthands for
membership make a list of what they are given before they do so, and a text or a mapping can be
listed too: its characters, or its keys. So they let through what the general call turns down. For
everything but a text and a mapping, and for the other operators, both calls are the same.

## Main definitions

* `Run.SameAs` — two calls that are turned down together, or lead to the same state.
* `Operator.shorthandOperand` — what a shorthand hands over.
* `Run.Follows` — a shorthand that differs from the general call in one case only.

## Main statements

* `follows_shorthand` — what a shorthand is, on builders of every kind.
* `not_sameAs_member_text` — a text that is taken apart by a shorthand and turned down otherwise.
-/

namespace BoundQuery

open Result (Agree IsRefused)

/-- Two calls that are both turned down, and leave the state then, or lead to the same state. -/
structure Run.SameAs {σ γ : Type} (step : σ → γ → σ × Option Fault) (s : σ) (call general : γ) :
    Prop where
  verdict : (step s call).2.isSome = (step s general).2.isSome
  state : (step s call).1 = (step s general).1
  kept : (step s call).2.isSome = true → (step s call).1 = s

/-- A text or a mapping: what has elements although it is no list. -/
def Value.isExpanded : Value → Bool
  | .text _ | .map _ => true
  | _ => false

theorem Value.isExpanded_iff {v : Value} :
    v.isExpanded = true ↔ v.listed? = none ∧ ∃ xs, v.elements = .ok xs := by
  cases v with
  | text t => exact iff_of_true rfl ⟨rfl, _, rfl⟩
  | map entries => exact iff_of_true rfl ⟨rfl, _, rfl⟩
  | list xs | tuple xs | set xs => exact iff_of_false Bool.noConfusion (by rintro ⟨⟨⟩, _⟩)
  | _ => exact iff_of_false Bool.noConfusion (by rintro ⟨_, xs, ⟨⟩⟩)

/-- What a shorthand hands over as the operand of its operator. -/
def Operator.shorthandOperand (op : Operator) (v : Value) : Result Value :=
  if op.isMembership then v.elements.map .list else .ok v

/-! ## What is asked for -/

section
variable {d : Dialect} {gate : Result Text} {op : Operator} {v : Value}

/-- The condition that an operator asks of the field that a gate lets through. -/
def asked (d : Dialect) (gate : Result Text) (op : Operator) (v : Value) : Result FieldCondition :=
  gate >>= fun field => FieldCondition.ofOperator d field op v

theorem asked_of_listed? (membership : op.isMembership = true) {xs : List Value}
    (h : v.listed? = some xs) : asked d gate op v = asked d gate op (.list xs) := by
  cases gate with
  | error fault => rfl
  | ok field =>
    obtain ⟨negated, made⟩ := FieldCondition.exists_ofOperator_of_listed? membership d field
    exact (made v xs h).trans (made (.list xs) xs rfl).symm

theorem isRefused_asked_of_unlisted (membership : op.isMembership = true) (h : v.listed? = none) :
    (asked d gate op v).IsRefused := by
  cases gate with
  | error fault => exact ⟨fault, rfl⟩
  | ok field => exact FieldCondition.exists_ofOperator_of_unlisted membership h d field

theorem exists_asked_list (membership : op.isMembership = true) (xs : List Value)
    (passed : ∃ field, gate = .ok field) : ∃ c, asked d gate op (.list xs) = .ok c := by
  obtain ⟨field, rfl⟩ := passed
  obtain ⟨negated, made⟩ := FieldCondition.exists_ofOperator_of_listed? membership d field
  exact ⟨_, made (.list xs) xs rfl⟩

/-- The condition that a shorthand asks for. -/
def shorthandAsked (d : Dialect) (gate : Result Text) (op : Operator) (v : Value) :
    Result FieldCondition :=
  op.shorthandOperand v >>= asked d gate op

theorem shorthandAsked_of_elements (membership : op.isMembership = true) {xs : List Value}
    (h : v.elements = .ok xs) : shorthandAsked d gate op v = asked d gate op (.list xs) := by
  rw [shorthandAsked, Operator.shorthandOperand, if_pos membership, h]
  rfl

/-- A shorthand takes a value apart that is no list. -/
def Expands (gate : Result Text) (op : Operator) (v : Value) : Prop :=
  op.isMembership = true ∧ v.isExpanded = true ∧ ∃ field, gate = .ok field

theorem agree_shorthandAsked (h : ¬ Expands gate op v) :
    Agree Eq (shorthandAsked d gate op v) (asked d gate op v) := by
  by_cases membership : op.isMembership = true
  · cases listed : v.listed? with
    | some xs =>
      rw [shorthandAsked_of_elements membership (Value.elements_of_listed? listed),
        asked_of_listed? membership listed]
      exact Result.agree_eq _
    | none =>
      refine Result.agree_of_isRefused ?_ (isRefused_asked_of_unlisted membership listed)
      cases elements : v.elements with
      | error fault =>
        rw [shorthandAsked, Operator.shorthandOperand, if_pos membership, elements]
        exact ⟨fault, rfl⟩
      | ok xs =>
        have expanded := Value.isExpanded_iff.2 ⟨listed, xs, elements⟩
        rw [shorthandAsked_of_elements membership elements]
        cases gate with
        | error fault => exact ⟨fault, rfl⟩
        | ok field => exact absurd ⟨membership, expanded, field, rfl⟩ h
  · rw [shorthandAsked, Operator.shorthandOperand, if_neg membership]
    exact Result.agree_eq _

/-! ## Two calls for one condition -/

variable {σ γ : Type} {step : σ → γ → σ × Option Fault} {add : σ → FieldCondition → σ} {s : σ}
variable {call general : γ} {r r' : Result FieldCondition}

theorem Run.sameAs_of_agree (here : step s call = added add s (r.map ([·])))
    (there : step s general = added add s (r'.map ([·]))) (h : Agree Eq r r') :
    SameAs step s call general := by
  cases h with
  | ok same =>
    subst same
    constructor
    · rw [here, there]
    · rw [here, there]
    · intro turned
      rw [here] at turned
      cases turned
  | error fault fault' =>
    constructor
    · rw [here, there]
      rfl
    · rw [here, there]
      rfl
    · intro _
      rw [here]
      rfl

theorem Run.not_sameAs_of_isRefused {c : FieldCondition}
    (here : step s call = added add s (r.map ([·])))
    (there : step s general = added add s (r'.map ([·]))) (left : r = .ok c)
    (right : r'.IsRefused) : ¬ SameAs step s call general := by
  intro same
  obtain ⟨fault, rfl⟩ := right
  have verdict := same.verdict
  rw [here, there, left] at verdict
  cases verdict

/-- A shorthand hands over what it makes of its operand, so that it differs from the general call in
one case only: it is for membership, and the value is taken apart although it is no list. -/
structure Run.Follows (step : σ → γ → σ × Option Fault) (s : σ) (call : γ) (general : Value → γ)
    (op : Operator) (v : Value) (expands : Prop) : Prop where
  handed : step s call = match op.shorthandOperand v with
    | .ok w => step s (general w)
    | .error fault => (s, some fault)
  sameAs_iff : SameAs step s call (general v) ↔ ¬ expands

theorem Run.follows_of_added {general : Value → γ}
    (here : step s call = added add s ((shorthandAsked d gate op v).map ([·])))
    (there : ∀ v, step s (general v) = added add s ((asked d gate op v).map ([·]))) :
    Follows step s call general op v (Expands gate op v) where
  handed := by
    rw [here, shorthandAsked]
    cases op.shorthandOperand v with
    | error fault => rfl
    | ok w => exact (there w).symm
  sameAs_iff := by
    constructor
    · rintro same ⟨membership, expanded, passed⟩
      obtain ⟨listed, xs, elements⟩ := Value.isExpanded_iff.1 expanded
      obtain ⟨c, accepted⟩ : ∃ c, asked d gate op (.list xs) = .ok c :=
        exists_asked_list membership xs passed
      rw [← shorthandAsked_of_elements membership elements] at accepted
      have refused : (asked d gate op v).IsRefused := isRefused_asked_of_unlisted membership listed
      exact not_sameAs_of_isRefused here (there v) accepted refused same
    · intro h
      exact sameAs_of_agree here (there v) (agree_shorthandAsked h)

end

/-! ## Relational statements -/

namespace Restriction

/-- The shorthands for a comparison with one operator. -/
inductive Shorthand where
  | equals | notEquals | member | notMember | like | ilike
  deriving DecidableEq, Repr

namespace Shorthand

def operator : Shorthand → Operator
  | equals => .eq
  | notEquals => .ne
  | member => .oneOf
  | notMember => .noneOf
  | like => .like
  | ilike => .ilike

def restriction : Shorthand → Value → Value → Restriction
  | equals => .equals
  | notEquals => .notEquals
  | member => .member
  | notMember => .notMember
  | like => .like
  | ilike => .ilike

/-- The general call for the operator of a shorthand. -/
def general (short : Shorthand) (field operand : Value) : Restriction :=
  .compare field short.operator.toValue operand

theorem conditions_general (d : Dialect) (short : Shorthand) (field operand : Value) :
    (short.general field operand).conditions d =
      ((asked d (Name.qualified "condition field" field) short.operator operand).map ([·])).map
        (·.map .field) :=
  Restriction.conditions_compare d field short.operator.toValue operand

theorem conditions_restriction (d : Dialect) (short : Shorthand) (field operand : Value) :
    (short.restriction field operand).conditions d =
      ((shorthandAsked d (Name.qualified "condition field" field) short.operator operand).map
        ([·])).map (·.map .field) := by
  cases short with
  | member | notMember =>
    cases elements : operand.elements with
    | error fault =>
      simp only [restriction, Restriction.conditions, shorthandAsked, Operator.shorthandOperand,
        operator, elements]
      rfl
    | ok xs =>
      rw [shorthandAsked_of_elements rfl elements]
      refine Eq.trans ?_ (conditions_general d _ field (.list xs))
      simp only [restriction, Restriction.conditions, elements]
      rfl
  | equals => exact conditions_general d .equals field operand
  | notEquals => exact conditions_general d .notEquals field operand
  | like => exact conditions_general d .like field operand
  | ilike => exact conditions_general d .ilike field operand

/-- A shorthand on a relational statement that takes a value apart. -/
def Expands (short : Shorthand) (field operand : Value) : Prop :=
  short.operator.isMembership = true ∧ operand.isExpanded = true ∧
    Name.isIn Name.isQualified field = true

theorem expands_iff {short : Shorthand} {field operand : Value} :
    short.Expands field operand ↔
      BoundQuery.Expands (Name.qualified "condition field" field) short.operator operand := by
  rw [Expands, BoundQuery.Expands, Name.qualified, Name.exists_gate_iff]

end Shorthand
end Restriction

/-- A shorthand on a builder that is restricted by calls. -/
theorem Run.Restricts.follows {σ γ : Type} {step : σ → γ → σ × Option Fault}
    {call : Restriction → γ} {add : σ → Condition → σ} (h : Run.Restricts step call add) (s : σ)
    (short : Restriction.Shorthand) (field operand : Value) :
    Follows step s (call (short.restriction field operand))
      (fun v => call (short.general field v)) short.operator operand
      (short.Expands field operand) := by
  rw [Restriction.Shorthand.expands_iff]
  have here : step s (call (short.restriction field operand)) =
      added (fun s c => add s (.field c)) s ((shorthandAsked .relational
        (Name.qualified "condition field" field) short.operator operand).map ([·])) := by
    rw [h, Restriction.Shorthand.conditions_restriction, added_map]
  refine follows_of_added here fun v => ?_
  rw [h, Restriction.Shorthand.conditions_general, added_map]

/-! ## Graph queries -/

namespace GraphQuery

variable (short : Shorthand) (identifier property operand : Value)

theorem step_general (q : GraphQuery) :
    q.step (.compare identifier property (operatorValue short.operator) operand) =
      Run.added restricted q
        ((asked .graph (propertyField identifier property) short.operator operand).map ([·])) := by
  rw [step_compare, compared_eq]
  rfl

theorem step_shorthand (q : GraphQuery) :
    q.step (.shorthand short identifier property operand) =
      Run.added restricted q
        ((shorthandAsked .graph (propertyField identifier property) short.operator operand).map
          ([·])) := by
  refine step_of_edits rfl ?_
  cases short with
  | member | notMember =>
    cases elements : operand.elements with
    | error fault =>
      simp only [Call.edits, shorthandAsked, Operator.shorthandOperand, Shorthand.operator,
        elements]
      rfl
    | ok xs =>
      rw [shorthandAsked_of_elements rfl elements]
      simp only [Call.edits, elements]
      refine (comparison_eq identifier property _ (.list xs)).trans ?_
      rw [compared_eq]
      rfl
  | equals | contains | startsWith | endsWith =>
    refine (comparison_eq identifier property _ operand).trans ?_
    rw [compared_eq]
    rfl

end GraphQuery

/-- A shorthand on a graph query that takes a value apart. -/
def GraphQuery.Shorthand.Expands (short : Shorthand) (identifier property operand : Value) : Prop :=
  short.operator.isMembership = true ∧ operand.isExpanded = true ∧
    Name.isValid identifier = true ∧ Name.isValid property = true

theorem GraphQuery.Shorthand.expands_iff {short : Shorthand} {identifier property operand : Value} :
    short.Expands identifier property operand ↔
      BoundQuery.Expands (propertyField identifier property) short.operator operand := by
  rw [Expands, BoundQuery.Expands, exists_propertyField_iff]

/-! ## Builders of every kind -/

/-- A shorthand is the general call for its operator unless it is for membership and given a text or
a mapping; then it is the general call for the list of the characters or the keys. -/
theorem follows_shorthand (operand : Value) :
    (∀ (s : Select) (short : Restriction.Shorthand) (field : Value),
      Run.Follows Select.step s (.restrict (short.restriction field operand))
        (fun v => .restrict (short.general field v)) short.operator operand
        (short.Expands field operand)) ∧
    (∀ (s : Modify) (short : Restriction.Shorthand) (field : Value),
      Run.Follows Modify.step s (.restrict (short.restriction field operand))
        (fun v => .restrict (short.general field v)) short.operator operand
        (short.Expands field operand)) ∧
    ∀ (q : GraphQuery) (short : GraphQuery.Shorthand) (identifier property : Value),
      Run.Follows GraphQuery.step q (.shorthand short identifier property operand)
        (fun v => .compare identifier property (GraphQuery.operatorValue short.operator) v)
        short.operator operand (short.Expands identifier property operand) := by
  refine ⟨?_, ?_, ?_⟩
  · intro s short field
    exact Select.restricts.follows s short field operand
  · intro s short field
    exact Modify.restricts.follows s short field operand
  · intro q short identifier property
    rw [GraphQuery.Shorthand.expands_iff]
    exact Run.follows_of_added (q.step_shorthand short identifier property operand)
      (q.step_general short identifier property)

/-- Where the general call turns a text down, the shorthand compares with its letters. -/
theorem not_sameAs_member_text :
    ¬ Run.SameAs Select.step selection (.restrict (.member (.str "id") (.str "abc")))
      (.restrict (.compare (.str "id") Operator.oneOf.toValue (.str "abc"))) := by
  intro same
  have verdict : false = true := same.verdict
  cases verdict

end BoundQuery
