import BoundQuery.Condition.Render
import BoundQuery.Parameters.Named
import BoundQuery.Proofs.Condition.Idle
import BoundQuery.Proofs.Condition.Membership
import BoundQuery.Proofs.Condition.Values
import BoundQuery.Proofs.Name.Gates
import BoundQuery.Proofs.Placeholder.Template

/-!
# Which conditions are made

A condition is made when its field passes its gate, its operator is spelled, and the two fit the
dialect and the operand; for anything else it is turned down. A condition that has been made can be
written into every store of its dialect, and adds there what it compares with.

## Main definitions

* `Operator.IsGivenBy` — the values that stand for an operator.
* `FieldCondition.IsAskedFor` — what a condition has to be asked for with.
* `Dialect.Store`, `Dialect.Takes` — the stores of a dialect, and what values make of one.
* `Operator.Binds` — the values that an operator binds with an operand.

## Main statements

* `Operator.ofValue?_eq_some_iff` — how operators are read.
* `FieldCondition.made_iff_renders` — when a condition is made, and what is written of it.
-/

namespace BoundQuery

/-! ## Operators -/

namespace Operator

variable {op : Operator} {v : Value}

/-- The words of a text with one space between each two, in upper case. -/
def normalized (t : Text) : Str :=
  Chars.upper (Str.intercalate " " ((Chars.words t.chars).map Str.ofList))

/-- A value that stands for an operator: the member itself, or a text that spells it. -/
inductive IsGivenBy (op : Operator) : Value → Prop
  | member : IsGivenBy op (.text (.term (.operator op)))
  | spelled {t : Text} (same : normalized t = op.spelling) : IsGivenBy op (.text t)
  | unequal {t : Text} (same : normalized t = "!=") (ne : op = .ne) : IsGivenBy op (.text t)

theorem ofSpelling?_eq_some_iff {s : Str} : ofSpelling? s = some op ↔ s = op.spelling := by
  constructor
  · intro found
    have same := List.find?_some (p := fun op : Operator => op.spelling == s) found
    exact (beq_iff_eq.1 same).symm
  · rintro rfl
    cases op <;> rfl

/-- The spelling of an operator is in the form that texts are brought into. -/
theorem normalized_member (op : Operator) : normalized (.term (.operator op)) = op.spelling := by
  cases op <;> decide +kernel

theorem spelling_ne_unequal (op : Operator) : op.spelling ≠ "!=" := by
  cases op <;> decide

theorem ofValue?_text (t : Text) :
    ofValue? (.text t) =
      ofSpelling? (if normalized t == "!=" then "<>" else normalized t) := by
  cases t with
  | plain s => rfl
  | term t =>
    cases t with
    | operator op =>
      have other : (op.spelling == "!=") = false := beq_false_of_ne op.spelling_ne_unequal
      rw [normalized_member, other]
      exact (ofSpelling?_eq_some_iff.2 rfl).symm
    | joinType j => rfl
    | sortDirection d => rfl
    | relDirection d => rfl

theorem isGivenBy_text_iff {t : Text} :
    op.IsGivenBy (.text t) ↔ normalized t = op.spelling ∨ normalized t = "!=" ∧ op = .ne := by
  constructor
  · intro h
    cases h with
    | member => exact Or.inl op.normalized_member
    | spelled same => exact Or.inl same
    | unequal same ne => exact Or.inr ⟨same, ne⟩
  · rintro (same | ⟨same, ne⟩)
    · exact .spelled same
    · exact .unequal same ne

/-- An operator is read from what stands for it and from nothing else. -/
theorem ofValue?_eq_some_iff : ofValue? v = some op ↔ op.IsGivenBy v := by
  cases v with
  | text t =>
    rw [ofValue?_text, isGivenBy_text_iff, ofSpelling?_eq_some_iff]
    by_cases unequal : normalized t = "!="
    · simp only [unequal, beq_self_eq_true, if_true, op.spelling_ne_unequal.symm, false_or,
        true_and]
      cases op <;> decide
    · simp [unequal]
  | _ =>
    refine iff_of_false ?_ ?_
    · rintro ⟨⟩
    · rintro ⟨⟩

/-- The values that an operator binds with an operand: none of null, the elements of a list for
membership, and otherwise the operand, which is not null. -/
inductive Binds (op : Operator) : Value → List Value → Prop
  | nothing : Binds op .null []
  | elements {v : Value} {xs : List Value} (membership : op.isMembership = true)
      (listed : v.listed? = some xs) : Binds op v xs
  | operand {v : Value} (scalar : op.isMembership = false) (given : v.isNull = false) :
      Binds op v [v]

end Operator

/-! ## Stores -/

namespace Dialect

/-- The stores of parameters that the statements of a dialect are written into. -/
def Store : Dialect → Type
  | relational => Positional
  | graph => Named

/-- Adds a value to a store and gives its placeholder. -/
def add : (d : Dialect) → Value → d.Store → Str × d.Store
  | relational => Positional.add
  | graph => Named.add Named.defaultStem

/-- The second store is the first one with the values added at its end, in this order: under the
next numbers, or under the names that these make. -/
def Takes : (d : Dialect) → d.Store → List Value → d.Store → Prop
  | relational, (before : Positional), vs, after => after = (⟨before.values ++ vs⟩ : Positional)
  | graph, (before : Named), vs, after =>
    after = (⟨before.counter + vs.length, before.values.merge
      (vs.mapIdx fun i v => (Mark.word Named.defaultStem (before.counter + i + 1), v))⟩ : Named)

end Dialect

namespace Template

theorem bindings_inscribe (stem : Str) (n : Nat) (t : Template) :
    (t.inscribe stem n).bindings = t.values.mapIdx fun i v => (Mark.word stem (n + i + 1), v) := by
  induction t generalizing n with
  | nil => rfl
  | cons piece t ih =>
    cases piece with
    | text s => exact ih n
    | slot v =>
      have later (i : Nat) : n + 1 + i = n + (i + 1) := by omega
      simp [inscribe, values, List.mapIdx_cons, ih (n + 1), later]

/-- Filling a template adds its values to the store. -/
theorem takes_fill (d : Dialect) (t : Template) (store : d.Store) :
    d.Takes store t.values (t.fill d.add store).2 := by
  cases d with
  | relational => exact congrArg Prod.snd (Positional.fill_eq t store)
  | graph =>
    refine (congrArg Prod.snd (Named.fill_eq t store)).trans ?_
    rw [bindings_inscribe]

end Template

namespace FieldCondition

/-- Makes a condition on a name or, if aggregates are allowed, on a name or a call. -/
def request (aggregate : Bool) : Dialect → Value → Value → Value → Result FieldCondition :=
  if aggregate then makeAggregate else make

/-- What a condition on `name` with the operator `op` has to be asked for with. -/
structure IsAskedFor (aggregate : Bool) (d : Dialect) (field operator operand : Value) (name : Text)
    (op : Operator) : Prop where
  text : field = .text name
  gate : Name.isQualified name.chars = true ∨ aggregate = true ∧ Name.isCall name.chars = true
  operator : op.IsGivenBy operator
  relational : d = .relational → op ∉ [.contains, .startsWith, .endsWith]
  graph : d = .graph → op ∉ [.like, .ilike]
  null : operand = .null → op ∈ [.eq, .isNull, .ne, .isNotNull]
  given : op ∈ [.isNull, .isNotNull] → operand = .null
  listed : op ∈ [.oneOf, .noneOf] →
    ∃ xs, operand = .list xs ∨ operand = .tuple xs ∨ operand = .set xs

variable {d : Dialect} {aggregate : Bool} {field operator operand : Value} {name : Text}
variable {op : Operator} {c : FieldCondition}

theorem request_eq (aggregate : Bool) (d : Dialect) (field operator operand : Value) :
    request aggregate d field operator operand =
      Name.gate (if aggregate then Name.isExpression else Name.isQualified) "condition field"
        field >>= fun name => onField d name operator operand := by
  cases aggregate <;> rfl

theorem isAvailable_iff : op.isAvailable d = true ↔
    (d = .relational → op ∉ [.contains, .startsWith, .endsWith]) ∧
      (d = .graph → op ∉ [.like, .ilike]) := by
  cases d <;> cases op <;> decide

theorem listed?_eq_some_iff {v : Value} {xs : List Value} :
    v.listed? = some xs ↔ v = .list xs ∨ v = .tuple xs ∨ v = .set xs := by
  cases v <;> simp [Value.listed?]

theorem exists_ofGiven_iff : (∃ t, Test.ofGiven name op operand = .ok t) ↔
    op ∉ [.isNull, .isNotNull] ∧
      (op ∈ [.oneOf, .noneOf] → ∃ xs, operand.listed? = some xs) := by
  have member (negated : Bool) : (∃ t, Test.ofList name op negated operand = .ok t) ↔
      ∃ xs, operand.listed? = some xs := by
    constructor
    · rintro ⟨t, made⟩
      cases found : operand.listed? with
      | some xs => exact ⟨xs, rfl⟩
      | none =>
        obtain ⟨fault, refused⟩ := Test.exists_ofList_of_unlisted name op negated found
        rw [refused] at made
        cases made
    · rintro ⟨xs, found⟩
      exact ⟨_, Test.ofList_of_listed? name op negated found⟩
  cases op with
  | oneOf => simpa [Test.ofGiven] using member false
  | noneOf => simpa [Test.ofGiven] using member true
  | _ => simp [Test.ofGiven]

theorem exists_ofOperator_iff : (∃ c, ofOperator d name op operand = .ok c) ↔
    op.isAvailable d = true ∧ (operand = .null → op ∈ [.eq, .isNull, .ne, .isNotNull]) ∧
      (op ∈ [.isNull, .isNotNull] → operand = .null) ∧
      (op ∈ [.oneOf, .noneOf] → ∃ xs, operand.listed? = some xs) := by
  have answered {t : Result Test} :
      (∃ c, t.map (FieldCondition.mk name) = .ok c) ↔ ∃ a, t = .ok a := by
    simp [Result.map_eq_ok]
  unfold ofOperator
  cases available : op.isAvailable d with
  | false => simp
  | true =>
    by_cases null : operand = .null
    · subst null
      simp only [Bool.not_true, Bool.false_eq_true, if_false, Value.isNull, if_true, answered]
      cases op <;> simp [Test.ofNull, Value.listed?]
    · have given : operand.isNull = false := by
        cases operand <;> first | rfl | exact absurd rfl null
      simp only [Bool.not_true, Bool.false_eq_true, if_false, given, answered, exists_ofGiven_iff,
        null, false_imp_iff, true_and, imp_false]

theorem exists_request_iff : (∃ c, request aggregate d field operator operand = .ok c) ↔
    ∃ name op, IsAskedFor aggregate d field operator operand name op := by
  have gated : ∀ name : Text,
      (if aggregate then Name.isExpression else Name.isQualified) name.chars = true ↔
        Name.isQualified name.chars = true ∨ aggregate = true ∧ Name.isCall name.chars = true := by
    cases aggregate <;> simp [Name.isExpression, or_comm]
  rw [request_eq]
  constructor
  · rintro ⟨c, made⟩
    obtain ⟨name, passed, made⟩ := Result.bind_eq_ok.1 made
    obtain ⟨text, gate⟩ := Name.gate_eq_ok passed
    unfold onField at made
    split at made
    · next op read =>
      obtain ⟨available, null, given, listed⟩ := exists_ofOperator_iff.1 ⟨c, made⟩
      obtain ⟨relational, graph⟩ := isAvailable_iff.1 available
      simp only [listed?_eq_some_iff] at listed
      exact ⟨name, op, text, (gated name).1 gate, Operator.ofValue?_eq_some_iff.1 read, relational,
        graph, null, given, listed⟩
    · cases made
  · rintro ⟨name, op, asked⟩
    have passed : Name.gate _ "condition field" field = .ok name :=
      Name.gate_eq_ok_iff.2 ⟨asked.text, (gated name).2 asked.gate⟩
    have fits : ∃ c, ofOperator d name op operand = .ok c := exists_ofOperator_iff.2
      ⟨isAvailable_iff.2 ⟨asked.relational, asked.graph⟩, asked.null, asked.given, by
        simpa only [listed?_eq_some_iff] using asked.listed⟩
    obtain ⟨c, made⟩ := fits
    refine ⟨c, Result.bind_eq_ok.2 ⟨name, passed, ?_⟩⟩
    rw [onField, Operator.ofValue?_eq_some_iff.2 asked.operator]
    exact made

/-! ## What is written -/

theorem Test.eq_compare_of_ofGiven {t : Test} (scalar : op.isMembership = false)
    (made : Test.ofGiven name op operand = .ok t) : t = .compare op operand := by
  cases op with
  | oneOf | noneOf => cases scalar
  | isNull | isNotNull => cases made
  | _ =>
    cases made
    rfl

/-- A condition that has been made binds what its operator binds with its operand, and says nothing
when that is an empty list. -/
theorem binds_of_ofOperator (made : ofOperator d name op operand = .ok c) :
    op.Binds operand c.test.values ∧
      (c.isIdle = true ↔ op.isMembership = true ∧ operand.listed? = some []) := by
  unfold ofOperator at made
  split at made
  · cases made
  · split at made
    · next null =>
      obtain ⟨test, ofNull, rfl⟩ := Result.map_eq_ok.1 made
      have same : operand = .null := by cases operand <;> first | rfl | cases null
      subst same
      cases op <;> cases ofNull <;> exact ⟨.nothing, by simp [isIdle, Value.listed?]⟩
    · next given =>
      obtain ⟨test, ofGiven, rfl⟩ := Result.map_eq_ok.1 made
      have given : operand.isNull = false := by simpa using given
      by_cases membership : op.isMembership = true
      · obtain ⟨negated, ofList⟩ := Test.exists_ofGiven_of_membership membership name
        rw [ofList] at ofGiven
        cases listed : operand.listed? with
        | none =>
          obtain ⟨fault, refused⟩ := Test.exists_ofList_of_unlisted name op negated listed
          rw [refused] at ofGiven
          cases ofGiven
        | some xs =>
          rw [Test.ofList_of_listed? name op negated listed] at ofGiven
          cases ofGiven
          refine ⟨.elements membership listed, ?_⟩
          cases xs <;> simp [isIdle, membership]
      · have scalar : op.isMembership = false := by simpa using membership
        obtain rfl := Test.eq_compare_of_ofGiven scalar ofGiven
        exact ⟨.operand scalar given, by simp [isIdle, scalar]⟩

theorem render_field (c : FieldCondition) (d : Dialect) (marker : List Chr) (store : d.Store) :
    (Condition.field c).render d.add d marker store =
      match c.template? d with
      | none => (.ok none, store)
      | some t => (.ok (some (t.fill d.add store).1), (t.fill d.add store).2) := by
  rw [Condition.render, Condition.template?]
  cases c.template? d <;> rfl

theorem exists_render (c : FieldCondition) (d : Dialect) (marker : List Chr) (store : d.Store) :
    ∃ text? after, (Condition.field c).render d.add d marker store = (.ok text?, after) ∧
      d.Takes store c.test.values after ∧ (text? = none ↔ c.isIdle = true) := by
  have values := values_template? d c
  rw [render_field, ← template?_eq_none_iff (d := d)]
  cases written : c.template? d with
  | none =>
    rw [written] at values
    have nothing : c.test.values = Template.values [] := values.symm
    rw [nothing]
    exact ⟨none, store, rfl, Template.takes_fill d [] store, by simp⟩
  | some t =>
    rw [written] at values
    have same : c.test.values = t.values := values.symm
    rw [same]
    exact ⟨_, _, rfl, t.takes_fill d store, by simp⟩

/-- A condition is made of just what fits, and then it can be written into every store of its
dialect: it adds the values that its operator binds and writes a text, unless it asks for membership
in an empty list. -/
theorem made_iff_renders (aggregate : Bool) (d : Dialect) (field operator operand : Value) :
    ((∃ c, request aggregate d field operator operand = .ok c) ↔
      ∃ name op, IsAskedFor aggregate d field operator operand name op) ∧
    ∀ c, request aggregate d field operator operand = .ok c → ∃ op : Operator,
      op.IsGivenBy operator ∧ ∃ vs, op.Binds operand vs ∧
        ∀ (marker : List Chr) (store : d.Store), ∃ text? after,
          (Condition.field c).render d.add d marker store = (.ok text?, after) ∧
            d.Takes store vs after ∧
            (text? = none ↔ op.isMembership = true ∧ operand.listed? = some []) := by
  refine ⟨exists_request_iff, fun c made => ?_⟩
  rw [request_eq] at made
  obtain ⟨name, _, made⟩ := Result.bind_eq_ok.1 made
  unfold onField at made
  split at made
  · next op read =>
    obtain ⟨binds, idle⟩ := binds_of_ofOperator made
    refine ⟨op, Operator.ofValue?_eq_some_iff.1 read, c.test.values, binds, fun marker store => ?_⟩
    rw [← idle]
    exact c.exists_render d marker store
  · cases made

/-- A spelling with two blanks in it and in lower case is read, and both values are bound behind the
one that is there. -/
theorem made_iff_renders_ages :
    ∃ c, request false .relational (.str "age") (.str "not  in") (.list [.int 1, .int 2]) = .ok c ∧
      ∃ text, (Condition.field c).render Positional.add .relational [] ⟨[.null]⟩ =
        (.ok (some text), ⟨[.null, .int 1, .int 2]⟩) := by
  obtain ⟨accepted, rendered⟩ :=
    made_iff_renders false .relational (.str "age") (.str "not  in") (.list [.int 1, .int 2])
  have read : Operator.ofValue? (.str "not  in") = some .noneOf := by decide +kernel
  obtain ⟨c, made⟩ := accepted.2 ⟨.plain "age", .noneOf, {
    text := rfl
    gate := .inl (by decide)
    operator := Operator.ofValue?_eq_some_iff.1 read
    relational := by simp
    graph := by simp
    null := by simp
    given := by simp
    listed := by simp }⟩
  obtain ⟨op, given, vs, binds, renders⟩ := rendered c made
  obtain rfl := Option.some.inj (read.symm.trans (Operator.ofValue?_eq_some_iff.2 given))
  have values : vs = [.int 1, .int 2] := by
    cases binds with
    | elements membership listed => exact (Option.some.inj listed).symm
    | operand scalar given => cases scalar
  obtain ⟨text?, after, written, takes, silent⟩ := renders [] (⟨[.null]⟩ : Positional)
  obtain rfl : after = (⟨[.null, .int 1, .int 2]⟩ : Positional) := takes.trans (by rw [values]; rfl)
  cases text? with
  | none => simp [Value.listed?] at silent
  | some text => exact ⟨c, made, text, written⟩

end FieldCondition
end BoundQuery
