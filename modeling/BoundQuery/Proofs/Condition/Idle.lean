import BoundQuery.Proofs.Condition.Clean
import BoundQuery.Proofs.Condition.Reading

/-!
# Conditions that say nothing

Membership in an empty list writes nothing: no text, no value, no word between it and its
neighbours. Conditions are written as if those were not among them, and nothing is written when
there are no others.

## Main definitions

* `Condition.isIdle` — conditions that say nothing.
* `Value.AsksNothing` — what a filter asks of a field when it asks for such conditions only.

## Main statements

* `Condition.conjunction?_filter`, `Condition.eq_none_iff_of_conjunction?` — how conditions are
  written among which some say nothing.
* `FieldCondition.exists_onField_idle`, `Filter.exists_made_idle` — calls that ask for nothing are
  answered with conditions that say nothing.
-/

namespace BoundQuery

/-- Membership in an empty list. -/
def FieldCondition.isIdle (c : FieldCondition) : Bool :=
  match c.test with
  | .member _ [] => true
  | _ => false

def Condition.isIdle : Condition → Bool
  | .field c => c.isIdle
  | .raw _ _ => false

theorem FieldCondition.template?_eq_none_iff {d : Dialect} {c : FieldCondition} :
    c.template? d = none ↔ c.isIdle = true := by
  obtain ⟨field, test⟩ := c
  cases test with
  | null negated => exact iff_of_false (by simp [template?]) Bool.noConfusion
  | member negated values =>
    cases values with
    | nil => exact iff_of_true rfl rfl
    | cons v vs => exact iff_of_false (by simp [template?]) Bool.noConfusion
  | compare op operand => exact iff_of_false (by simp [template?]) Bool.noConfusion

namespace Condition

variable {d : Dialect} {marker : List Chr}

theorem template?_eq_none_iff {c : Condition} :
    c.template? d marker = .ok none ↔ c.isIdle = true := by
  cases c with
  | field c =>
    rw [template?, Except.ok.injEq]
    exact FieldCondition.template?_eq_none_iff
  | raw fragment values =>
    refine iff_of_false ?_ Bool.noConfusion
    intro h
    obtain ⟨t, _, same⟩ := Result.map_eq_ok.1 h
    cases same

/-! ## Writing -/

theorem templates_cons (c : Condition) (cs : List Condition) :
    templates d marker (c :: cs) =
      c.template? d marker >>= fun t? => (templates d marker cs).map (t?.toList ++ ·) := by
  rw [templates, List.mapM_cons]
  cases c.template? d marker with
  | error fault => rfl
  | ok t? =>
    rw [templates]
    cases cs.mapM (template? d marker) with
    | error fault => rfl
    | ok ts => cases t? <;> rfl

theorem templates_cons_eq_ok {c : Condition} {cs : List Condition} {ts : List Template} :
    templates d marker (c :: cs) = .ok ts ↔ ∃ t? others, c.template? d marker = .ok t? ∧
      templates d marker cs = .ok others ∧ t?.toList ++ others = ts := by
  simp only [templates_cons, Result.bind_eq_ok, Result.map_eq_ok, exists_and_left]

/-- Conditions that say nothing may as well not be there. -/
theorem templates_filter (cs : List Condition) :
    templates d marker (cs.filter (!·.isIdle)) = templates d marker cs := by
  induction cs with
  | nil => rfl
  | cons c cs ih =>
    by_cases idle : c.isIdle = true
    · rw [List.filter_cons_of_neg (by simp [idle]), ih, templates_cons,
        template?_eq_none_iff.2 idle]
      cases templates d marker cs <;> rfl
    · rw [List.filter_cons_of_pos (by simpa using idle), templates_cons, templates_cons, ih]

theorem conjunction?_filter (cs : List Condition) :
    conjunction? d marker (cs.filter (!·.isIdle)) = conjunction? d marker cs := by
  rw [conjunction?, conjunction?, templates_filter]

theorem eq_nil_iff_of_templates {cs : List Condition} {ts : List Template}
    (h : templates d marker cs = .ok ts) : ts = [] ↔ ∀ c ∈ cs, c.isIdle = true := by
  induction cs generalizing ts with
  | nil =>
    cases h
    simp
  | cons c cs ih =>
    obtain ⟨t?, others, first, written, rfl⟩ := templates_cons_eq_ok.1 h
    rw [List.append_eq_nil_iff, List.forall_mem_cons, ih written, ← template?_eq_none_iff, first]
    simp

/-- Nothing is written when no condition says anything. -/
theorem eq_none_iff_of_conjunction? {cs : List Condition} {t? : Option Template}
    (h : conjunction? d marker cs = .ok t?) : t? = none ↔ ∀ c ∈ cs, c.isIdle = true := by
  obtain ⟨ts, written, rfl⟩ := conjunction?_eq_ok.1 h
  rw [← eq_nil_iff_of_templates written]
  cases ts <;> simp [joined?]

end Condition

/-! ## Asking for nothing -/

theorem FieldCondition.exists_onField_idle {operator operand : Value} {op : Operator}
    (parsed : Operator.ofValue? operator = some op) (membership : op.isMembership = true)
    (empty : operand.listed? = some []) (d : Dialect) (field : Text) :
    ∃ c, onField d field operator operand = .ok c ∧ c.isIdle = true := by
  obtain ⟨negated, made⟩ := exists_ofOperator_of_listed? membership d field
  refine ⟨⟨field, .member negated []⟩, ?_, rfl⟩
  rw [onField, parsed]
  exact made operand [] empty

structure Comparator.IsIdle (c : Comparator) : Prop where
  membership : c.comparison.operator.isMembership = true
  empty : c.operand.listed? = some []

/-- An empty list, also behind `$in` and `$nin`. -/
inductive Value.AsksNothing : Value → Prop
  | list {v : Value} (empty : v.listed? = some []) : AsksNothing v
  | named {entries : List (Value × Value)} (nonempty : entries ≠ [])
      (each : ∀ e ∈ entries, ∃ key : Text, e.1 = .text key ∧
        (key.spelling = "$in" ∨ key.spelling = "$nin") ∧ e.2.listed? = some []) :
      AsksNothing (.map entries)
  | comparator {c : Comparison} {v : Value} (membership : c.operator.isMembership = true)
      (empty : v.listed? = some []) : AsksNothing (.comparator c v)

theorem Comparator.exists_ofEntry_idle {key : Text} {operand : Value}
    (known : key.spelling = "$in" ∨ key.spelling = "$nin") (empty : operand.listed? = some []) :
    ∃ c, ofEntry key operand = .ok c ∧ c.IsIdle := by
  rcases known with named | named
  · exact ⟨⟨.oneOf, operand⟩, by simp [ofEntry, named, ofKey?], rfl, empty⟩
  · exact ⟨⟨.noneOf, operand⟩, by simp [ofEntry, named, ofKey?], rfl, empty⟩

theorem Comparator.exists_ofSpec_idle {spec : Value} (h : spec.AsksNothing) :
    ∃ cs, ofSpec spec = .ok cs ∧ ∀ c ∈ cs, c.IsIdle := by
  cases h with
  | list empty =>
    refine ⟨_, ofSpec_of_listed? empty, fun c mem => ?_⟩
    rw [List.mem_singleton.1 mem]
    exact ⟨rfl, rfl⟩
  | @named entries nonempty each =>
    have dollar : ∀ e ∈ entries, IsNamed e.1 := by
      intro e mem
      obtain ⟨key, text, known, _⟩ := each e mem
      refine ⟨key, text, ?_⟩
      rcases known with named | named <;> rw [Text.chars, named] <;> rfl
    obtain ⟨named, read⟩ := exists_namedEntries?_iff.2 dollar
    obtain ⟨same, _⟩ := eq_of_namedEntries? read
    rw [ofSpec_of_named nonempty read]
    refine Result.exists_mapM_eq_ok fun n mem => ?_
    obtain ⟨key, text, known, empty⟩ := each (.text n.1, n.2) (by
      rw [same]
      exact List.mem_map.2 ⟨n, mem, rfl⟩)
    cases text
    exact exists_ofEntry_idle known empty
  | @comparator c v membership empty =>
    refine ⟨[⟨c, v⟩], rfl, fun c mem => ?_⟩
    rw [List.mem_singleton.1 mem]
    exact ⟨membership, empty⟩

namespace Filter

variable {P : Value → Prop} {entries : List (Value × Value)}

theorem exists_ofEntries_idle (each : ∀ e ∈ entries, P e.1 ∧ e.2.AsksNothing) :
    ∃ pairs, ofEntries entries = .ok pairs ∧ ∀ p ∈ pairs, P p.1 ∧ p.2.IsIdle := by
  induction entries with
  | nil => exact ⟨[], rfl, by simp⟩
  | cons e entries ih =>
    obtain ⟨⟨valid, nothing⟩, others⟩ := List.forall_mem_cons.1 each
    obtain ⟨cs, read, idle⟩ := Comparator.exists_ofSpec_idle nothing
    obtain ⟨pairs, readOthers, rest⟩ := ih others
    refine ⟨cs.map (e.1, ·) ++ pairs, ?_, ?_⟩
    · rw [ofEntries, read, readOthers]
      rfl
    · refine List.forall_mem_append.2 ⟨fun p mem => ?_, rest⟩
      obtain ⟨c, inside, rfl⟩ := List.mem_map.1 mem
      exact ⟨valid, idle c inside⟩

/-- A filter that asks nothing of any of its fields is answered with conditions that say nothing. -/
theorem exists_made_idle {make : Value × Comparator → Result FieldCondition}
    (made : ∀ p, P p.1 → p.2.IsIdle → ∃ c, make p = .ok c ∧ c.isIdle = true)
    (each : ∀ e ∈ entries, P e.1 ∧ e.2.AsksNothing) :
    ∃ cs, (ofEntries entries >>= (·.mapM make)) = .ok cs ∧ ∀ c ∈ cs, c.isIdle = true := by
  obtain ⟨pairs, read, idle⟩ := exists_ofEntries_idle each
  obtain ⟨cs, all, nothing⟩ := Result.exists_mapM_eq_ok fun p mem =>
    made p (idle p mem).1 (idle p mem).2
  exact ⟨cs, Result.bind_eq_ok.2 ⟨pairs, read, all⟩, nothing⟩

end Filter
end BoundQuery
