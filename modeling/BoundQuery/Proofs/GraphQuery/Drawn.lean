import BoundQuery.Proofs.Condition.Values
import BoundQuery.Proofs.GraphQuery.Making

/-!
# Patterns in clauses

A call that places a pattern makes it from its own arguments: a literal of the caller, a raw
fragment, an expression to unwind, an assignment or a count. Each comes down to a clean sketch that
binds the values of the call under its stem.

## Main definitions

* `Call.values`, `Call.stem` — the values that a call binds and the stem of their names.
* `Call.CallerTextIsClean` — what is asked of patterns, expressions and fragments of the caller.
* `IsDrawn` — work that makes the pattern of a clean sketch for some values.
-/

namespace BoundQuery.GraphQuery

/-! ## What a call binds -/

namespace Call

/-- The values that a call binds when it is accepted, in the order of their numbers. -/
def values : Call → List Value
  | condition _ values | assign _ values => values.elementsOrNone.toOption.getD []
  | compare _ _ operator operand => ((Operator.ofValue? operator).map (·.bound operand)).getD []
  | shorthand s _ _ operand => s.operator.bound operand
  | filters _ mapping => Filter.bound (mapping.items.toOption.getD [])
  | unwind (.text _) _ => []
  | unwind items _ => [.list (items.elements.toOption.getD [])]
  | setProperty _ _ value => [value]
  | setProperties _ properties => properties.toMapping.toOption.toList
  | skip count | limit count => [count]
  | matching _ | optionalMatching _ | create _ | merge _ | null _ _ | notNull _ _ | withItems _
  | returnItems _ | delete _ | detachDelete _ | orderBy _ _ => []

/-- The stem of the names that a call mints. -/
def stem : Call → Str
  | skip _ => "skip"
  | limit _ => "limit"
  | _ => Named.defaultStem

end Call

/-- A pattern that the caller has written as a text, without a dollar sign. -/
def IsLiteralPattern : Value → Prop
  | .text t => .scalar '$' ∉ t.chars
  | .pattern _ _ _ => False
  | _ => True

/-- The texts of the caller in a call hold no dollar sign, and no marker in a raw fragment has a
word character right after it. -/
def Call.CallerTextIsClean (marker : List Chr) : Call → Prop
  | .matching pattern | .optionalMatching pattern | .create pattern | .merge pattern =>
    IsLiteralPattern pattern
  | .unwind items _ => items.IsDollarFree
  | .condition fragment _ | .assign fragment _ =>
    ∀ t, fragment = .text t → Marker.IsClean .graph marker t
  | .withItems items | .returnItems items => ∀ v ∈ items, v.IsDollarFree
  | _ => True

/-! ## Patterns in clauses -/

/-- Work that makes the pattern of a clean sketch for these values. -/
def IsDrawn (m : Minting Pattern) (stem : Str) (values : List Value) : Prop :=
  ∃ s : Sketch, s.IsFor stem values ∧ m.Draws s values.length

section
variable {stem : Str} {values : List Value} {n : Nat} {x : Pattern × Nat}

theorem isFor_text {s : Str} (dollar : .scalar '$' ∉ s.toList) (stem : Str) :
    Sketch.IsFor { inscription := [.text s] } stem [] :=
  ⟨⟨dollar, trivial⟩, Inscription.all_text.2 Inscription.all_nil⟩

theorem isDrawn_text {s : Str} (dollar : .scalar '$' ∉ s.toList) (stem : Str) :
    IsDrawn (pure { text := s }) stem [] :=
  ⟨{ inscription := [.text s] }, isFor_text dollar stem, fun n => by simp [Sketch.pattern]; rfl⟩

theorem isWordChar_defaultStem : ∀ c ∈ Named.defaultStem.toList, Name.isNameChar c = true :=
  Placeholder.isWordChar_of_all (d := .graph) (by decide)

theorem isDrawn_fill {t : Template} (clean : t.IsClean .graph) :
    IsDrawn (Minting.fill t) Named.defaultStem t.values := by
  refine ⟨_, ⟨clean.inscribe isWordChar_defaultStem 0, ?_⟩, Minting.draws_fill t⟩
  simpa using t.all_inscribe Named.defaultStem 0

theorem isDrawn_bound {before after : Str} (word : ∀ c ∈ stem.toList, Name.isNameChar c = true)
    (left : .scalar '$' ∉ before.toList) (right : .scalar '$' ∉ after.toList)
    (head : ∀ c ∈ after.toList.head?, Name.isNameChar c = false) (v : Value) :
    IsDrawn (Pattern.bound stem before v after) stem [v] := by
  have stop : Inscription.Opens .graph [.text after] :=
    Inscription.opens_text.2 ⟨head, fun _ => by simp [Inscription.Opens]⟩
  have isClean : Inscription.IsClean .graph [.text before, .name stem 1 v, .text after] :=
    ⟨left, word, stop, right, trivial⟩
  refine ⟨_, ⟨isClean, ?_⟩, Minting.draws_bound stem before v after⟩
  refine Inscription.all_text.2 (Inscription.all_name.2 ⟨⟨rfl, 0, rfl, rfl⟩, ?_⟩)
  exact Inscription.all_text.2 Inscription.all_nil

theorem IsDrawn.bind_lift {α : Type} {r : Result α} {a : α} {m : α → Minting Pattern}
    (h : r = .ok a) (drawn : IsDrawn (m a) stem values) : IsDrawn (liftM r >>= m) stem values := by
  obtain ⟨s, isFor, draws⟩ := drawn
  exact ⟨s, isFor, Minting.draws_bind_lift h draws⟩

theorem isDrawn_ofValue {v : Value} (clean : IsLiteralPattern v)
    (h : (liftM (Pattern.ofValue v) : Minting Pattern).run n = .ok x) :
    IsDrawn (liftM (Pattern.ofValue v)) stem [] := by
  have found := (Minting.lift_eq_ok h).1
  rw [found]
  unfold Pattern.ofValue at found
  split at found
  · exact absurd clean (by simp [IsLiteralPattern])
  · split at found
    · cases found
    · have text := Except.ok.inj found
      rw [← text]
      exact isDrawn_text (Text.dollar_notMem_shown clean) stem
  · cases found

theorem dollar_notMem_of_plain {context : Str} {v : Value} {t : Text}
    (h : Name.plain context v = .ok t) : .scalar '$' ∉ t.shown.toList :=
  Text.dollar_notMem_shown (Name.dollar_notMem_of_isPlain (Name.gate_eq_ok h).2)

theorem isDrawn_unwound {items identifier : Value} (clean : items.IsDollarFree)
    (h : (unwound items identifier).run n = .ok x) :
    IsDrawn (unwound items identifier) Named.defaultStem (Call.unwind items identifier).values := by
  obtain ⟨name, named, h⟩ := Minting.exists_of_bind_lift h
  refine IsDrawn.bind_lift named ?_
  have shownName := dollar_notMem_of_plain named
  have close : .scalar '$' ∉ (" AS " ++ name.shown).toList := by simpa using shownName
  have head : ∀ c ∈ (" AS " ++ name.shown).toList.head?, Name.isNameChar c = false := by
    simp
    decide
  have listed {xs : List Value} (h : items.elements = .ok xs) :
      IsDrawn (Pattern.bound Named.defaultStem "UNWIND " (.list xs) (" AS " ++ name.shown))
        Named.defaultStem [.list (items.elements.toOption.getD [])] := by
    rw [h]
    exact isDrawn_bound isWordChar_defaultStem (by decide) close head (.list xs)
  cases items with
  | text t =>
    have shown := Text.dollar_notMem_shown clean
    exact isDrawn_text (by simp [shown, shownName]) _
  | _ =>
    obtain ⟨xs, found, _⟩ := Minting.exists_of_bind_lift h
    exact IsDrawn.bind_lift found (listed found)

theorem isDrawn_rawPattern {marker : List Chr} {fragment vs : Value}
    (clean : ∀ t, fragment = .text t → Marker.IsClean .graph marker t)
    (h : (rawPattern marker fragment vs).run n = .ok x) :
    IsDrawn (rawPattern marker fragment vs) Named.defaultStem
      (vs.elementsOrNone.toOption.getD []) := by
  cases fragment with
  | text t =>
    unfold rawPattern at h ⊢
    dsimp only at h ⊢
    split at h
    · cases h
    · next given =>
      obtain ⟨xs, listed, h⟩ := Minting.exists_of_bind_lift h
      obtain ⟨template, made, h⟩ := Minting.exists_of_bind_lift h
      obtain ⟨pieces, _, count, rfl⟩ := Marker.template_eq_ok made
      have values : (Template.weave pieces xs).values = xs := Template.values_weave count
      have drawn := isDrawn_fill ((clean t rfl).template made)
      rw [if_neg given, listed]
      refine IsDrawn.bind_lift rfl (IsDrawn.bind_lift made ?_)
      rwa [values] at drawn
  | _ => cases h

/-- A property that is set to a bound value. -/
def propertyAssignment (identifier property v : Value) : Minting Pattern := do
  Pattern.bound Named.defaultStem ((← propertyRef identifier property) ++ " = ") v ""

theorem isDrawn_propertyAssignment {identifier property v : Value}
    (h : (propertyAssignment identifier property v).run n = .ok x) :
    IsDrawn (propertyAssignment identifier property v) Named.defaultStem [v] := by
  obtain ⟨ref, found, _⟩ := Minting.exists_of_bind_lift h
  refine IsDrawn.bind_lift found ?_
  obtain ⟨name, named, found⟩ := Result.bind_eq_ok.1 found
  obtain ⟨key, keyed, text⟩ := Result.bind_eq_ok.1 found
  cases text
  have left := dollar_notMem_of_plain named
  have right := dollar_notMem_of_plain keyed
  exact isDrawn_bound isWordChar_defaultStem (by simp [left, right]) (by decide) (by simp) v

theorem isDrawn_assignedProperties {identifier properties : Value}
    (h : (assignedProperties identifier properties).run n = .ok x) :
    IsDrawn (assignedProperties identifier properties) Named.defaultStem
      properties.toMapping.toOption.toList := by
  unfold assignedProperties at h ⊢
  simp only [Minting.mapM_lift] at h ⊢
  obtain ⟨xs, listed, h⟩ := Minting.exists_of_bind_lift h
  obtain ⟨keys, read, h⟩ := Minting.exists_of_bind_lift h
  obtain ⟨name, named, h⟩ := Minting.exists_of_bind_lift h
  obtain ⟨mapping, mapped, h⟩ := Minting.exists_of_bind_lift h
  have shownName := dollar_notMem_of_plain named
  rw [listed, named, mapped]
  refine IsDrawn.bind_lift rfl (IsDrawn.bind_lift read (IsDrawn.bind_lift rfl
    (IsDrawn.bind_lift rfl ?_)))
  exact isDrawn_bound isWordChar_defaultStem (by simp [shownName]) (by decide) (by simp) mapping

theorem isDrawn_counted {what keyword : Str} {count : Value}
    (word : ∀ c ∈ what.toList, Name.isNameChar c = true) (dollar : .scalar '$' ∉ keyword.toList)
    (h : (counted what keyword count).run n = .ok x) :
    IsDrawn (counted what keyword count) what [count] := by
  obtain ⟨i, checked, _⟩ := Minting.exists_of_bind_lift h
  refine IsDrawn.bind_lift checked ?_
  rw [(checkCount_eq_ok checked).1]
  exact isDrawn_bound word dollar (by decide) (by simp) (.int i)

end

end BoundQuery.GraphQuery
