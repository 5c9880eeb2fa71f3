import BoundQuery.GraphQuery.Basic
import BoundQuery.Proofs.Alike.Condition
import BoundQuery.Proofs.GraphQuery.Minting

/-!
# Patterns with other values

A node or a relationship shows the keys of its properties, but binds their values as one mapping. So
two calls with the same keys make patterns with the same text, the same names, and related mappings
under them.

## Main definitions

* `Pattern.Alike` — the same text and names, with related values.
* `PropertiesAlike` — properties with the same keys.
* `GraphQuery.Making.Alike` — calls that make alike patterns.

## Main statements

* `GraphQuery.Making.Alike.agree_run` — they do, or both are turned down.
-/

namespace BoundQuery

section
variable (R : Value → Value → Prop)

/-- The same text, the same names, and related values. -/
structure Pattern.Alike (p q : Pattern) : Prop where
  text : p.text = q.text
  identifiers : p.identifiers = q.identifiers
  params : p.params.Alike R q.params

/-- Mappings with the same keys that are related as a whole, which is how they are bound. What is no
mapping of its own stays as it is. -/
inductive PropertiesAlike : Value → Value → Prop
  | mapping {es fs : List (Value × Value)} (keys : es.map Prod.fst = fs.map Prod.fst)
      (related : R (.map es) (.map fs)) : PropertiesAlike (.map es) (.map fs)
  | other {v : Value} (bound : ∀ mapping, v.toMapping = .ok mapping → R mapping mapping) :
      PropertiesAlike v v

/-- Patterns with the same text and names, or the same other value. -/
inductive PatternsAlike : Value → Value → Prop
  | pattern (text : Str) (identifiers : List Text) {a b : Bindings} (params : a.Alike R b) :
      PatternsAlike (.pattern text identifiers a) (.pattern text identifiers b)
  | other {v : Value} (noPattern : ∀ p : Pattern, v ≠ p.toValue) : PatternsAlike v v

/-- The same call with alike properties, or with alike elements of a path. -/
inductive GraphQuery.Making.Alike : Making → Making → Prop
  | node (identifier labels : Value) {v w : Value} (properties : PropertiesAlike R v w) :
      Alike (.node identifier labels v) (.node identifier labels w)
  | relationship (identifier type direction : Value) {v w : Value}
      (properties : PropertiesAlike R v w) :
      Alike (.relationship identifier type v direction) (.relationship identifier type w direction)
  | path {v w : Value}
      (elements : Result.Agree (List.Forall₂ (PatternsAlike R)) v.elements w.elements) :
      Alike (.path v) (.path w)

end

variable {R : Value → Value → Prop}

/-! ## Work that binds values -/

namespace Minting

theorem agree_fill {s t : Template} (h : s.Alike R t) :
    Agree (Pattern.Alike R) (fill s) (fill t) := by
  intro n
  have start : Named.Alike R ({ counter := n } : Named) { counter := n } := ⟨rfl, .nil⟩
  obtain ⟨text, stores⟩ := Named.alike_fill h start
  exact ⟨.ok ⟨text, rfl, stores.values⟩, stores.counter⟩

theorem agree_name (stem : Str) : Agree Eq (name stem) (name stem) :=
  fun _ => ⟨.ok rfl, rfl⟩

theorem agree_bound (stem before after : Str) {v w : Value} (related : R v w) :
    Agree (Pattern.Alike R) (Pattern.bound stem before v after)
      (Pattern.bound stem before w after) := by
  refine (agree_name stem).bind fun word _ same => ?_
  cases same
  exact agree_pure ⟨rfl, rfl, .cons ⟨rfl, related⟩ .nil⟩

end Minting

namespace PropertiesAlike

variable {v w : Value}

theorem isTruthy_eq (h : PropertiesAlike R v w) : v.isTruthy = w.isTruthy := by
  cases h with
  | @mapping es fs keys related => cases es <;> cases fs <;> first | rfl | cases keys
  | other bound => rfl

theorem agree_elements (h : PropertiesAlike R v w) : Result.Agree Eq v.elements w.elements := by
  cases h with
  | mapping keys related => exact .ok keys
  | other bound => exact Result.agree_eq _

theorem agree_toMapping (h : PropertiesAlike R v w) : Result.Agree R v.toMapping w.toMapping := by
  cases h with
  | mapping keys related => exact .ok related
  | other bound =>
    cases mapped : v.toMapping with
    | ok mapping => exact .ok (bound mapping mapped)
    | error fault => exact .error _ _

end PropertiesAlike

namespace Pattern

variable {p q p' q' : Pattern}

theorem agree_properties (stem : Str) {v w : Value} (h : PropertiesAlike R v w) :
    Minting.Agree (fun x y => x.1 = y.1 ∧ Bindings.Alike R x.2 y.2) (properties stem v)
      (properties stem w) := by
  unfold properties
  rw [h.isTruthy_eq]
  split
  · refine (Minting.agree_lift h.agree_elements).bind fun xs _ same => ?_
    cases same
    rw [Minting.mapM_lift]
    refine Minting.agree_bind_same fun keys => ?_
    refine (Minting.agree_lift h.agree_toMapping).bind fun mapping mapping' related => ?_
    refine (Minting.agree_name stem).bind fun word _ same => ?_
    cases same
    exact Minting.agree_pure ⟨rfl, .cons ⟨rfl, related⟩ .nil⟩
  · exact Minting.agree_pure ⟨rfl, .nil⟩

theorem agree_node (identifier labels : Value) {v w : Value} (h : PropertiesAlike R v w) :
    Minting.Agree (Alike R) (node identifier labels v) (node identifier labels w) := by
  refine Minting.agree_bind_same fun name => Minting.agree_bind_same fun listed => ?_
  rw [Minting.mapM_lift]
  refine Minting.agree_bind_same fun texts => (agree_properties "props" h).bind fun x y same => ?_
  obtain ⟨written, params⟩ := x
  obtain ⟨written', params'⟩ := y
  obtain ⟨same, related⟩ := same
  cases same
  exact Minting.agree_pure ⟨rfl, rfl, related⟩

theorem agree_relationship (identifier type direction : Value) {v w : Value}
    (h : PropertiesAlike R v w) :
    Minting.Agree (Alike R) (relationship identifier type v direction)
      (relationship identifier type w direction) := by
  refine Minting.agree_bind_same fun d => Minting.agree_bind_same fun name => ?_
  refine Minting.agree_bind_same fun kind => (agree_properties "relProps" h).bind fun x y same => ?_
  obtain ⟨written, params⟩ := x
  obtain ⟨written', params'⟩ := y
  obtain ⟨same, related⟩ := same
  cases same
  exact Minting.agree_pure ⟨rfl, rfl, related⟩

/-! ## Patterns as values -/

theorem Alike.append (left : p.Alike R q) (right : p'.Alike R q') :
    (p.append p').Alike R (q.append q') where
  text := congrArg₂ (· ++ ·) left.text right.text
  identifiers := congrArg₂ addNames left.identifiers right.identifiers
  params := left.params.merge right.params

theorem alike_concat {ps qs : List Pattern} (h : List.Forall₂ (Alike R) ps qs) :
    (concat ps).Alike R (concat qs) :=
  List.rel_foldl (fun _ _ made _ _ next => made.append next) ⟨rfl, rfl, .nil⟩ h

theorem patternsAlike_toValue (h : p.Alike R q) : PatternsAlike R p.toValue q.toValue := by
  obtain ⟨text, identifiers, params⟩ := p
  obtain ⟨text', identifiers', params'⟩ := q
  obtain ⟨same, same', related⟩ := h
  cases same
  cases same'
  exact .pattern text identifiers related

theorem agree_ofValue {v w : Value} (h : PatternsAlike R v w) :
    Result.Agree (Alike R) (ofValue v) (ofValue w) := by
  cases h with
  | pattern text identifiers params =>
    unfold ofValue
    dsimp only
    split
    · exact .error _ _
    · exact .ok ⟨rfl, rfl, params⟩
  | other noPattern =>
    unfold ofValue
    split
    · exact absurd rfl (noPattern ⟨_, _, _⟩)
    · split
      · exact .error _ _
      · exact .ok ⟨rfl, rfl, .nil⟩
    · exact .error _ _

theorem agree_ofPathElement {v w : Value} (h : PatternsAlike R v w) :
    Result.Agree (Alike R) (ofPathElement v) (ofPathElement w) := by
  cases h with
  | pattern text identifiers params => exact .ok ⟨rfl, rfl, params⟩
  | other noPattern =>
    unfold ofPathElement
    split
    · exact absurd rfl (noPattern ⟨_, _, _⟩)
    · exact .error _ _

end Pattern

theorem GraphQuery.Making.Alike.agree_run {m m' : Making} (h : m.Alike R m') :
    Minting.Agree (Pattern.Alike R) m.run m'.run := by
  cases h with
  | node identifier labels properties => exact Pattern.agree_node identifier labels properties
  | relationship identifier type direction properties =>
    exact Pattern.agree_relationship identifier type direction properties
  | path elements =>
    refine Minting.agree_lift (elements.bind fun xs ys each => ?_)
    refine (Result.agree_mapM each fun _ _ => Pattern.agree_ofPathElement).bind fun ps qs same => ?_
    exact .ok (Pattern.alike_concat same)

end BoundQuery
