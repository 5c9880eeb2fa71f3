import BoundQuery.GraphQuery.Pattern
import BoundQuery.Proofs.Placeholder.Renumber
import BoundQuery.Proofs.Result

/-!
# Inscriptions of patterns

A pattern shows an inscription when it is the text of the inscription and carries the values of its
names. Two patterns are twins when they show one inscription under different numbers. Both pass from
the elements of a path to the path.

## Main definitions

* `Pattern.Shows` — a pattern and the inscription it comes from.
* `Pattern.Twins` — two patterns that are the same up to the numbers of their names.

## Main statements

* `Pattern.Twins.concat` — paths of twins are twins.
-/

namespace BoundQuery

namespace Pattern

variable {p q p' q' : Pattern} {I J : Inscription}

structure Shows (p : Pattern) (I : Inscription) : Prop where
  text : p.text = I.written
  params : p.params = Bindings.merge [] I.bindings

theorem shows_empty : Shows empty [] :=
  ⟨rfl, rfl⟩

theorem Shows.append (left : p.Shows I) (right : q.Shows J) : (p.append q).Shows (I ++ J) where
  text := by simp [Pattern.append, left.text, right.text]
  params := by
    rw [Inscription.bindings_append, Bindings.merge_append, ← left.params, Pattern.append,
      right.params, Bindings.merge_gathered]

/-- Patterns that show one inscription, of which `Q` holds, when the numbers of the second are those
of the first under `f`. -/
def Twins (Q : Inscription → Prop) (f : Nat → Nat) (p p' : Pattern) : Prop :=
  ∃ I, Q I ∧ p.Shows I ∧ p'.Shows (I.renumber f)

variable {Q R : Inscription → Prop} {f : Nat → Nat}

theorem Twins.mono (h : Twins Q f p p') (le : ∀ I, Q I → R I) : Twins R f p p' := by
  obtain ⟨I, holds, left, right⟩ := h
  exact ⟨I, le I holds, left, right⟩

theorem Twins.append (closed : ∀ I J, Q I → Q J → Q (I ++ J)) (first : Twins Q f p p')
    (second : Twins Q f q q') : Twins Q f (p.append q) (p'.append q') := by
  obtain ⟨I, hI, left, right⟩ := first
  obtain ⟨J, hJ, left', right'⟩ := second
  refine ⟨I ++ J, closed I J hI hJ, left.append left', ?_⟩
  rw [Inscription.renumber_append]
  exact right.append right'

theorem Twins.foldl_append (closed : ∀ I J, Q I → Q J → Q (I ++ J)) {ps qs : List Pattern}
    (each : List.Forall₂ (Twins Q f) ps qs) (first : Twins Q f p p') :
    Twins Q f (ps.foldl Pattern.append p) (qs.foldl Pattern.append p') := by
  induction each generalizing p p' with
  | nil => exact first
  | cons head _ ih => exact ih (first.append closed head)

theorem Twins.concat (nil : Q []) (closed : ∀ I J, Q I → Q J → Q (I ++ J)) {ps qs : List Pattern}
    (each : List.Forall₂ (Twins Q f) ps qs) : Twins Q f (concat ps) (concat qs) :=
  Twins.foldl_append closed each ⟨[], nil, shows_empty, shows_empty⟩

end Pattern
end BoundQuery
