import BoundQuery.Marker
import BoundQuery.Proofs.Placeholder.Bindings
import BoundQuery.Proofs.Result
import BoundQuery.Statement.Query

/-!
# Templates with other values

Two templates are alike when they have the same pieces of text and related values in their slots.
They are filled with the same placeholders: which one is written depends on how many values have
been added before, and not on what the values are.

Throughout, `R` says which values stand for each other. Nothing is asked of it.

## Main definitions

* `Keyed` — two entries with the same key and related values.
* `Template.Alike`, `Bindings.Alike` — the same text or names, and related values.

## Main statements

* `Template.Alike.fill` — alike templates are filled with the same text.
-/

namespace BoundQuery

/-- Two entries with the same key and related values. -/
structure Keyed {κ α : Type} (R : α → α → Prop) (e f : κ × α) : Prop where
  key : e.1 = f.1
  value : R e.2 f.2

/-! ## Templates -/

inductive Piece.Alike (R : Value → Value → Prop) : Piece → Piece → Prop
  | text (s : Str) : Alike R (.text s) (.text s)
  | slot {v w : Value} (related : R v w) : Alike R (.slot v) (.slot w)

namespace Template

/-- The same pieces of text, and related values in the slots. -/
abbrev Alike (R : Value → Value → Prop) : Template → Template → Prop :=
  List.Forall₂ (Piece.Alike R)

variable {R : Value → Value → Prop} {s t : Template} {vs ws : List Value}

theorem alike_text (text : Str) (h : s.Alike R t) : Alike R (.text text :: s) (.text text :: t) :=
  .cons (.text text) h

theorem alike_slots (separator : Str) (h : List.Forall₂ R vs ws) :
    Alike R (slots separator vs) (slots separator ws) := by
  induction h with
  | nil => exact .nil
  | cons first rest ih =>
    cases rest with
    | nil => exact .cons (.slot first) .nil
    | cons _ _ => exact .cons (.slot first) (alike_text separator ih)

theorem alike_join (separator : Str) {ss ts : List Template} (h : List.Forall₂ (Alike R) ss ts) :
    Alike R (join separator ss) (join separator ts) := by
  induction h with
  | nil => exact .nil
  | cons first rest ih =>
    cases rest with
    | nil => exact first
    | cons _ _ => exact List.rel_append first (alike_text separator ih)

theorem alike_weave (pieces : List (List Chr)) (h : List.Forall₂ R vs ws) :
    Alike R (weave pieces vs) (weave pieces ws) := by
  induction pieces generalizing vs ws with
  | nil => exact .nil
  | cons piece pieces ih =>
    cases h with
    | nil => exact alike_text _ .nil
    | cons first rest => exact alike_text _ (.cons (.slot first) (ih rest))

theorem Alike.values (h : s.Alike R t) : List.Forall₂ R s.values t.values := by
  induction h with
  | nil => exact .nil
  | cons first _ ih =>
    cases first with
    | text text => exact ih
    | slot related => exact .cons related ih

/-- Stores that write the same placeholder, whatever value they are given, write the same text. -/
theorem Alike.fill {σ : Type} {mint : Value → σ → Str × σ} {S : σ → σ → Prop}
    (minted : ∀ v w p q, R v w → S p q → (mint v p).1 = (mint w q).1 ∧ S (mint v p).2 (mint w q).2)
    (h : s.Alike R t) {p q : σ} (start : S p q) :
    (s.fill mint p).1 = (t.fill mint q).1 ∧ S (s.fill mint p).2 (t.fill mint q).2 := by
  induction h generalizing p q with
  | nil => exact ⟨rfl, start⟩
  | cons first _ ih =>
    cases first with
    | text text =>
      obtain ⟨rest, stores⟩ := ih start
      exact ⟨congrArg (text ++ ·) rest, stores⟩
    | slot related =>
      obtain ⟨placeholder, next⟩ := minted _ _ p q related start
      obtain ⟨rest, stores⟩ := ih next
      exact ⟨congrArg₂ (· ++ ·) placeholder rest, stores⟩

end Template

theorem Marker.agree_template {R : Value → Value → Prop} {vs ws : List Value} (marker : List Chr)
    (fragment : Text) (h : List.Forall₂ R vs ws) :
    Result.Agree (Template.Alike R) (template marker fragment vs)
      (template marker fragment ws) := by
  refine Result.agree_bind_same fun pieces => ?_
  rw [h.length_eq]
  split
  · exact .ok (Template.alike_weave pieces h)
  · exact .error _ _

/-! ## Numbered values -/

/-- The same text, and related values in the same order. -/
structure SqlQuery.Alike (R : Value → Value → Prop) (x y : SqlQuery) : Prop where
  text : x.text = y.text
  params : List.Forall₂ R x.params y.params

theorem SqlQuery.alike_ofTemplate {R : Value → Value → Prop} {s t : Template} (h : s.Alike R t) :
    Alike R (ofTemplate s) (ofTemplate t) where
  text := by
    have minted : ∀ (v w : Value) (p q : Positional), R v w → p.values.length = q.values.length →
        (Positional.add v p).1 = (Positional.add w q).1 ∧
          (Positional.add v p).2.values.length = (Positional.add w q).2.values.length := by
      intro v w p q _ same
      exact ⟨by simp [Positional.add, same], by simp [Positional.add, same]⟩
    exact (h.fill minted (p := {}) (q := {}) rfl).1
  params := by simpa using h.values

/-! ## Named values -/

namespace Bindings

/-- The same names in the same order, and related values. -/
abbrev Alike (R : Value → Value → Prop) : Bindings → Bindings → Prop :=
  List.Forall₂ (Keyed R)

variable {R : Value → Value → Prop} {a b c d : Bindings} {v w : Value}

theorem alike_put (name : Str) (related : R v w) (h : a.Alike R b) :
    Alike R (put name v a) (put name w b) := by
  induction h with
  | nil => exact .cons ⟨rfl, related⟩ .nil
  | @cons e f a b first rest ih =>
    obtain ⟨n, x⟩ := e
    obtain ⟨m, y⟩ := f
    obtain ⟨same, value⟩ := first
    cases same
    by_cases here : n = name
    · subst here
      rw [put_cons_self, put_cons_self]
      exact .cons ⟨rfl, related⟩ rest
    · rw [put_cons_of_ne here, put_cons_of_ne here]
      exact .cons ⟨rfl, value⟩ ih

theorem Alike.merge (left : a.Alike R b) (right : c.Alike R d) :
    Alike R (a.merge c) (b.merge d) := by
  induction right generalizing a b with
  | nil => exact left
  | @cons e f c d first _ ih =>
    obtain ⟨n, x⟩ := e
    obtain ⟨m, y⟩ := f
    obtain ⟨same, value⟩ := first
    cases same
    exact ih (alike_put n value left)

end Bindings

/-- Stores that count the same, with the same names. -/
structure Named.Alike (R : Value → Value → Prop) (p q : Named) : Prop where
  counter : p.counter = q.counter
  values : p.values.Alike R q.values

theorem Named.alike_fill {R : Value → Value → Prop} {s t : Template} {p q : Named}
    (h : s.Alike R t) (start : p.Alike R q) :
    (p.fill s).1 = (q.fill t).1 ∧ (p.fill s).2.Alike R (q.fill t).2 := by
  refine h.fill (S := Named.Alike R) ?_ start
  intro v w p q related same
  obtain ⟨counter, values⟩ := same
  simp only [add, addNamed, generateName, counter, true_and]
  exact ⟨rfl, Bindings.alike_put _ related values⟩

end BoundQuery
