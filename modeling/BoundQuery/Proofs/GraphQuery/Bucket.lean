import BoundQuery.GraphQuery.Basic

/-!
# Buckets

A graph query collects each kind of clause in a bucket of its own. An edit goes into one bucket and
leaves the others alone. Most buckets keep everything in the order of the calls; the two slots keep
only what was put into them last.

## Main statements

* `collected_foldl_apply` — what edits leave in a bucket: those for other buckets do not matter.
-/

namespace BoundQuery.GraphQuery

inductive Bucket where
  | patterns (clause : PatternClause)
  | withItems
  | returnItems
  | deletes
  | detachDeletes
  | orders
  | skip
  | limit
  deriving DecidableEq

namespace Bucket

/-- Whether a bucket keeps only what was put into it last. -/
def isSlot : Bucket → Bool
  | skip | limit => true
  | _ => false

/-- What a bucket holds after an edit that goes into it. -/
def put (b : Bucket) (held : List Edit) (e : Edit) : List Edit :=
  if b.isSlot then [e] else held ++ [e]

theorem mem_foldl_put {b : Bucket} {edits held : List Edit} {e : Edit}
    (h : e ∈ edits.foldl b.put held) : e ∈ held ∨ e ∈ edits := by
  induction edits generalizing held with
  | nil => exact Or.inl h
  | cons first rest ih =>
    rcases ih h with inPut | inRest
    · unfold put at inPut
      split at inPut
      · exact Or.inr (List.mem_singleton.1 inPut ▸ List.mem_cons_self)
      · rcases List.mem_append.1 inPut with before | here
        · exact Or.inl before
        · exact Or.inr (List.mem_singleton.1 here ▸ List.mem_cons_self)
    · exact Or.inr (List.mem_cons_of_mem _ inRest)

end Bucket

/-- The bucket that an edit goes into. -/
def Edit.bucket : Edit → Bucket
  | .place clause _ => .patterns clause
  | .withItem _ => .withItems
  | .returnItem _ => .returnItems
  | .delete _ => .deletes
  | .detachDelete _ => .detachDeletes
  | .order _ => .orders
  | .skip _ => .skip
  | .limit _ => .limit

/-- The bucket that a call adds to. -/
def Call.bucket : Call → Bucket
  | matching _ => .patterns .matching
  | optionalMatching _ => .patterns .optional
  | create _ => .patterns .create
  | merge _ => .patterns .merge
  | unwind _ _ => .patterns .unwind
  | condition _ _ | compare _ _ _ _ | shorthand _ _ _ _ | null _ _ | notNull _ _ | filters _ _ =>
    .patterns .condition
  | assign _ _ | setProperty _ _ _ | setProperties _ _ => .patterns .assign
  | withItems _ => .withItems
  | returnItems _ => .returnItems
  | delete _ => .deletes
  | detachDelete _ => .detachDeletes
  | orderBy _ _ => .orders
  | skip _ => .skip
  | limit _ => .limit

/-- What a query holds in a bucket, as the edits that put it there. -/
def collected (q : GraphQuery) : Bucket → List Edit
  | .patterns clause => (q.patterns clause).map (.place clause)
  | .withItems => q.withItems.map .withItem
  | .returnItems => q.returnItems.map .returnItem
  | .deletes => q.deletes.map .delete
  | .detachDeletes => q.detachDeletes.map .detachDelete
  | .orders => q.orders.map .order
  | .skip => q.skip.toList.map .skip
  | .limit => q.limit.toList.map .limit

theorem collected_apply (q : GraphQuery) (e : Edit) (b : Bucket) :
    (q.apply e).collected b =
      if e.bucket = b then b.put (q.collected b) e else q.collected b := by
  cases e with
  | place clause p =>
    cases b with
    | patterns other =>
      by_cases same : clause = other
      · subst same
        simp [apply, collected, Edit.bucket, Bucket.put, Bucket.isSlot]
      · simp [apply, collected, Edit.bucket, same, Ne.symm same]
    | _ => simp [apply, collected, Edit.bucket]
  | _ => cases b <;> simp [apply, collected, Edit.bucket, Bucket.put, Bucket.isSlot]

variable {edits : List Edit} {q : GraphQuery} {b : Bucket}

theorem collected_foldl_apply (edits : List Edit) (q : GraphQuery) (b : Bucket) :
    (edits.foldl apply q).collected b =
      (edits.filter (·.bucket = b)).foldl b.put (q.collected b) := by
  induction edits generalizing q with
  | nil => rfl
  | cons e edits ih =>
    rw [List.foldl_cons, ih, collected_apply, List.filter_cons]
    by_cases same : e.bucket = b
    · simp [same]
    · simp [same]

theorem collected_foldl_of_ne (h : ∀ e ∈ edits, e.bucket ≠ b) :
    (edits.foldl apply q).collected b = q.collected b := by
  have none : edits.filter (·.bucket = b) = [] := by simpa using h
  rw [collected_foldl_apply, none, List.foldl_nil]

theorem collected_foldl_of_eq (h : ∀ e ∈ edits, e.bucket = b) :
    (edits.foldl apply q).collected b = edits.foldl b.put (q.collected b) := by
  have all : edits.filter (·.bucket = b) = edits := by simpa using h
  rw [collected_foldl_apply, all]

theorem mem_collected_foldl {e : Edit} (h : e ∈ (edits.foldl apply q).collected b) :
    e ∈ q.collected b ∨ e ∈ edits ∧ e.bucket = b := by
  rw [collected_foldl_apply] at h
  exact (Bucket.mem_foldl_put h).imp_right fun new => by simpa using new

/-- Edits neither take numbers nor change the configuration. -/
theorem foldl_apply_fixed (edits : List Edit) (q : GraphQuery) :
    (edits.foldl apply q).counter = q.counter ∧ (edits.foldl apply q).config = q.config := by
  induction edits generalizing q with
  | nil => exact ⟨rfl, rfl⟩
  | cons e edits ih =>
    have first : (q.apply e).counter = q.counter ∧ (q.apply e).config = q.config := by
      cases e <;> exact ⟨rfl, rfl⟩
    exact ⟨(ih _).1.trans first.1, (ih _).2.trans first.2⟩

end BoundQuery.GraphQuery
