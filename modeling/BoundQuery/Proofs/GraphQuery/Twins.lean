import BoundQuery.Proofs.GraphQuery.Draft

/-!
# Twins

A draft gives twins at any two counters: the same edits, under different numbers. Buckets stay twins
when twins go into them.

## Main definitions

* `IsPiece`, `IsLink` — inscriptions that can be pieces of a query, and of a path.
* `Edit.Twins` — edits that are the same up to numbers.

## Main statements

* `Draft.IsFor.twins` — the edits of a draft at two counters.
-/

namespace BoundQuery

/-- An inscription that can be a piece of a query; `P` holds of each of its names. -/
structure IsPiece (P : Str → Nat → Value → Prop) (I : Inscription) : Prop where
  isClean : I.IsClean .graph
  all : I.All P

/-- An inscription that can also stand between others in a path. -/
structure IsLink (P : Str → Nat → Value → Prop) (I : Inscription) : Prop where
  segment : Pattern.IsSegment I
  all : I.All P

variable {P R : Str → Nat → Value → Prop} {f : Nat → Nat}

theorem IsPiece.mono {I : Inscription} (h : IsPiece P I)
    (le : ∀ stem n v, P stem n v → R stem n v) :
    IsPiece R I :=
  ⟨h.isClean, h.all.mono le⟩

theorem IsLink.mono {I : Inscription} (h : IsLink P I) (le : ∀ stem n v, P stem n v → R stem n v) :
    IsLink R I :=
  ⟨h.segment, h.all.mono le⟩

theorem IsLink.isPiece {I : Inscription} (h : IsLink P I) : IsPiece P I :=
  ⟨h.segment.isClean, h.all⟩

theorem IsPiece.text {s : Str} (dollar : .scalar '$' ∉ s.toList) {I : Inscription}
    (piece : IsPiece P I) :
    IsPiece P (.text s :: I) :=
  ⟨⟨dollar, piece.isClean⟩, Inscription.all_text.2 piece.all⟩

theorem isPiece_nil : IsPiece P [] :=
  ⟨trivial, Inscription.all_nil⟩

theorem isPiece_join {separator : Str} (apart : Template.IsSeparator .graph separator)
    {Is : List Inscription} (pieces : ∀ I ∈ Is, IsPiece P I) :
    IsPiece P (Inscription.join separator Is) :=
  ⟨Inscription.isClean_join apart fun I mem => (pieces I mem).isClean,
    Inscription.all_join fun I mem => (pieces I mem).all⟩

theorem isLink_nil : IsLink P [] :=
  ⟨Pattern.isSegment_nil, Inscription.all_nil⟩

theorem IsLink.append {I J : Inscription} (left : IsLink P I) (right : IsLink P J) :
    IsLink P (I ++ J) :=
  ⟨left.segment.append right.segment, left.all.append right.all⟩

variable {stem : Str} {values : List Value} {m n : Nat}

/-- The patterns of a sketch at two counters, when `f` leads from the numbers after the one to the
numbers after the other. -/
theorem Sketch.IsFor.twins {s : Sketch} (h : s.IsFor stem values)
    (follows : ∀ i v, values[i]? = some v → P stem (m + i + 1) v ∧ f (m + i + 1) = n + i + 1)
    {Q : Inscription → Prop}
    (holds : (s.inscription.renumber (m + ·)).All P → Q (s.inscription.renumber (m + ·))) :
    (s.pattern m).Twins Q f (s.pattern n) := by
  have all : (s.inscription.renumber (m + ·)).All P := by
    refine Inscription.All.renumber (h.all.mono ?_)
    rintro word number v ⟨rfl, i, rfl, found⟩
    exact (follows i v found).1
  have same : s.inscription.renumber (f ∘ (m + ·)) = s.inscription.renumber (n + ·) := by
    refine Inscription.renumber_congr (h.all.mono ?_)
    rintro word number v ⟨rfl, i, rfl, found⟩
    exact (follows i v found).2
  refine ⟨_, holds all, s.shows_pattern m, ?_⟩
  rw [Inscription.renumber_renumber, same]
  exact s.shows_pattern n

namespace GraphQuery

/-- Edits that put the same into a query, up to the numbers of names. -/
inductive Edit.Twins (P : Str → Nat → Value → Prop) (f : Nat → Nat) : Edit → Edit → Prop
  | place {clause : PatternClause} {p q : Pattern} (h : p.Twins (IsPiece P) f q) :
    Twins P f (.place clause p) (.place clause q)
  | skip {p q : Pattern} (h : p.Twins (IsPiece P) f q) : Twins P f (.skip p) (.skip q)
  | limit {p q : Pattern} (h : p.Twins (IsPiece P) f q) : Twins P f (.limit p) (.limit q)
  | plain {e : Edit} (h : e.IsPlain) : Twins P f e e

theorem Edit.Twins.mono {e e' : Edit} (h : e.Twins P f e')
    (le : ∀ stem n v, P stem n v → R stem n v) : e.Twins R f e' := by
  cases h with
  | place twins => exact .place (twins.mono fun _ piece => piece.mono le)
  | skip twins => exact .skip (twins.mono fun _ piece => piece.mono le)
  | limit twins => exact .limit (twins.mono fun _ piece => piece.mono le)
  | plain plain => exact .plain plain

theorem Draft.IsFor.twins {d : Draft} (h : d.IsFor stem values)
    (follows : ∀ i v, values[i]? = some v → P stem (m + i + 1) v ∧ f (m + i + 1) = n + i + 1) :
    (d.edit m).Twins P f (d.edit n) := by
  have drawn {s : Sketch} (isFor : s.IsFor stem values) :
      (s.pattern m).Twins (IsPiece P) f (s.pattern n) :=
    isFor.twins follows fun all => ⟨isFor.isClean.renumber, all⟩
  cases d with
  | place clause s => exact .place (drawn h)
  | skip s => exact .skip (drawn h)
  | limit s => exact .limit (drawn h)
  | plain e => exact .plain h

/-- Buckets stay twins when twins go into them. -/
theorem Bucket.twins_foldl_put (b : Bucket) {edits edits' held held' : List Edit}
    (each : List.Forall₂ (Edit.Twins P f) edits edits')
    (before : List.Forall₂ (Edit.Twins P f) held held') :
    List.Forall₂ (Edit.Twins P f) (edits.foldl b.put held) (edits'.foldl b.put held') := by
  induction each generalizing held held' with
  | nil => exact before
  | cons first _ ih =>
    refine ih ?_
    unfold Bucket.put
    split
    · exact .cons first .nil
    · exact List.rel_append before (.cons first .nil)

end GraphQuery
end BoundQuery
