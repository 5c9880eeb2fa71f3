import BoundQuery.GraphQuery.Build
import BoundQuery.Proofs.GraphQuery.Twins

/-!
# Assembled queries

Two queries are twins when each bucket of the one holds what the same bucket of the other holds, up
to the numbers of names. What is built from twins is written from one inscription, under different
numbers.

## Main definitions

* `GraphQuery.Twins` — queries that are the same up to numbers.

## Main statements

* `GraphQuery.Twins.build` — what is built from twins.
-/

namespace BoundQuery.GraphQuery

/-- Queries whose buckets hold the same, up to the numbers of names. -/
structure Twins (P : Str → Nat → Value → Prop) (f : Nat → Nat) (q r : GraphQuery) : Prop where
  config : q.config = r.config
  collected : ∀ b, List.Forall₂ (Edit.Twins P f) (q.collected b) (r.collected b)

variable {P : Str → Nat → Value → Prop} {f : Nat → Nat}

/-! ## Inscriptions of many pieces -/

section
variable {α : Type} {S : α → Inscription → Prop} {Q : Inscription → Prop}

theorem exists_inscriptions {xs ys : List α}
    (h : List.Forall₂ (fun x y => ∃ I, Q I ∧ S x I ∧ S y (I.renumber f)) xs ys) :
    ∃ Is : List Inscription, (∀ I ∈ Is, Q I) ∧ List.Forall₂ S xs Is ∧
      List.Forall₂ S ys (Is.map (Inscription.renumber f)) := by
  induction h with
  | nil => exact ⟨[], by simp, .nil, .nil⟩
  | cons first _ ih =>
    obtain ⟨I, holds, left, right⟩ := first
    obtain ⟨Is, all, lefts, rights⟩ := ih
    exact ⟨I :: Is, List.forall_mem_cons.2 ⟨holds, all⟩, .cons left lefts, .cons right rights⟩

end

/-! ## Clauses -/

namespace Clause

/-- A clause is the text of an inscription, and its pieces carry the values of the names. -/
structure Shows (c : Clause) (I : Inscription) : Prop where
  text : c.text = I.written
  params : ∀ made : Bindings,
    c.pieces.foldl (fun made p => made.merge p.params) made = made.merge I.bindings

/-- Clauses that show one inscription under different numbers. -/
def Twins (P : Str → Nat → Value → Prop) (f : Nat → Nat) (c d : Clause) : Prop :=
  ∃ I, IsPiece P I ∧ c.Shows I ∧ d.Shows (I.renumber f)

end Clause

theorem texts_of_shows {ps : List Pattern} {Is : List Inscription}
    (h : List.Forall₂ Pattern.Shows ps Is) : ps.map (·.text) = Is.map Inscription.written := by
  rw [← List.forall₂_eq_eq_eq, List.forall₂_map_left_iff, List.forall₂_map_right_iff]
  exact h.imp fun _ _ shows => shows.text

theorem params_of_shows {ps : List Pattern} {Is : List Inscription}
    (h : List.Forall₂ Pattern.Shows ps Is) (made : Bindings) :
    ps.foldl (fun made p => made.merge p.params) made =
      made.merge (Is.flatMap Inscription.bindings) := by
  induction h generalizing made with
  | nil => rfl
  | cons shows _ ih =>
    rw [List.foldl_cons, ih, List.flatMap_cons, Bindings.merge_append, shows.params,
      Bindings.merge_gathered]

theorem shows_joined {keyword separator : Str} {ps : List Pattern} {Is : List Inscription}
    (h : List.Forall₂ Pattern.Shows ps Is) :
    Clause.Shows { text := keyword ++ Str.intercalate separator (ps.map (·.text)), pieces := ps }
      (.text keyword :: Inscription.join separator Is) where
  text := by simp [texts_of_shows h, Inscription.written_join]
  params made := by simp [params_of_shows h, Inscription.bindings_join]

variable {ps qs : List Pattern} {keyword : Str}

theorem twins_joinedPatterns {separator : Str} (dollar : .scalar '$' ∉ keyword.toList)
    (apart : Template.IsSeparator .graph separator)
    (h : List.Forall₂ (Pattern.Twins (IsPiece P) f) ps qs) :
    List.Forall₂ (Clause.Twins P f) (joinedPatterns keyword separator ps)
      (joinedPatterns keyword separator qs) := by
  obtain ⟨Is, pieces, lefts, rights⟩ := exists_inscriptions h
  have whole : Clause.Twins P f
      { text := keyword ++ Str.intercalate separator (ps.map (·.text)), pieces := ps }
      { text := keyword ++ Str.intercalate separator (qs.map (·.text)), pieces := qs } := by
    refine ⟨_, (isPiece_join apart pieces).text dollar, shows_joined lefts, ?_⟩
    rw [Inscription.renumber_text, Inscription.renumber_join]
    exact shows_joined rights
  cases h with
  | nil => exact .nil
  | cons _ _ => exact .cons whole .nil

theorem twins_eachPattern (dollar : .scalar '$' ∉ keyword.toList)
    (h : List.Forall₂ (Pattern.Twins (IsPiece P) f) ps qs) :
    List.Forall₂ (Clause.Twins P f) (eachPattern keyword ps) (eachPattern keyword qs) := by
  rw [eachPattern, eachPattern, List.forall₂_map_left_iff, List.forall₂_map_right_iff]
  refine h.imp ?_
  rintro p q ⟨I, piece, left, right⟩
  refine ⟨.text keyword :: I, piece.text dollar, ?_, ?_⟩
  · exact ⟨by simp [left.text], fun made => by simp [left.params, Bindings.merge_gathered]⟩
  · exact ⟨by simp [right.text], fun made => by simp [right.params, Bindings.merge_gathered]⟩

/-- A clause of texts is its own twin. -/
theorem twins_joinedTexts {texts : List Str} (dollar : .scalar '$' ∉ keyword.toList)
    (clean : ∀ s ∈ texts, .scalar '$' ∉ s.toList) :
    List.Forall₂ (Clause.Twins P f) (joinedTexts keyword texts) (joinedTexts keyword texts) := by
  have listed : .scalar '$' ∉ (commaSeparated texts).toList :=
    dollar_notMem_intercalate (by decide) clean
  have whole : .scalar '$' ∉ (keyword ++ commaSeparated texts).toList := by simp [dollar, listed]
  unfold joinedTexts
  split
  · exact .nil
  · refine .cons ⟨[.text (keyword ++ commaSeparated _)], isPiece_nil.text whole, ?_, ?_⟩ .nil
    · exact ⟨by simp, fun made => rfl⟩
    · exact ⟨by simp, fun made => rfl⟩

/-! ## Buckets of twins -/

namespace Twins

variable {q r : GraphQuery}

theorem patterns_of_edits {g : Pattern → Edit}
    (each : ∀ p p', Edit.Twins P f (g p) (g p') → p.Twins (IsPiece P) f p')
    (h : List.Forall₂ (Edit.Twins P f) (ps.map g) (qs.map g)) :
    List.Forall₂ (Pattern.Twins (IsPiece P) f) ps qs := by
  rw [List.forall₂_map_left_iff, List.forall₂_map_right_iff] at h
  exact h.imp each

/-- Buckets without patterns hold the very same. -/
theorem eq_of_edits {α : Type} {g : α → Edit} {xs ys : List α}
    (each : ∀ x y, Edit.Twins P f (g x) (g y) → x = y ∧ (g x).IsPlain)
    (h : List.Forall₂ (Edit.Twins P f) (xs.map g) (ys.map g)) :
    xs = ys ∧ ∀ x ∈ xs, (g x).IsPlain := by
  rw [List.forall₂_map_left_iff, List.forall₂_map_right_iff] at h
  induction h with
  | nil => exact ⟨rfl, by simp⟩
  | cons first _ ih =>
    obtain ⟨rfl, here⟩ := each _ _ first
    exact ⟨congrArg _ ih.1, List.forall_mem_cons.2 ⟨here, ih.2⟩⟩

theorem patterns (h : q.Twins P f r) (clause : PatternClause) :
    List.Forall₂ (Pattern.Twins (IsPiece P) f) (q.patterns clause) (r.patterns clause) :=
  patterns_of_edits (g := .place clause) (fun | _, _, .place same => same)
    (h.collected (.patterns clause))

theorem skips (h : q.Twins P f r) :
    List.Forall₂ (Pattern.Twins (IsPiece P) f) q.skip.toList r.skip.toList :=
  patterns_of_edits (fun | _, _, .skip same => same) (h.collected .skip)

theorem limits (h : q.Twins P f r) :
    List.Forall₂ (Pattern.Twins (IsPiece P) f) q.limit.toList r.limit.toList :=
  patterns_of_edits (fun | _, _, .limit same => same) (h.collected .limit)

theorem withItems (h : q.Twins P f r) :
    q.withItems = r.withItems ∧ ∀ v ∈ q.withItems, v.IsDollarFree :=
  eq_of_edits (fun | _, _, .plain plain => ⟨rfl, plain⟩) (h.collected .withItems)

theorem returnItems (h : q.Twins P f r) :
    q.returnItems = r.returnItems ∧ ∀ v ∈ q.returnItems, v.IsDollarFree :=
  eq_of_edits (fun | _, _, .plain plain => ⟨rfl, plain⟩) (h.collected .returnItems)

theorem deletes (h : q.Twins P f r) :
    q.deletes = r.deletes ∧ ∀ t ∈ q.deletes, .scalar '$' ∉ t.chars :=
  eq_of_edits (fun | _, _, .plain plain => ⟨rfl, plain⟩) (h.collected .deletes)

theorem detachDeletes (h : q.Twins P f r) :
    q.detachDeletes = r.detachDeletes ∧ ∀ t ∈ q.detachDeletes, .scalar '$' ∉ t.chars :=
  eq_of_edits (fun | _, _, .plain plain => ⟨rfl, plain⟩) (h.collected .detachDeletes)

theorem orders (h : q.Twins P f r) : q.orders = r.orders ∧ ∀ s ∈ q.orders, .scalar '$' ∉ s.toList :=
  eq_of_edits (fun | _, _, .plain plain => ⟨rfl, plain⟩) (h.collected .orders)

/-! ## What is built from twins -/

theorem clauses (h : q.Twins P f r) {cs : List Clause} (listed : q.clauses = .ok cs) :
    ∃ ds, r.clauses = .ok ds ∧ List.Forall₂ (Clause.Twins P f) cs ds := by
  obtain ⟨withTexts, withs, listed⟩ := Result.bind_eq_ok.1 listed
  obtain ⟨returnTexts, returns, listed⟩ := Result.bind_eq_ok.1 listed
  cases listed
  have conjunction : Template.IsSeparator .graph " AND " := Template.isSeparator_conjunction .graph
  have comma := Template.isSeparator_comma .graph
  have withs' := dollar_notMem_of_spellings withs h.withItems.2
  have returns' := dollar_notMem_of_spellings returns h.returnItems.2
  have spelled {ts : List Text} (clean : ∀ t ∈ ts, .scalar '$' ∉ t.chars) :
      ∀ s ∈ ts.map Text.spelling, .scalar '$' ∉ s.toList := by
    intro s mem
    obtain ⟨t, inTexts, rfl⟩ := List.mem_map.1 mem
    exact clean t inTexts
  rw [h.withItems.1] at withs
  rw [h.returnItems.1] at returns
  refine ⟨_, Result.bind_eq_ok.2 ⟨_, withs, Result.bind_eq_ok.2 ⟨_, returns, rfl⟩⟩, ?_⟩
  rw [← h.detachDeletes.1, ← h.deletes.1, ← h.orders.1]
  repeat' refine List.rel_append ?_ ?_
  · exact twins_eachPattern (by decide) (h.patterns .matching)
  · exact twins_eachPattern (by decide) (h.patterns .optional)
  · exact twins_eachPattern (by decide) (h.patterns .unwind)
  · exact twins_joinedPatterns (by decide) conjunction (h.patterns .condition)
  · exact twins_joinedTexts (by decide) withs'
  · exact twins_eachPattern (by decide) (h.patterns .create)
  · exact twins_eachPattern (by decide) (h.patterns .merge)
  · exact twins_joinedPatterns (by decide) comma (h.patterns .assign)
  · exact twins_joinedTexts (by decide) (spelled h.detachDeletes.2)
  · exact twins_joinedTexts (by decide) (spelled h.deletes.2)
  · exact twins_joinedTexts (by decide) returns'
  · exact twins_joinedTexts (by decide) h.orders.2
  · exact twins_eachPattern (by decide) h.skips
  · exact twins_eachPattern (by decide) h.limits

end Twins

/-- A query is the text of an inscription, and its parameters are the values of the names. -/
structure Shows (x : CypherQuery) (I : Inscription) : Prop where
  query : x.query = I.written
  params : x.params = Bindings.merge [] I.bindings

theorem params_of_clauses {cs : List Clause} {Is : List Inscription}
    (h : List.Forall₂ Clause.Shows cs Is) (made : Bindings) :
    (cs.flatMap (·.pieces)).foldl (fun made p => made.merge p.params) made =
      made.merge (Is.flatMap Inscription.bindings) := by
  induction h generalizing made with
  | nil => rfl
  | cons shows _ ih =>
    rw [List.flatMap_cons, List.foldl_append, shows.params, ih, List.flatMap_cons,
      Bindings.merge_append]

theorem shows_of_clauses {cs : List Clause} {Is : List Inscription} {separator : Str}
    (h : List.Forall₂ Clause.Shows cs Is) :
    Shows { query := Str.intercalate separator (cs.map (·.text)), params := params cs }
      (Inscription.join separator Is) where
  query := by
    have texts : cs.map (·.text) = Is.map Inscription.written := by
      rw [← List.forall₂_eq_eq_eq, List.forall₂_map_left_iff, List.forall₂_map_right_iff]
      exact h.imp fun _ _ shows => shows.text
    rw [texts, Inscription.written_join]
  params := by rw [params, params_of_clauses h, Inscription.bindings_join]

/-- The text between clauses ends a name, if it is a text. -/
def SeparatorIsClean (config : Config) : Prop :=
  ∀ t, config.clauseSeparator = .text t → Template.IsSeparator .graph t.spelling

/-- What is built from twins is written from one inscription, under different numbers. -/
theorem Twins.build {q r : GraphQuery} (h : q.Twins P f r) (apart : SeparatorIsClean q.config)
    {x : CypherQuery} (built : q.build = .ok x) :
    ∃ y, r.build = .ok y ∧ ∃ I, IsPiece P I ∧ Shows x I ∧ Shows y (I.renumber f) := by
  obtain ⟨cs, listed, built⟩ := Result.bind_eq_ok.1 built
  obtain ⟨between, given, built⟩ := Result.bind_eq_ok.1 built
  cases built
  obtain ⟨ds, listed', twins⟩ := h.clauses listed
  obtain ⟨Is, pieces, lefts, rights⟩ := exists_inscriptions twins
  have clean : Template.IsSeparator .graph between := by
    unfold separator at given
    split at given
    · next t same =>
      cases given
      exact apart t same
    · cases given
  rw [h.config] at given
  refine ⟨_, Result.bind_eq_ok.2 ⟨ds, listed', Result.bind_eq_ok.2 ⟨between, given, rfl⟩⟩,
    Inscription.join between Is, isPiece_join clean pieces, shows_of_clauses lefts, ?_⟩
  rw [Inscription.renumber_join]
  exact shows_of_clauses rights

end BoundQuery.GraphQuery
