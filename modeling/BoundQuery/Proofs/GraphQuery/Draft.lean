import BoundQuery.Proofs.Call
import BoundQuery.Proofs.Condition.Named
import BoundQuery.Proofs.GraphQuery.Atomic
import BoundQuery.Proofs.GraphQuery.Bucket
import BoundQuery.Proofs.GraphQuery.Drawn

/-!
# Drafts of calls

What a call on a graph query edits comes down to drafts, which are edits before their numbers are
known. Whether a call is accepted and what it drafts does not depend on the counter; the numbers are
those that follow it, one for each value that the call binds.

## Main definitions

* `Draft` — an edit before its numbers are known.
* `Call.IsAccepted`, `Call.IsTurnedDown` — the two ways in which a call ends.

## Main statements

* `Call.effect_cases` — an accepted call edits its drafts, and any other edits nothing with values.
-/

namespace BoundQuery.GraphQuery

/-! ## Drafts -/

/-- An edit that adds a text without parameters; it holds no dollar sign. -/
def Edit.IsPlain : Edit → Prop
  | .withItem v | .returnItem v => v.IsDollarFree
  | .delete target | .detachDelete target => .scalar '$' ∉ target.chars
  | .order text => .scalar '$' ∉ text.toList
  | .place _ _ | .skip _ | .limit _ => False

inductive Draft where
  | place (clause : PatternClause) (s : Sketch)
  | skip (s : Sketch)
  | limit (s : Sketch)
  | plain (e : Edit)

namespace Draft

/-- The edit of a draft when the counter stands at `n`. -/
def edit (n : Nat) : Draft → Edit
  | place clause s => .place clause (s.pattern n)
  | skip s => .skip (s.pattern n)
  | limit s => .limit (s.pattern n)
  | plain e => e

/-- The bucket that the edits of a draft go into. -/
def bucket : Draft → Bucket
  | place clause _ => .patterns clause
  | skip _ => .skip
  | limit _ => .limit
  | plain e => e.bucket

theorem bucket_edit (n : Nat) (d : Draft) : (d.edit n).bucket = d.bucket := by
  cases d <;> rfl

def IsFor (stem : Str) (values : List Value) : Draft → Prop
  | place _ s | skip s | limit s => s.IsFor stem values
  | plain e => e.IsPlain

end Draft

/-! ## Drafts at a later counter -/

variable {b : Bucket} {stem : Str} {vs ws : List Value}

namespace Draft

/-- The draft after `k` other numbers have been taken. -/
def after (k : Nat) : Draft → Draft
  | place clause s => .place clause (s.after k)
  | skip s => .skip (s.after k)
  | limit s => .limit (s.after k)
  | plain e => .plain e

theorem bucket_after (k : Nat) (d : Draft) : (d.after k).bucket = d.bucket := by
  cases d <;> rfl

theorem edit_after (k n : Nat) (d : Draft) : (d.after k).edit n = d.edit (n + k) := by
  cases d <;> simp [after, edit, Sketch.pattern_after]

theorem IsFor.after {d : Draft} (h : d.IsFor stem vs) :
    (d.after ws.length).IsFor stem (ws ++ vs) := by
  cases d with
  | place clause s => exact Sketch.IsFor.after h
  | skip s => exact Sketch.IsFor.after h
  | limit s => exact Sketch.IsFor.after h
  | plain e => exact h

theorem IsFor.append {d : Draft} (h : d.IsFor stem vs) : d.IsFor stem (vs ++ ws) := by
  cases d with
  | place clause s => exact Sketch.IsFor.append h
  | skip s => exact Sketch.IsFor.append h
  | limit s => exact Sketch.IsFor.append h
  | plain e => exact h

end Draft

/-- Work that makes the edits of some drafts for these values, all for one bucket. -/
def IsDrafted (m : Minting (List Edit)) (b : Bucket) (stem : Str) (values : List Value) : Prop :=
  ∃ drafts : List Draft, (∀ d ∈ drafts, d.bucket = b ∧ d.IsFor stem values) ∧
    ∀ n, m.run n = .ok (drafts.map (·.edit n), n + values.length)

theorem IsDrafted.bind_lift {α : Type} {r : Result α} {a : α} {m : α → Minting (List Edit)}
    (h : r = .ok a) (drafted : IsDrafted (m a) b stem vs) :
    IsDrafted (liftM r >>= m) b stem vs := by
  obtain ⟨drafts, isFor, run⟩ := drafted
  exact ⟨drafts, isFor, fun n => (Minting.run_bind_lift h).trans (run n)⟩

theorem map_edit_plain (edits : List Edit) (n : Nat) :
    (edits.map Draft.plain).map (Draft.edit n) = edits := by
  simp [Draft.edit, Function.comp_def]

theorem isDrafted_plain {edits : List Edit} (plain : ∀ e ∈ edits, e.bucket = b ∧ e.IsPlain)
    (stem : Str) : IsDrafted (pure edits) b stem [] := by
  refine ⟨edits.map .plain, fun d mem => ?_, fun n => ?_⟩
  · obtain ⟨e, inEdits, rfl⟩ := List.mem_map.1 mem
    exact plain e inEdits
  · rw [map_edit_plain]
    rfl

/-! ## One edit -/

/-- Work that makes a pattern and then one edit with it, which is the edit of a draft. -/
theorem IsDrawn.isDrafted {m : Minting Pattern} (drawn : IsDrawn m stem vs) {g : Pattern → Edit}
    (draft : Sketch → Draft) (edit : ∀ s n, (draft s).edit n = g (s.pattern n))
    (isFor : ∀ s : Sketch, s.IsFor stem vs → (draft s).bucket = b ∧ (draft s).IsFor stem vs) :
    IsDrafted (do return [g (← m)]) b stem vs := by
  obtain ⟨s, sketched, draws⟩ := drawn
  refine ⟨[draft s], fun d mem => ?_, fun n => ?_⟩
  · rw [List.mem_singleton.1 mem]
    exact isFor s sketched
  · rw [List.map_singleton, edit]
    exact Minting.run_bind_of_ok (draws n)

theorem IsDrawn.placed {m : Minting Pattern} (drawn : IsDrawn m stem vs) (clause : PatternClause) :
    IsDrafted (placed clause m) (.patterns clause) stem vs :=
  drawn.isDrafted (.place clause) (fun _ _ => rfl) fun _ isFor => ⟨rfl, isFor⟩

theorem exists_run_of_edit {m : Minting Pattern} {g : Pattern → Edit} {n : Nat}
    {x : List Edit × Nat} (h : (do return [g (← m)] : Minting (List Edit)).run n = .ok x) :
    ∃ y, m.run n = .ok y ∧ x.1 = [g y.1] := by
  obtain ⟨edits, last⟩ := x
  obtain ⟨p, i, made, same⟩ := Minting.bind_eq_ok.1 h
  cases same
  exact ⟨(p, i), made, rfl⟩

/-! ## Comparisons -/

/-- Conditions are drafted one after the other, each with the numbers after those before it. -/
theorem isDrafted_conditionEdits {cs : List FieldCondition}
    (clean : ∀ c ∈ cs, .scalar '$' ∉ c.field.chars) :
    IsDrafted (conditionEdits cs) (.patterns .condition) Named.defaultStem
      (cs.flatMap (·.test.values)) := by
  induction cs with
  | nil => exact isDrafted_plain (by simp) _
  | cons c rest ih =>
    obtain ⟨drafts, isFor, run⟩ := ih fun c mem => clean c (List.mem_cons_of_mem _ mem)
    have values := c.values_template? .graph
    rw [List.flatMap_cons, conditionEdits]
    cases written : c.template? .graph with
    | none =>
      rw [written] at values
      rw [← values]
      exact ⟨drafts, isFor, run⟩
    | some t =>
      rw [written] at values
      have values : t.values = c.test.values := values
      have isClean := FieldCondition.isClean_template? (clean c List.mem_cons_self) written
      obtain ⟨s, sketched, draws⟩ := isDrawn_fill isClean
      rw [values] at sketched draws
      refine ⟨.place .condition s :: drafts.map (Draft.after c.test.values.length), ?_, fun n => ?_⟩
      · intro d mem
        rcases List.mem_cons.1 mem with rfl | mem
        · exact ⟨rfl, Draft.IsFor.append (d := .place .condition s) sketched⟩
        · obtain ⟨d, inDrafts, rfl⟩ := List.mem_map.1 mem
          rw [Draft.bucket_after]
          exact ⟨(isFor d inDrafts).1, (isFor d inDrafts).2.after⟩
      · dsimp only
        rw [Minting.run_bind_of_ok (draws n), Minting.run_bind_of_ok (run _)]
        have later : (drafts.map (Draft.after c.test.values.length)).map (Draft.edit n) =
            drafts.map (Draft.edit (n + c.test.values.length)) := by
          simp [Draft.edit_after, Function.comp_def]
        rw [List.map_cons, later, List.length_append, ← Nat.add_assoc]
        rfl

theorem isDrafted_comparison {identifier property operator operand : Value} {n : Nat}
    {x : List Edit × Nat} (h : (comparison identifier property operator operand).run n = .ok x) :
    IsDrafted (comparison identifier property operator operand) (.patterns .condition)
      Named.defaultStem (((Operator.ofValue? operator).map (·.bound operand)).getD []) := by
  obtain ⟨field, found, h⟩ := Minting.exists_of_bind_lift h
  obtain ⟨c, made, h⟩ := Minting.exists_of_bind_lift h
  obtain ⟨op, parsed, values⟩ := FieldCondition.values_of_make made
  have clean : ∀ c' ∈ [c], .scalar '$' ∉ c'.field.chars := by
    intro c' mem
    rw [List.mem_singleton.1 mem]
    exact Name.dollar_notMem_of_isQualified (FieldCondition.isQualified_of_make made)
  have drafted := isDrafted_conditionEdits clean
  rw [List.flatMap_cons, List.flatMap_nil, List.append_nil, values] at drafted
  rw [parsed]
  exact IsDrafted.bind_lift found (IsDrafted.bind_lift made drafted)

/-- Whatever is listed for a membership test, its elements are bound. -/
theorem isDrafted_membership {op : Operator} {identifier property operand : Value} {n : Nat}
    {x : List Edit × Nat} (membership : op = .oneOf ∨ op = .noneOf)
    (h : (liftM (operand.elements.map .list) >>=
      comparison identifier property (operatorValue op)).run n = .ok x) :
    IsDrafted (liftM (operand.elements.map .list) >>=
      comparison identifier property (operatorValue op)) (.patterns .condition) Named.defaultStem
      (op.bound operand) := by
  obtain ⟨v, listed, h⟩ := Minting.exists_of_bind_lift h
  have drafted := isDrafted_comparison h
  obtain ⟨xs, elements, rfl⟩ := Result.map_eq_ok.1 listed
  have values : op.bound operand = op.bound (.list xs) := by
    have given : operand.isNull = false := by
      cases operand with
      | null => cases elements
      | _ => rfl
    rcases membership with rfl | rfl <;> simp [Operator.bound, given, elements] <;> rfl
  rw [values]
  exact IsDrafted.bind_lift listed drafted

theorem bound_of_qualified {name : Text} {entries qualified : List (Value × Value)}
    (h : entries.mapM (qualifiedEntry name) = .ok qualified) :
    Filter.bound qualified = Filter.bound entries := by
  have related := Result.mapM_eq_ok.1 h
  clear h
  induction related with
  | nil => rfl
  | cons first _ ih =>
    obtain ⟨property, _, same⟩ := Result.bind_eq_ok.1 first
    cases same
    rw [Filter.bound, Filter.bound, List.flatMap_cons, List.flatMap_cons]
    exact congrArg (_ ++ ·) ih

theorem isDrafted_filters {marker : List Chr} {identifier mapping : Value} {n : Nat}
    {x : List Edit × Nat} (h : ((Call.filters identifier mapping).edits marker).run n = .ok x) :
    IsDrafted ((Call.filters identifier mapping).edits marker) (.patterns .condition)
      Named.defaultStem (Filter.bound (mapping.items.toOption.getD [])) := by
  unfold Call.edits at h ⊢
  simp only [Minting.mapM_lift] at h ⊢
  obtain ⟨name, named, h⟩ := Minting.exists_of_bind_lift h
  obtain ⟨entries, listed, h⟩ := Minting.exists_of_bind_lift h
  obtain ⟨qualified, prefixed, h⟩ := Minting.exists_of_bind_lift h
  obtain ⟨cs, made, h⟩ := Minting.exists_of_bind_lift h
  have drafted := isDrafted_conditionEdits fun c mem =>
    Name.dollar_notMem_of_isQualified (Filter.isQualified_of_conditionsOfEntries made c mem)
  rw [Filter.values_of_conditionsOfEntries made, bound_of_qualified prefixed] at drafted
  rw [listed]
  exact IsDrafted.bind_lift named (IsDrafted.bind_lift rfl
    (IsDrafted.bind_lift prefixed (IsDrafted.bind_lift made drafted)))

/-! ## Calls -/

theorem dollar_notMem_of_orderText {item direction : Value} {text : Str}
    (h : orderText item direction = .ok text) : .scalar '$' ∉ text.toList := by
  obtain ⟨d, _, h⟩ := Result.bind_eq_ok.1 h
  obtain ⟨field, named, same⟩ := Result.bind_eq_ok.1 h
  cases same
  have shown := Text.dollar_notMem_shown
    (Name.dollar_notMem_of_isQualified (Name.gate_eq_ok named).2)
  have spelled : .scalar '$' ∉ d.spelling.toList := by cases d <;> decide
  simp [shown, spelled]

theorem Call.isDrafted {marker : List Chr} {c : Call} {n : Nat} {x : List Edit × Nat}
    (clean : c.CallerTextIsClean marker) (h : (c.edits marker).run n = .ok x) :
    IsDrafted (c.edits marker) c.bucket c.stem c.values := by
  cases c with
  | matching pattern | optionalMatching pattern | create pattern | merge pattern =>
    obtain ⟨y, made, _⟩ := exists_run_of_edit h
    exact (isDrawn_ofValue clean made).placed _
  | unwind items identifier =>
    obtain ⟨y, made, _⟩ := exists_run_of_edit h
    exact (isDrawn_unwound clean made).placed _
  | condition fragment values | assign fragment values =>
    obtain ⟨y, made, _⟩ := exists_run_of_edit h
    exact (isDrawn_rawPattern clean made).placed _
  | compare identifier property operator operand => exact isDrafted_comparison h
  | shorthand s identifier property operand =>
    cases s with
    | member => exact isDrafted_membership (Or.inl rfl) h
    | notMember => exact isDrafted_membership (Or.inr rfl) h
    | equals | contains | startsWith | endsWith =>
      have drafted := isDrafted_comparison h
      exact drafted
  | null identifier property | notNull identifier property =>
    have drafted := isDrafted_comparison h
    exact drafted
  | filters identifier mapping => exact isDrafted_filters h
  | setProperty identifier property value =>
    obtain ⟨y, made, _⟩ := exists_run_of_edit h
    exact (isDrawn_propertyAssignment made).placed _
  | setProperties identifier properties =>
    obtain ⟨y, made, _⟩ := exists_run_of_edit h
    exact (isDrawn_assignedProperties made).placed _
  | withItems items | returnItems items =>
    refine isDrafted_plain (fun e mem => ?_) _
    obtain ⟨v, inItems, rfl⟩ := List.mem_map.1 mem
    exact ⟨rfl, clean v inItems⟩
  | delete targets | detachDelete targets => exact isDrafted_plain (by simp) _
  | orderBy item direction =>
    obtain ⟨text, found, _⟩ := Minting.exists_of_bind_lift h
    refine IsDrafted.bind_lift found (isDrafted_plain (fun e mem => ?_) _)
    rw [List.mem_singleton.1 mem]
    exact ⟨rfl, dollar_notMem_of_orderText found⟩
  | skip count =>
    obtain ⟨y, made, _⟩ := exists_run_of_edit h
    have word := Placeholder.isWordChar_of_all (d := .graph) (s := "skip") (by decide)
    have drawn := isDrawn_counted word (by decide) made
    exact drawn.isDrafted .skip (fun _ _ => rfl) fun _ isFor => ⟨rfl, isFor⟩
  | limit count =>
    obtain ⟨y, made, _⟩ := exists_run_of_edit h
    have word := Placeholder.isWordChar_of_all (d := .graph) (s := "limit") (by decide)
    have drawn := isDrawn_counted word (by decide) made
    exact drawn.isDrafted .limit (fun _ _ => rfl) fun _ isFor => ⟨rfl, isFor⟩

theorem Call.exists_run_of_effect {marker : List Chr} {c : Call} {n : Nat}
    (same : c.effect marker n = c.edited marker n) (h : (c.effect marker n).1.fault = none) :
    ∃ x, (c.edits marker).run n = .ok x ∧ (c.effect marker n).1.edits = x.1 := by
  cases run : (c.edits marker).run n with
  | ok x => exact ⟨x, rfl, by rw [same, edited_of_ok run]⟩
  | error fault =>
    rw [same, edited_of_error run] at h
    cases h

/-- A slot takes one edit from each call that is not turned down. -/
theorem Call.exists_edit_of_isSlot (marker : List Chr) {c : Call} (n : Nat)
    (slot : c.bucket.isSlot = true) (h : (c.effect marker n).1.fault = none) :
    ∃ e, (c.effect marker n).1.edits = [e] := by
  cases c with
  | skip count | limit count =>
    obtain ⟨x, run, edits⟩ := exists_run_of_effect rfl h
    obtain ⟨y, _, single⟩ := exists_run_of_edit run
    exact ⟨_, edits.trans single⟩
  | _ => cases slot

/-- What a call that takes names of targets edits holds no dollar sign, also when it stops at a bad
one. -/
theorem isPlain_of_deletion {f : Text → Edit}
    (plain : ∀ t, .scalar '$' ∉ t.chars → (f t).bucket = b ∧ (f t).IsPlain) (targets : List Value) :
    ∀ e ∈ (Effect.upToFault (fun v => (Call.deleteTarget v).map f) targets).edits,
      e.bucket = b ∧ e.IsPlain := by
  refine Effect.forall_edits_upToFault (fun v e made => ?_) targets
  obtain ⟨t, gate, rfl⟩ := Result.map_eq_ok.1 made
  exact plain t (Name.dollar_notMem_of_isPlain (Name.gate_eq_ok gate).2)

namespace Call

/-- Whatever the counter, the call edits its drafts and takes a number for each value. -/
def IsAccepted (marker : List Chr) (c : Call) : Prop :=
  ∃ drafts : List Draft, (∀ d ∈ drafts, d.bucket = c.bucket ∧ d.IsFor c.stem c.values) ∧
    ∀ n, c.effect marker n = ({ edits := drafts.map (·.edit n) }, n + c.values.length)

/-- The call takes no number, and what it edits before its fault has no parameters. -/
def IsTurnedDown (marker : List Chr) (c : Call) (n : Nat) : Prop :=
  ∃ edits fault, (∀ e ∈ edits, e.bucket = c.bucket ∧ e.IsPlain) ∧
    c.effect marker n = ({ edits, fault := some fault }, n)

variable {marker : List Chr} {c : Call}

theorem cases_of_deletion {effect : Effect Edit}
    (plain : ∀ e ∈ effect.edits, e.bucket = c.bucket ∧ e.IsPlain)
    (same : ∀ n, c.effect marker n = (effect, n)) (none : c.values = []) (n : Nat) :
    c.IsAccepted marker ∨ c.IsTurnedDown marker n := by
  obtain ⟨edits, fault?⟩ := effect
  cases fault? with
  | none =>
    refine Or.inl ⟨edits.map .plain, fun d mem => ?_, fun k => ?_⟩
    · obtain ⟨e, inEdits, rfl⟩ := List.mem_map.1 mem
      exact plain e inEdits
    · rw [same, map_edit_plain, none]
      rfl
  | some fault => exact Or.inr ⟨edits, fault, plain, same n⟩

theorem cases_of_edits (clean : c.CallerTextIsClean marker)
    (same : ∀ n, c.effect marker n = c.edited marker n) (n : Nat) :
    c.IsAccepted marker ∨ c.IsTurnedDown marker n := by
  cases run : (c.edits marker).run n with
  | ok x =>
    obtain ⟨drafts, isFor, drafted⟩ := isDrafted clean run
    exact Or.inl ⟨drafts, isFor, fun k => (same k).trans (edited_of_ok (drafted k))⟩
  | error fault => exact Or.inr ⟨[], fault, by simp, (same n).trans (edited_of_error run)⟩

/-- A call is accepted at every counter, or turned down. -/
theorem effect_cases (clean : c.CallerTextIsClean marker) (n : Nat) :
    c.IsAccepted marker ∨ c.IsTurnedDown marker n := by
  cases c with
  | delete targets =>
    have plain := isPlain_of_deletion (f := .delete) (fun _ h => ⟨rfl, h⟩) targets
    exact cases_of_deletion plain (fun _ => rfl) rfl n
  | detachDelete targets =>
    have plain := isPlain_of_deletion (f := .detachDelete) (fun _ h => ⟨rfl, h⟩) targets
    exact cases_of_deletion plain (fun _ => rfl) rfl n
  | _ => exact cases_of_edits clean (fun _ => rfl) n

end Call

end BoundQuery.GraphQuery
