import BoundQuery.GraphQuery.Build
import BoundQuery.Proofs.Alike.Pattern
import BoundQuery.Proofs.Alike.Statement
import BoundQuery.Proofs.GraphQuery.Atomic

/-!
# Graph queries with other values

The same call with values of the same shape takes the same numbers from the counter and makes the
same edits, with related values in their patterns. So two queries stay alike, clause by clause, and
what they are built into has the same text and the same names.

## Main definitions

* `GraphQuery.Call.Alike` — the same call with values of the same shape.
* `GraphQuery.Alike` — queries that have collected alike patterns.

## Main statements

* `GraphQuery.Alike.step` — alike calls on alike queries.
* `GraphQuery.Alike.agree_build` — what alike queries are built into.
-/

namespace BoundQuery

open Result (Agree)

/-- The same text, and related values under the same names in the same order. -/
structure CypherQuery.Alike (R : Value → Value → Prop) (x y : CypherQuery) : Prop where
  query : x.query = y.query
  params : x.params.Alike R y.params

namespace GraphQuery

/-! ## Calls -/

section
variable (R : Value → Value → Prop)

/-- Whatever is listed for a membership test, its elements are bound. -/
def Shorthand.OperandsAlike (s : Shorthand) (v w : Value) : Prop :=
  if s = .member ∨ s = .notMember then ElementsAlike R v w
  else BoundQuery.OperandsAlike R s.operator v w

/-- The same expression, or two lists that are related as a whole, which is how they are bound. -/
inductive UnwoundAlike : Value → Value → Prop
  | expression (t : Text) : UnwoundAlike (.text t) (.text t)
  | list {v w : Value} (left : ∀ t, v ≠ .text t) (right : ∀ t, w ≠ .text t)
      (elements : Agree (fun xs ys => R (.list xs) (.list ys)) v.elements w.elements) :
      UnwoundAlike v w

/-- The same call with values of the same shape. -/
inductive Call.Alike : Call → Call → Prop
  | matching {v w : Value} (patterns : PatternsAlike R v w) : Alike (.matching v) (.matching w)
  | optionalMatching {v w : Value} (patterns : PatternsAlike R v w) :
      Alike (.optionalMatching v) (.optionalMatching w)
  | create {v w : Value} (patterns : PatternsAlike R v w) : Alike (.create v) (.create w)
  | merge {v w : Value} (patterns : PatternsAlike R v w) : Alike (.merge v) (.merge w)
  | unwind (identifier : Value) {v w : Value} (items : UnwoundAlike R v w) :
      Alike (.unwind v identifier) (.unwind w identifier)
  | condition (fragment : Value) {v w : Value} (values : MarkedAlike R v w) :
      Alike (.condition fragment v) (.condition fragment w)
  | compare (identifier property operator : Value) {v w : Value}
      (operands : ComparedAlike R operator v w) :
      Alike (.compare identifier property operator v) (.compare identifier property operator w)
  | shorthand (s : Shorthand) (identifier property : Value) {v w : Value}
      (operands : s.OperandsAlike R v w) :
      Alike (.shorthand s identifier property v) (.shorthand s identifier property w)
  | null (identifier property : Value) :
      Alike (.null identifier property) (.null identifier property)
  | notNull (identifier property : Value) :
      Alike (.notNull identifier property) (.notNull identifier property)
  | filters (identifier : Value) {v w : Value} (filters : FiltersAlike R v w) :
      Alike (.filters identifier v) (.filters identifier w)
  | assign (fragment : Value) {v w : Value} (values : MarkedAlike R v w) :
      Alike (.assign fragment v) (.assign fragment w)
  | setProperty (identifier property : Value) {v w : Value} (related : R v w) :
      Alike (.setProperty identifier property v) (.setProperty identifier property w)
  | setProperties (identifier : Value) {v w : Value} (properties : PropertiesAlike R v w) :
      Alike (.setProperties identifier v) (.setProperties identifier w)
  | withItems (items : List Value) : Alike (.withItems items) (.withItems items)
  | returnItems (items : List Value) : Alike (.returnItems items) (.returnItems items)
  | delete (targets : List Value) : Alike (.delete targets) (.delete targets)
  | detachDelete (targets : List Value) : Alike (.detachDelete targets) (.detachDelete targets)
  | orderBy (item direction : Value) : Alike (.orderBy item direction) (.orderBy item direction)
  | skip {v w : Value} (counts : CountsAlike R v w) : Alike (.skip v) (.skip w)
  | limit {v w : Value} (counts : CountsAlike R v w) : Alike (.limit v) (.limit w)

inductive Edit.Alike : Edit → Edit → Prop
  | place (clause : PatternClause) {p q : Pattern} (patterns : p.Alike R q) :
      Alike (.place clause p) (.place clause q)
  | withItem (v : Value) : Alike (.withItem v) (.withItem v)
  | returnItem (v : Value) : Alike (.returnItem v) (.returnItem v)
  | delete (target : Text) : Alike (.delete target) (.delete target)
  | detachDelete (target : Text) : Alike (.detachDelete target) (.detachDelete target)
  | order (text : Str) : Alike (.order text) (.order text)
  | skip {p q : Pattern} (patterns : p.Alike R q) : Alike (.skip p) (.skip q)
  | limit {p q : Pattern} (patterns : p.Alike R q) : Alike (.limit p) (.limit q)

end

variable {R : Value → Value → Prop}

/-- Work that makes alike edits and takes the same numbers for them. -/
abbrev AgreeOnEdits (R : Value → Value → Prop) (m m' : Minting (List Edit)) : Prop :=
  Minting.Agree (List.Forall₂ (Edit.Alike R)) m m'

theorem agree_single {m m' : Minting Pattern} (h : Minting.Agree (Pattern.Alike R) m m')
    {g : Pattern → Edit} (edit : ∀ p q, p.Alike R q → (g p).Alike R (g q)) :
    AgreeOnEdits R (do return [g (← m)]) (do return [g (← m')]) :=
  h.bind fun _ _ same => Minting.agree_pure (.cons (edit _ _ same) .nil)

theorem agree_placed {m m' : Minting Pattern} (h : Minting.Agree (Pattern.Alike R) m m')
    (clause : PatternClause) : AgreeOnEdits R (placed clause m) (placed clause m') :=
  agree_single h fun _ _ same => .place clause same

theorem agree_conditionEdits {cs cs' : List FieldCondition}
    (h : List.Forall₂ (FieldCondition.Alike R) cs cs') :
    AgreeOnEdits R (conditionEdits cs) (conditionEdits cs') := by
  induction h with
  | nil => exact Minting.agree_pure .nil
  | @cons c c' cs cs' first _ ih =>
    have templates := FieldCondition.alike_template? first .graph
    rw [conditionEdits, conditionEdits]
    generalize c.template? .graph = t at templates ⊢
    generalize c'.template? .graph = t' at templates ⊢
    cases templates with
    | none => exact ih
    | some same =>
      refine (Minting.agree_fill same).bind fun p q patterns => ih.bind fun edits edits' rest => ?_
      exact Minting.agree_pure (.cons (.place .condition patterns) rest)

theorem agree_comparison (identifier property : Value) {operator v w : Value}
    (h : ComparedAlike R operator v w) :
    AgreeOnEdits R (comparison identifier property operator v)
      (comparison identifier property operator w) := by
  refine Minting.agree_bind_same fun field => ?_
  have made := FieldCondition.agree_make h .graph (.str field)
  exact (Minting.agree_lift made).bind fun _ _ same => agree_conditionEdits (.cons same .nil)

theorem agree_membership (identifier property : Value) {op : Operator}
    (membership : op.isMembership = true) {v w : Value} (h : ElementsAlike R v w) :
    AgreeOnEdits R
      (liftM (v.elements.map .list) >>= comparison identifier property (operatorValue op))
      (liftM (w.elements.map .list) >>= comparison identifier property (operatorValue op)) := by
  have listed : Agree (OperandsAlike R op) (v.elements.map .list) (w.elements.map .list) :=
    Agree.map h fun _ _ each => .members membership rfl rfl each
  exact (Minting.agree_lift listed).bind fun _ _ operands =>
    agree_comparison identifier property (comparedAlike_toValue operands)

theorem agree_qualifiedEntry (name : Text) {e f : Value × Value} (h : Keyed (SpecsAlike R) e f) :
    Agree (Keyed (SpecsAlike R)) (qualifiedEntry name e) (qualifiedEntry name f) := by
  unfold qualifiedEntry
  rw [h.key]
  exact Result.agree_bind_same fun property => .ok ⟨rfl, h.value⟩

theorem agree_filters (marker : List Chr) (identifier : Value) {v w : Value}
    (h : FiltersAlike R v w) :
    AgreeOnEdits R ((Call.filters identifier v).edits marker)
      ((Call.filters identifier w).edits marker) := by
  unfold Call.edits
  simp only [Minting.mapM_lift]
  refine Minting.agree_bind_same fun name => ?_
  refine (Minting.agree_lift (Filter.agree_items h)).bind fun es fs entries => ?_
  have qualified := Result.agree_mapM entries fun _ _ keyed => agree_qualifiedEntry name keyed
  refine (Minting.agree_lift qualified).bind fun es fs entries => ?_
  have made := Filter.agree_conditionsOfEntries .graph entries
  exact (Minting.agree_lift made).bind fun _ _ conditions => agree_conditionEdits conditions

theorem agree_rawPattern (marker : List Chr) (fragment : Value) {v w : Value}
    (h : MarkedAlike R v w) :
    Minting.Agree (Pattern.Alike R) (rawPattern marker fragment v)
      (rawPattern marker fragment w) := by
  unfold rawPattern
  split
  · next t =>
    split
    · exact Minting.agree_throw _ _
    · refine (Minting.agree_lift h).bind fun vs ws each => ?_
      refine (Minting.agree_lift (Marker.agree_template marker t each)).bind fun _ _ same => ?_
      exact Minting.agree_fill same
  · exact Minting.agree_throw _ _

theorem agree_unwound (identifier : Value) {v w : Value} (h : UnwoundAlike R v w) :
    Minting.Agree (Pattern.Alike R) (unwound v identifier) (unwound w identifier) := by
  refine Minting.agree_bind_same fun name => ?_
  cases h with
  | expression t => exact Minting.agree_pure ⟨rfl, rfl, .nil⟩
  | list left right elements =>
    split
    · next t => exact absurd rfl (left t)
    · refine (Minting.agree_lift elements).bind fun _ _ related => ?_
      exact Minting.agree_bound _ _ _ related

theorem agree_assignedProperties (identifier : Value) {v w : Value} (h : PropertiesAlike R v w) :
    Minting.Agree (Pattern.Alike R) (assignedProperties identifier v)
      (assignedProperties identifier w) := by
  unfold assignedProperties
  simp only [Minting.mapM_lift]
  refine (Minting.agree_lift h.agree_elements).bind fun xs _ same => ?_
  cases same
  refine Minting.agree_bind_same fun keys => Minting.agree_bind_same fun name => ?_
  refine (Minting.agree_lift h.agree_toMapping).bind fun _ _ related => ?_
  exact Minting.agree_bound _ _ _ related

theorem agree_counted (what keyword : Str) {v w : Value} (h : CountsAlike R v w) :
    Minting.Agree (Pattern.Alike R) (counted what keyword v) (counted what keyword w) :=
  (Minting.agree_lift (h.agree_checkCount what)).bind fun _ _ related =>
    Minting.agree_bound what keyword "" related

theorem Call.Alike.agree_edits {c c' : Call} (h : c.Alike R c') (marker : List Chr) :
    AgreeOnEdits R (c.edits marker) (c'.edits marker) := by
  cases h with
  | matching patterns | optionalMatching patterns | create patterns | merge patterns =>
    exact agree_placed (Minting.agree_lift (Pattern.agree_ofValue patterns)) _
  | unwind identifier items => exact agree_placed (agree_unwound identifier items) _
  | condition fragment values | assign fragment values =>
    exact agree_placed (agree_rawPattern marker fragment values) _
  | compare identifier property operator operands => exact agree_comparison _ _ operands
  | shorthand s identifier property operands =>
    cases s with
    | member | notMember => exact agree_membership identifier property rfl operands
    | equals | contains | startsWith | endsWith =>
      have compared := agree_comparison identifier property (comparedAlike_toValue operands)
      exact compared
  | null identifier property | notNull identifier property =>
    exact agree_comparison identifier property (comparedAlike_toValue .null)
  | filters identifier filters => exact agree_filters marker identifier filters
  | setProperty identifier property related =>
    refine agree_placed (Minting.agree_bind_same fun ref => ?_) _
    exact Minting.agree_bound _ _ _ related
  | setProperties identifier properties =>
    exact agree_placed (agree_assignedProperties identifier properties) _
  | withItems items =>
    exact Minting.agree_pure (List.forall₂_same.2 (List.forall_mem_map.2 fun v _ => .withItem v))
  | returnItems items =>
    exact Minting.agree_pure (List.forall₂_same.2 (List.forall_mem_map.2 fun v _ => .returnItem v))
  | delete targets | detachDelete targets => exact Minting.agree_pure .nil
  | orderBy item direction =>
    exact Minting.agree_bind_same fun text => Minting.agree_pure (.cons (.order text) .nil)
  | skip counts => exact agree_single (agree_counted _ _ counts) fun _ _ same => .skip same
  | limit counts => exact agree_single (agree_counted _ _ counts) fun _ _ same => .limit same

/-- Alike calls take the same numbers and make alike edits. -/
theorem Call.Alike.effect {c c' : Call} (h : c.Alike R c') (marker : List Chr) (n : Nat) :
    (c.effect marker n).1.Alike (Edit.Alike R) (c'.effect marker n).1 ∧
      (c.effect marker n).2 = (c'.effect marker n).2 := by
  have edited : (c.edited marker n).1.Alike (Edit.Alike R) (c'.edited marker n).1 ∧
      (c.edited marker n).2 = (c'.edited marker n).2 := by
    obtain ⟨answers, counters⟩ := h.agree_edits marker n
    exact ⟨Effect.alike_ofResult answers, counters⟩
  cases h with
  | delete targets =>
    refine ⟨Effect.alike_self _ (Effect.forall_edits_upToFault (fun v e made => ?_) targets), rfl⟩
    obtain ⟨t, _, rfl⟩ := Result.map_eq_ok.1 made
    exact .delete t
  | detachDelete targets =>
    refine ⟨Effect.alike_self _ (Effect.forall_edits_upToFault (fun v e made => ?_) targets), rfl⟩
    obtain ⟨t, _, rfl⟩ := Result.map_eq_ok.1 made
    exact .detachDelete t
  | _ => exact edited

/-! ## Queries -/

/-- Queries that count the same and have collected the same clauses, with alike patterns. -/
structure Alike (R : Value → Value → Prop) (q r : GraphQuery) : Prop where
  config : q.config = r.config
  counter : q.counter = r.counter
  patterns : ∀ clause, List.Forall₂ (Pattern.Alike R) (q.patterns clause) (r.patterns clause)
  withItems : q.withItems = r.withItems
  detachDeletes : q.detachDeletes = r.detachDeletes
  deletes : q.deletes = r.deletes
  returnItems : q.returnItems = r.returnItems
  orders : q.orders = r.orders
  skip : Option.Rel (Pattern.Alike R) q.skip r.skip
  limit : Option.Rel (Pattern.Alike R) q.limit r.limit

variable {q r : GraphQuery}

theorem Alike.apply (h : q.Alike R r) {e f : Edit} (edits : e.Alike R f) :
    (q.apply e).Alike R (r.apply f) := by
  cases edits with
  | place clause same =>
    refine { h with patterns := fun c => ?_ }
    by_cases here : c = clause
    · simpa [GraphQuery.apply, here] using
        List.rel_append (h.patterns clause) (List.Forall₂.cons same .nil)
    · simpa [GraphQuery.apply, here] using h.patterns c
  | withItem v => exact { h with withItems := congrArg (· ++ [v]) h.withItems }
  | returnItem v => exact { h with returnItems := congrArg (· ++ [v]) h.returnItems }
  | delete target => exact { h with deletes := congrArg (· ++ [target]) h.deletes }
  | detachDelete target =>
    exact { h with detachDeletes := congrArg (· ++ [target]) h.detachDeletes }
  | order text => exact { h with orders := congrArg (· ++ [text]) h.orders }
  | skip same => exact { h with skip := .some same }
  | limit same => exact { h with limit := .some same }

theorem Alike.foldl (h : q.Alike R r) {es fs : List Edit}
    (edits : List.Forall₂ (Edit.Alike R) es fs) :
    (es.foldl GraphQuery.apply q).Alike R (fs.foldl GraphQuery.apply r) :=
  List.rel_foldl (fun _ _ same _ _ edit => same.apply edit) h edits

theorem Alike.withCounter (h : q.Alike R r) (n : Nat) :
    Alike R { q with counter := n } { r with counter := n } :=
  { h with counter := rfl }

theorem Alike.step (h : q.Alike R r) {c c' : Call} (calls : c.Alike R c') :
    (q.step c).1.Alike R (r.step c').1 ∧ (q.step c).2.isSome = (r.step c').2.isSome := by
  obtain ⟨effects, counters⟩ := calls.effect q.config.marker q.counter
  have start := h.withCounter (c.effect q.config.marker q.counter).2
  rw [← h.config] at start
  rw [GraphQuery.step, GraphQuery.step, ← h.config, ← h.counter]
  refine ⟨?_, effects.fault⟩
  dsimp only
  rw [← counters]
  exact start.foldl effects.edits

theorem Alike.make (h : q.Alike R r) {m m' : Making} (makings : m.Alike R m') :
    Agree (Pattern.Alike R) (q.make m).1 (r.make m').1 ∧ (q.make m).2.Alike R (r.make m').2 := by
  obtain ⟨answers, counters⟩ := makings.agree_run q.counter
  rw [GraphQuery.make, GraphQuery.make, ← h.counter]
  refine ⟨answers, ?_⟩
  dsimp only
  rw [counters]
  exact h.withCounter _

/-! ## What alike queries are built into -/

/-- The same text, made of alike pieces. -/
structure Clause.Alike (R : Value → Value → Prop) (c d : Clause) : Prop where
  text : c.text = d.text
  pieces : List.Forall₂ (Pattern.Alike R) c.pieces d.pieces

theorem texts_eq {ps qs : List Pattern} (h : List.Forall₂ (Pattern.Alike R) ps qs) :
    ps.map (·.text) = qs.map (·.text) := by
  rw [← List.forall₂_eq_eq_eq]
  exact List.rel_map (fun _ _ same => same.text) h

theorem alike_eachPattern (keyword : Str) {ps qs : List Pattern}
    (h : List.Forall₂ (Pattern.Alike R) ps qs) :
    List.Forall₂ (Clause.Alike R) (eachPattern keyword ps) (eachPattern keyword qs) :=
  List.rel_map (fun _ _ same => ⟨congrArg (keyword ++ ·) same.text, .cons same .nil⟩) h

theorem alike_joinedPatterns (keyword separator : Str) {ps qs : List Pattern}
    (h : List.Forall₂ (Pattern.Alike R) ps qs) :
    List.Forall₂ (Clause.Alike R) (joinedPatterns keyword separator ps)
      (joinedPatterns keyword separator qs) := by
  have texts := texts_eq h
  cases h with
  | nil => exact .nil
  | cons first rest =>
    refine .cons ⟨?_, .cons first rest⟩ .nil
    rw [texts]

theorem alike_joinedTexts (keyword : Str) (texts : List Str) :
    List.Forall₂ (Clause.Alike R) (joinedTexts keyword texts) (joinedTexts keyword texts) := by
  unfold joinedTexts
  split
  · exact .nil
  · exact .cons ⟨rfl, .nil⟩ .nil

theorem forall₂_toList {p q : Option Pattern} (h : Option.Rel (Pattern.Alike R) p q) :
    List.Forall₂ (Pattern.Alike R) p.toList q.toList := by
  cases h with
  | none => exact .nil
  | some same => exact .cons same .nil

theorem Alike.agree_clauses (h : q.Alike R r) :
    Agree (List.Forall₂ (Clause.Alike R)) q.clauses r.clauses := by
  unfold clauses
  rw [h.withItems, h.returnItems, h.detachDeletes, h.deletes, h.orders]
  refine Result.agree_bind_same fun withTexts => Result.agree_bind_same fun returnTexts => .ok ?_
  repeat' refine List.rel_append ?_ ?_
  · exact alike_eachPattern _ (h.patterns .matching)
  · exact alike_eachPattern _ (h.patterns .optional)
  · exact alike_eachPattern _ (h.patterns .unwind)
  · exact alike_joinedPatterns _ _ (h.patterns .condition)
  · exact alike_joinedTexts _ _
  · exact alike_eachPattern _ (h.patterns .create)
  · exact alike_eachPattern _ (h.patterns .merge)
  · exact alike_joinedPatterns _ _ (h.patterns .assign)
  · exact alike_joinedTexts _ _
  · exact alike_joinedTexts _ _
  · exact alike_joinedTexts _ _
  · exact alike_joinedTexts _ _
  · exact alike_eachPattern _ (forall₂_toList h.skip)
  · exact alike_eachPattern _ (forall₂_toList h.limit)

theorem alike_params {cs ds : List Clause} (h : List.Forall₂ (Clause.Alike R) cs ds) :
    Bindings.Alike R (params cs) (params ds) := by
  have pieces : List.Forall₂ (Pattern.Alike R) (cs.flatMap (·.pieces)) (ds.flatMap (·.pieces)) := by
    induction h with
    | nil => exact .nil
    | cons first _ ih => exact List.rel_append first.pieces ih
  exact List.rel_foldl (fun _ _ made _ _ same => made.merge same.params) .nil pieces

theorem Alike.agree_build (h : q.Alike R r) : Agree (CypherQuery.Alike R) q.build r.build := by
  unfold build
  rw [h.config]
  refine h.agree_clauses.bind fun cs ds same => Result.agree_bind_same fun between => .ok ?_
  have texts : cs.map (·.text) = ds.map (·.text) := by
    rw [← List.forall₂_eq_eq_eq]
    exact List.rel_map (fun _ _ clauses => clauses.text) same
  exact ⟨congrArg (Str.intercalate between) texts, alike_params same⟩

end GraphQuery
end BoundQuery
