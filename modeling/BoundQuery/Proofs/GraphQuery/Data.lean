import BoundQuery.GraphQuery.Build
import BoundQuery.Proofs.Document.Shape
import BoundQuery.Proofs.GraphQuery.Making

/-!
# Graph queries of data

A graph query that collects patterns of data is built or refused, and binds data. A pattern that is
made of data, and a call on it, is refused or keeps it so.

## Main definitions

* `Minting.Answers` — work that is answered or refused, wherever the counter stands.
* `Pattern.HoldsData`, `GraphQuery.HoldsData` — patterns and queries that bind data only.
* `GraphQuery.BindsData` — such queries under any configuration.
* `GraphQuery.Call.HoldsData` — calls with data where they look into a value.
* `GraphQuery.IsKept` — what such calls keep of a query.

## Main statements

* `GraphQuery.IsKept.keeps_call`, `GraphQuery.IsKept.keeps_makePattern` — calls and patterns in the
  order of a document.
* `GraphQuery.HoldsData.answers_build`, `GraphQuery.BindsData.isData_of_build` — what is built.
-/

namespace BoundQuery

open Result

/-! ## Work that is answered or refused -/

namespace Minting

variable {α β : Type} {P : α → Prop} {Q : β → Prop} {m : Minting α} {f : α → Minting β}

/-- Answered by something with the property `P`, or refused, wherever the counter stands. -/
def Answers (m : Minting α) (P : α → Prop) : Prop :=
  ∀ n, Result.Answers P (m.outcome n).1

theorem answers_pure {a : α} (h : P a) : Answers (pure a) P :=
  fun _ => .ok h


theorem answers_lift {r : Result α} (h : r.Answers P) : Answers (liftM r) P :=
  fun _ => h

theorem Answers.bind (h : m.Answers P) (rest : ∀ a, P a → (f a).Answers Q) :
    (m >>= f).Answers Q := by
  intro n
  have first := h n
  rw [outcome_bind]
  generalize m.outcome n = out at first ⊢
  obtain ⟨answer, k⟩ := out
  cases first with
  | ok holds => exact rest _ holds k
  | refused input => exact .refused input

/-- A check, and the work after it. -/
theorem answers_bind_lift {r : Result α} (h : r.Answers P) (rest : ∀ a, P a → (f a).Answers Q) :
    (liftM r >>= f : Minting β).Answers Q :=
  (answers_lift h).bind rest

theorem answers_name (stem : Str) : (name stem).Answers fun _ => True :=
  fun _ => .ok trivial

end Minting

/-! ## Patterns -/

namespace Pattern

/-- What a pattern binds is data. -/
def HoldsData (p : Pattern) : Prop :=
  ∀ entry ∈ p.params, entry.2.IsData

/-- A text, or a pattern that binds data. -/
def IsPlaceable (v : Value) : Prop :=
  v.IsString ∨ ∃ p : Pattern, v = p.toValue ∧ p.HoldsData

theorem answers_fill {t : Template} (h : t.HoldsData) : (Minting.fill t).Answers HoldsData := by
  intro n
  refine .ok fun entry mem => ?_
  have filled : Named.fill t { counter := n } = _ := Named.fill_eq t { counter := n }
  have values : entry ∈ Bindings.merge [] (t.inscribe Named.defaultStem n).bindings := by
    change entry ∈ (Named.fill t { counter := n }).2.values at mem
    rwa [filled] at mem
  rcases Bindings.mem_of_mem_merge (a := []) (n := entry.1) (v := entry.2) values with none | bound
  · cases none
  · exact h _ (t.values_inscribe Named.defaultStem n ▸ List.mem_map_of_mem bound)

theorem answers_bound (stem before : Str) {v : Value} (data : v.IsData) (after : Str) :
    (bound stem before v after).Answers HoldsData :=
  (Minting.answers_name stem).bind fun _ _ =>
    Minting.answers_pure (by simpa [HoldsData] using data)

theorem answers_ofValue {v : Value} (h : IsPlaceable v) : (ofValue v).Answers HoldsData := by
  rcases h with ⟨s, rfl⟩ | ⟨p, rfl, data⟩
  · unfold ofValue
    dsimp only
    split
    · exact .refused rfl
    · exact .ok (by simp [HoldsData])
  · unfold ofValue toValue
    dsimp only
    split
    · exact .refused rfl
    · exact .ok data

theorem answers_identifier? (context : Str) (v : Value) :
    (identifier? context v).Answers fun _ => True := by
  unfold identifier?
  split
  · exact (Name.answers_gate _ _ v).map fun _ _ => trivial
  · exact .ok trivial

/-- Several names, of which the first that is none is refused. -/
theorem answers_plain (context : Str) (xs : List Value) :
    (xs.mapM fun x => Name.plain context x).Answers fun _ => True :=
  (answers_mapM fun x _ => Name.answers_gate _ context x).imp fun _ _ => trivial

theorem answers_properties (stem : Str) {v : Value} (data : v.IsData)
    (shape : Document.IfGiven Value.IsMapping v) :
    (properties stem v).Answers fun written => ∀ entry ∈ written.2, entry.2.IsData := by
  unfold properties
  split
  · next given =>
    obtain ⟨entries, rfl⟩ := shape.shape given
    have elements := data.answers_elements (.inr (.inr ⟨entries, rfl⟩))
    simp only [Minting.mapM_lift]
    refine Minting.answers_bind_lift elements fun xs _ => ?_
    refine Minting.answers_bind_lift (answers_plain _ xs) fun keys _ => ?_
    refine Minting.answers_bind_lift (.ok data) fun mapping isData => ?_
    refine (Minting.answers_name stem).bind fun word _ => Minting.answers_pure ?_
    simpa using isData
  · exact Minting.answers_pure (by simp)

/-- What labels a node: nothing, one label or a list of them. -/
def HasLabels (v : Value) : Prop :=
  v = .null ∨ v.IsString ∨ v.IsList

theorem answers_labels {v : Value} (shape : HasLabels v) : (labels v).Answers fun _ => True := by
  unfold labels
  split
  · exact .ok trivial
  · next given =>
    rcases shape with rfl | shape
    · exact absurd rfl given
    · exact Value.answers_asList shape

theorem answers_node (identifier : Value) {labels properties : Value} (named : HasLabels labels)
    (data : properties.IsData) (shape : Document.IfGiven Value.IsMapping properties) :
    (node identifier labels properties).Answers HoldsData := by
  unfold node
  refine Minting.answers_bind_lift (answers_identifier? _ identifier) fun name _ => ?_
  refine Minting.answers_bind_lift (answers_labels named) fun xs _ => ?_
  rw [Minting.mapM_lift]
  refine Minting.answers_bind_lift (answers_plain _ xs) fun texts _ => ?_
  exact (answers_properties _ data shape).bind fun written holds => Minting.answers_pure holds

theorem answers_relationship (identifier type direction : Value) {properties : Value}
    (data : properties.IsData) (shape : Document.IfGiven Value.IsMapping properties) :
    (relationship identifier type properties direction).Answers HoldsData := by
  unfold relationship
  refine Minting.answers_bind_lift (answers_checkRelDirection direction) fun arrow _ => ?_
  refine Minting.answers_bind_lift (answers_identifier? _ identifier) fun name _ => ?_
  refine Minting.answers_bind_lift (answers_identifier? _ type) fun kind _ => ?_
  exact (answers_properties _ data shape).bind fun written holds => Minting.answers_pure holds

theorem mem_of_mem_merge {a b : Bindings} {entry : Str × Value} (mem : entry ∈ a.merge b) :
    entry ∈ a ∨ entry ∈ b :=
  Bindings.mem_of_mem_merge (n := entry.1) (v := entry.2) mem

theorem holdsData_concat {ps : List Pattern} (each : ∀ p ∈ ps, p.HoldsData) :
    (concat ps).HoldsData := by
  refine List.foldlRecOn ps append (by simp [HoldsData, empty]) fun made holds p inside => ?_
  intro entry mem
  rcases mem_of_mem_merge mem with before | here
  · exact holds entry before
  · exact each p inside entry here

/-- A path of patterns that have been made. -/
theorem answers_path {ps : List Pattern} (each : ∀ p ∈ ps, p.HoldsData) :
    (path (.list (ps.map toValue))).Answers HoldsData := by
  have elements : (ps.map toValue).mapM ofPathElement = .ok ps := by
    rw [Result.mapM_eq_ok, List.forall₂_map_left_iff]
    exact List.forall₂_same.2 fun p _ => rfl
  have made : path (.list (ps.map toValue)) = .ok (concat ps) := by
    change ((ps.map toValue).mapM ofPathElement >>= fun made => .ok (concat made)) = _
    rw [elements]
    rfl
  rw [made]
  exact .ok (holdsData_concat each)

end Pattern

/-! ## Calls -/

namespace GraphQuery

/-- A query of texts that binds data. -/
structure HoldsData (q : GraphQuery) : Prop where
  config : q.config = .standard
  patterns : ∀ clause, ∀ p ∈ q.patterns clause, p.HoldsData
  withItems : ∀ v ∈ q.withItems, v.IsString
  returnItems : ∀ v ∈ q.returnItems, v.IsString
  skip : ∀ p ∈ q.skip, p.HoldsData
  limit : ∀ p ∈ q.limit, p.HoldsData

def Edit.HoldsData : Edit → Prop
  | place _ p | skip p | limit p => p.HoldsData
  | withItem v | returnItem v => v.IsString
  | delete _ | detachDelete _ | order _ => True

/-- A call of a document, with data in the places where a call looks into it. -/
def Call.HoldsData : Call → Prop
  | matching v | optionalMatching v | create v | merge v => Pattern.IsPlaceable v
  | unwind items _ => items.IsData ∧ (items.IsString ∨ items.IsList)
  | filters _ mapping => mapping.IsData ∧ mapping.IsMapping
  | setProperty _ _ v => v.IsData
  | setProperties _ v => v.IsData ∧ v.IsMapping
  | withItems items | returnItems items => ∀ v ∈ items, v.IsString
  | delete _ | detachDelete _ | orderBy _ _ | skip _ | limit _ => True
  | condition _ _ | compare _ _ _ _ | shorthand _ _ _ _ | null _ _ | notNull _ _ | assign _ _ =>
    False

variable {q : GraphQuery}

theorem holdsData_new : HoldsData { config := .standard } where
  config := rfl
  patterns := by simp
  withItems := by simp
  returnItems := by simp
  skip := by simp
  limit := by simp

theorem HoldsData.apply (h : q.HoldsData) {e : Edit} (data : e.HoldsData) :
    (q.apply e).HoldsData := by
  cases e with
  | place clause p =>
    have all : ∀ c, ∀ r ∈ (q.apply (.place clause p)).patterns c, r.HoldsData := by
      intro c r mem
      by_cases same : c = clause
      · have listed : r ∈ q.patterns c ++ [p] := by simpa [GraphQuery.apply, same] using mem
        rcases List.mem_append.1 listed with before | here
        · exact h.patterns c r before
        · exact List.mem_singleton.1 here ▸ data
      · exact h.patterns c r (by simpa [GraphQuery.apply, same] using mem)
    exact { h with patterns := all }
  | withItem v =>
    have all : ∀ w ∈ q.withItems ++ [v], w.IsString := by
      simpa [or_imp, forall_and] using ⟨h.withItems, data⟩
    exact { h with withItems := all }
  | returnItem v =>
    have all : ∀ w ∈ q.returnItems ++ [v], w.IsString := by
      simpa [or_imp, forall_and] using ⟨h.returnItems, data⟩
    exact { h with returnItems := all }
  | skip p =>
    have all : ∀ r ∈ some p, r.HoldsData := by rintro _ ⟨⟩; exact data
    exact { h with skip := all }
  | limit p =>
    have all : ∀ r ∈ some p, r.HoldsData := by rintro _ ⟨⟩; exact data
    exact { h with limit := all }
  | delete _ | detachDelete _ | order _ => exact { h with }

theorem answers_propertyRef (identifier property : Value) :
    (propertyRef identifier property).Answers fun _ => True :=
  (Name.answers_gate _ _ identifier).bind fun _ _ =>
    (Name.answers_gate _ _ property).bind fun _ _ => .ok trivial

theorem answers_conditionEdits {cs : List FieldCondition} (data : ∀ c ∈ cs, c.HoldsData) :
    (conditionEdits cs).Answers fun edits => ∀ e ∈ edits, e.HoldsData := by
  induction cs with
  | nil => exact Minting.answers_pure (by simp)
  | cons c rest ih =>
    obtain ⟨first, others⟩ := List.forall_mem_cons.1 data
    unfold conditionEdits
    split
    · exact ih others
    · next t written =>
      refine (Pattern.answers_fill (c.holdsData_template? first written)).bind fun p holds => ?_
      refine (ih others).bind fun edits rest => Minting.answers_pure ?_
      exact List.forall_mem_cons.2 ⟨holds, rest⟩

theorem answers_placed (clause : PatternClause) {make : Minting Pattern}
    (h : make.Answers Pattern.HoldsData) :
    (placed clause make).Answers fun edits => ∀ e ∈ edits, e.HoldsData :=
  h.bind fun p holds => Minting.answers_pure (by simpa [Edit.HoldsData] using holds)

theorem answers_unwound (identifier : Value) {items : Value} (data : items.IsData)
    (shape : items.IsString ∨ items.IsList) :
    (unwound items identifier).Answers Pattern.HoldsData := by
  unfold unwound
  refine Minting.answers_bind_lift (Name.answers_gate _ _ identifier) fun name _ => ?_
  rcases shape with ⟨s, rfl⟩ | ⟨xs, rfl⟩
  · exact Minting.answers_pure (by simp [Pattern.HoldsData])
  · exact Minting.answers_bind_lift (P := fun ys => (Value.list ys).IsData) (.ok data)
      fun ys isData => Pattern.answers_bound _ _ isData _

theorem answers_assignedProperties (identifier : Value) {properties : Value}
    (data : properties.IsData) (shape : properties.IsMapping) :
    (assignedProperties identifier properties).Answers Pattern.HoldsData := by
  obtain ⟨entries, rfl⟩ := shape
  unfold assignedProperties
  simp only [Minting.mapM_lift]
  have elements := data.answers_elements (.inr (.inr ⟨entries, rfl⟩))
  refine Minting.answers_bind_lift elements fun xs _ => ?_
  refine Minting.answers_bind_lift (Pattern.answers_plain _ xs) fun _ _ => ?_
  refine Minting.answers_bind_lift (Name.answers_gate _ _ identifier) fun name _ => ?_
  exact Minting.answers_bind_lift (.ok data) fun mapping isData =>
    Pattern.answers_bound _ _ isData _

theorem answers_counted (what keyword : Str) (count : Value) :
    (counted what keyword count).Answers Pattern.HoldsData :=
  Minting.answers_bind_lift (answers_checkCount what count) fun n _ =>
    Pattern.answers_bound _ _ (.int n) _

theorem answers_orderText (item direction : Value) :
    (orderText item direction).Answers fun _ => True :=
  (answers_checkDirection direction).bind fun _ _ =>
    (Name.answers_gate _ _ item).bind fun _ _ => .ok trivial

/-- The properties of a filter, as fields of one identifier. -/
theorem answers_qualifiedEntry (identifier : Text) {entry : Value × Value}
    (data : entry.2.IsData) :
    (qualifiedEntry identifier entry).Answers fun field => field.2.IsData :=
  (Name.answers_gate _ _ entry.1).bind fun _ _ => .ok data

namespace Call

theorem answers_edits (marker : List Chr) {c : Call} (h : c.HoldsData) :
    (c.edits marker).Answers fun edits => ∀ e ∈ edits, e.HoldsData := by
  cases c with
  | matching v | optionalMatching v | create v | merge v =>
    exact answers_placed _ (Minting.answers_lift (Pattern.answers_ofValue h))
  | unwind items identifier => exact answers_placed _ (answers_unwound identifier h.1 h.2)
  | filters identifier mapping =>
    obtain ⟨data, entries, rfl⟩ := h
    cases data with | map _ _ each =>
    unfold edits
    simp only [Minting.mapM_lift]
    refine Minting.answers_bind_lift (Name.answers_gate _ _ identifier) fun name _ => ?_
    refine Minting.answers_bind_lift (P := fun found => found = entries) (.ok rfl) ?_
    rintro _ rfl
    have qualified := answers_mapM fun entry mem => answers_qualifiedEntry name (each entry mem)
    refine Minting.answers_bind_lift qualified fun fields data => ?_
    refine Minting.answers_bind_lift (Filter.answers_conditionsOfEntries .graph data) ?_
    exact fun cs holds => answers_conditionEdits holds
  | setProperty identifier property v =>
    refine answers_placed _ (Minting.answers_bind_lift (answers_propertyRef identifier property) ?_)
    exact fun ref _ => Pattern.answers_bound _ _ h _
  | setProperties identifier properties =>
    exact answers_placed _ (answers_assignedProperties identifier h.1 h.2)
  | withItems items | returnItems items =>
    refine Minting.answers_pure fun e mem => ?_
    obtain ⟨v, inside, rfl⟩ := List.mem_map.1 mem
    exact h v inside
  | delete targets | detachDelete targets => exact Minting.answers_pure (by simp)
  | orderBy item direction =>
    refine Minting.answers_bind_lift (answers_orderText item direction) fun text _ => ?_
    exact Minting.answers_pure (by simp [Edit.HoldsData])
  | skip count | limit count =>
    refine (answers_counted _ _ count).bind fun p holds => Minting.answers_pure ?_
    simpa [Edit.HoldsData] using holds
  | condition _ _ | compare _ _ _ _ | shorthand _ _ _ _ | null _ _ | notNull _ _ | assign _ _ =>
    exact h.elim

theorem answers_effect (marker : List Chr) (n : Nat) {c : Call} (h : c.HoldsData) :
    (c.effect marker n).1.Answers Edit.HoldsData := by
  cases c with
  | delete targets | detachDelete targets =>
    exact Effect.answers_upToFault fun v _ => (Name.answers_gate _ _ v).map fun _ _ => trivial
  | _ => exact Effect.answers_ofResult (answers_edits marker h n)

end Call

/-- What edits that hold data keep of a query, wherever its counter stands. -/
structure IsKept (I : GraphQuery → Prop) : Prop where
  apply {q : GraphQuery} {e : Edit} : I q → e.HoldsData → I (q.apply e)
  counter {q : GraphQuery} (n : Nat) : I q → I { q with counter := n }

theorem isKept_holdsData : IsKept HoldsData where
  apply h data := h.apply data
  counter _ h := { h with }

theorem run_call (c : Call) (q : GraphQuery) :
    (Building.call c).run q = match q.step c with
      | (_, some fault) => .error fault
      | (q, none) => .ok ((), q) := by
  simp only [Building.call, StateT.run_bind, StateT.run_get, pure_bind]
  rcases q.step c with ⟨q', _ | fault⟩ <;> rfl

theorem run_makePattern (making : Making) (q : GraphQuery) :
    (Building.makePattern making).run q =
      (making.run.outcome q.counter).1.map fun p =>
        (p, { q with counter := (making.run.outcome q.counter).2 }) := by
  simp only [Building.makePattern, make, StateT.run_bind, StateT.run_get, pure_bind]
  cases (making.run.outcome q.counter).1 <;> rfl

section
variable {I : GraphQuery → Prop}

/-- A call on data is made or refused, and keeps what its edits keep. -/
theorem IsKept.keeps_call (kept : IsKept I) {c : Call} (h : c.HoldsData) :
    Keeps I (Building.call c) fun _ => True := by
  intro q holds
  have effect := Call.answers_effect q.config.marker q.counter h
  have start := kept.counter (c.effect q.config.marker q.counter).2 holds
  have after := effect.foldl start fun _ before _ data => kept.apply before data
  refine effect.settle (a := ((), _)) (fun f cut => ?_) (fun whole => ?_) ⟨trivial, after⟩
  · simp only [Building.call, step, StateT.run_bind, StateT.run_get, pure_bind, cut]
    rfl
  · simp only [Building.call, step, StateT.run_bind, StateT.run_get, pure_bind, whole]
    rfl

/-- A pattern of data is made or refused, and the query stays as it is but for its counter. -/
theorem IsKept.keeps_makePattern (kept : IsKept I) {making : Making}
    (h : making.run.Answers Pattern.HoldsData) :
    Keeps I (Building.makePattern making) Pattern.HoldsData := by
  intro q holds
  rw [run_makePattern]
  exact (h q.counter).map fun p made => ⟨made, kept.counter _ holds⟩

end

theorem keeps_call {c : Call} (h : c.HoldsData) :
    Keeps HoldsData (Building.call c) fun _ => True :=
  isKept_holdsData.keeps_call h

theorem keeps_makePattern {making : Making} (h : making.run.Answers Pattern.HoldsData) :
    Keeps HoldsData (Building.makePattern making) Pattern.HoldsData :=
  isKept_holdsData.keeps_makePattern h

/-! ## What is built -/

theorem holdsData_eachPattern (keyword : Str) {ps : List Pattern}
    (h : ∀ p ∈ ps, p.HoldsData) :
    ∀ c ∈ eachPattern keyword ps, ∀ p ∈ c.pieces, p.HoldsData := by
  intro c mem p inside
  obtain ⟨r, inPatterns, rfl⟩ := List.mem_map.1 mem
  exact List.mem_singleton.1 inside ▸ h r inPatterns

theorem holdsData_joinedPatterns (keyword separator : Str) {ps : List Pattern}
    (h : ∀ p ∈ ps, p.HoldsData) :
    ∀ c ∈ joinedPatterns keyword separator ps, ∀ p ∈ c.pieces, p.HoldsData := by
  intro c mem
  cases ps with
  | nil => cases mem
  | cons p ps => exact List.mem_singleton.1 mem ▸ h

theorem holdsData_joinedTexts (keyword : Str) (texts : List Str) :
    ∀ c ∈ joinedTexts keyword texts, ∀ p ∈ c.pieces, p.HoldsData := by
  intro c mem p inside
  cases texts with
  | nil => cases mem
  | cons t ts =>
    obtain rfl := List.mem_singleton.1 mem
    cases inside

theorem HoldsData.answers_clauses (h : q.HoldsData) :
    q.clauses.Answers fun cs => ∀ c ∈ cs, ∀ p ∈ c.pieces, p.HoldsData := by
  refine (answers_spellings h.withItems 0).bind fun withTexts _ => ?_
  refine (answers_spellings h.returnItems 0).bind fun returnTexts _ => .ok ?_
  have skip : ∀ p ∈ q.skip.toList, p.HoldsData := by simpa using h.skip
  have limit : ∀ p ∈ q.limit.toList, p.HoldsData := by simpa using h.limit
  have each (keyword : Str) (clause : PatternClause) :=
    holdsData_eachPattern keyword (h.patterns clause)
  have joined (keyword between : Str) (clause : PatternClause) :=
    holdsData_joinedPatterns keyword between (h.patterns clause)
  simp only [List.forall_mem_append, and_assoc]
  exact ⟨each _ _, each _ _, each _ _, joined _ _ _, holdsData_joinedTexts _ _, each _ _, each _ _,
    joined _ _ _, holdsData_joinedTexts _ _, holdsData_joinedTexts _ _, holdsData_joinedTexts _ _,
    holdsData_joinedTexts _ _, holdsData_eachPattern _ skip, holdsData_eachPattern _ limit⟩

theorem holdsData_params {cs : List Clause} (h : ∀ c ∈ cs, ∀ p ∈ c.pieces, p.HoldsData) :
    ∀ entry ∈ params cs, entry.2.IsData := by
  unfold params
  refine List.foldlRecOn (motive := fun made : Bindings => ∀ entry ∈ made, entry.2.IsData) _ _
    (fun _ mem => by cases mem) fun made holds p inside entry mem => ?_
  rcases Pattern.mem_of_mem_merge mem with before | here
  · exact holds entry before
  · obtain ⟨c, inClauses, piece⟩ := List.mem_flatMap.1 inside
    exact h c inClauses p piece entry here

theorem nodup_keys_params (cs : List Clause) : (params cs).keys.Nodup :=
  List.foldlRecOn (motive := fun made : Bindings => made.keys.Nodup) _ _ List.nodup_nil
    fun _ distinct _ _ => Bindings.nodup_keys_merge distinct

/-- Each parameter has a name of its own. -/
theorem isData_params {cs : List Clause} (h : ∀ c ∈ cs, ∀ p ∈ c.pieces, p.HoldsData) :
    (Value.record (params cs)).IsData :=
  .record (nodup_keys_params cs) (holdsData_params h)

theorem HoldsData.answers_build (h : q.HoldsData) :
    q.build.Answers fun query => (Value.record query.params).IsData := by
  have separated : (separator q.config).Answers fun _ => True := by
    rw [h.config]
    exact .ok trivial
  exact h.answers_clauses.bind fun cs holds => separated.bind fun _ _ =>
    .ok (isData_params holds)

/-! ## Any configuration -/

/-- A query of texts that binds data, whatever its configuration is. -/
def BindsData (q : GraphQuery) : Prop :=
  HoldsData { q with config := .standard }

theorem isKept_bindsData : IsKept BindsData where
  apply {q e} h data := by
    have same : { q.apply e with config := .standard } =
        apply { q with config := .standard } e := by cases e <;> rfl
    rw [BindsData, same]
    exact HoldsData.apply h data
  counter _ h := isKept_holdsData.counter _ h

theorem bindsData_new (config : Config) : BindsData { config } :=
  holdsData_new

/-- Whatever is built of such a query, its parameters are data. -/
theorem BindsData.isData_of_build (h : q.BindsData) {r : CypherQuery} (built : q.build = .ok r) :
    (Value.record r.params).IsData := by
  obtain ⟨cs, listed, built⟩ := Result.bind_eq_ok.1 built
  obtain ⟨between, _, same⟩ := Result.bind_eq_ok.1 built
  cases same
  have listed : GraphQuery.clauses { q with config := .standard } = .ok cs := listed
  have holds := h.answers_clauses
  rw [listed] at holds
  cases holds with
  | ok holds => exact isData_params holds

end GraphQuery
end BoundQuery
