import BoundQuery.Proofs.Alphabet.Statement
import BoundQuery.Proofs.GraphQuery.Session

/-!
# Alphabets of graph queries

A node, a relationship or a path of them is written in the alphabet of graph queries, and so is
whatever is placed by a call that takes no text of the caller.

## Main definitions

* `Pattern.IsComposed` — a pattern that was made of nodes and relationships.
* `GraphQuery.Call.IsOwn` — a call that takes no text of the caller.
* `GraphQuery.IsOwn` — a query after such calls.

## Main statements

* `GraphQuery.IsOwn.admits_clauses` — the clauses of such a query are in the alphabet.
* `admits_of_build` — so is what is built from it, apart from the text between its clauses, and what
  is built from a relational statement without texts of the caller.
-/

namespace BoundQuery

/-! ## Work that writes in the alphabet -/

/-- The text of a pattern is in the alphabet. -/
def Pattern.IsAdmitted (p : Pattern) : Prop :=
  Dialect.graph.Admits p.text

namespace Minting

theorem gives_name {stem : Str} (h : Dialect.graph.Admits stem) :
    (name stem).Gives Dialect.graph.Admits := by
  intro n word k answered
  rw [run_name] at answered
  cases answered
  exact Mark.admits_word h (n + 1)

theorem gives_fill {t : Template} (h : t.IsAdmitted .graph) :
    (fill t).Gives Pattern.IsAdmitted := by
  intro n p k answered
  have text : p.text = (Named.fill t { counter := n }).1 := by
    cases answered
    rfl
  rw [Pattern.IsAdmitted, text]
  refine Template.admits_fill (fun v store => ?_) h (⟨n, []⟩ : Named)
  have stem : Dialect.graph.Admits Named.defaultStem := by decide
  exact Dialect.admits_append.2 ⟨by decide, Mark.admits_word stem (store.counter + 1)⟩

theorem gives_bound {stem before after : Str} (named : Dialect.graph.Admits stem)
    (left : Dialect.graph.Admits before) (right : Dialect.graph.Admits after) (v : Value) :
    (Pattern.bound stem before v after).Gives Pattern.IsAdmitted := by
  refine (gives_name named).bind fun word inAlphabet => gives_pure ?_
  have dollar : Dialect.graph.Admits "$" := by decide
  simp [Pattern.IsAdmitted, left, dollar, inAlphabet, right]

end Minting

/-! ## Patterns -/

namespace Pattern

theorem isNameLike_of_keys {context : Str} {xs : List Value} {keys : List Text}
    (h : xs.mapM (fun key => Name.plain context key) = .ok keys) :
    ∀ key ∈ keys, key.IsNameLike := by
  intro key mem
  obtain ⟨v, _, passed⟩ := Result.exists_of_mem_mapM h mem
  exact Text.isNameLike_of_plain passed

theorem admits_propertiesText {param : Str} {keys : List Text}
    (word : Dialect.graph.Admits param) (names : ∀ key ∈ keys, key.IsNameLike) :
    Dialect.graph.Admits (propertiesText param keys) := by
  have opening : Dialect.graph.Admits " \x7b" := by decide
  have closing : Dialect.graph.Admits "\x7d" := by decide
  have between : Dialect.graph.Admits ": $" := by decide
  have dot : Dialect.graph.Admits "." := by decide
  have listed : Dialect.graph.Admits
      (Str.intercalate ", " (keys.map (propertyText param))) := by
    refine Dialect.admits_intercalate (by decide) fun s mem => ?_
    obtain ⟨key, inKeys, rfl⟩ := List.mem_map.1 mem
    simp [propertyText, (names key inKeys).admits_shown, between, word, dot]
  simp [propertiesText, opening, listed, closing]

theorem gives_properties {stem : Str} (named : Dialect.graph.Admits stem) (v : Value) :
    (properties stem v).Gives fun written => Dialect.graph.Admits written.1 := by
  unfold properties
  split
  · refine Minting.gives_bind_lift fun xs _ => ?_
    rw [Minting.mapM_lift]
    refine Minting.gives_bind_lift fun keys read => Minting.gives_bind_lift fun mapping _ => ?_
    refine (Minting.gives_name named).bind fun word inAlphabet => Minting.gives_pure ?_
    exact admits_propertiesText inAlphabet (isNameLike_of_keys read)
  · exact Minting.gives_pure Dialect.admits_empty

theorem admits_of_identifier? {context : Str} {v : Value} {name : Option Text}
    (h : identifier? context v = .ok name) :
    Dialect.graph.Admits (optionalSpelling name) ∧ Dialect.graph.Admits (typeText name) := by
  unfold identifier? at h
  split at h
  · obtain ⟨t, gate, rfl⟩ := Result.map_eq_ok.1 h
    have name := Text.isNameLike_of_plain gate
    have colon : Dialect.graph.Admits ":" := by decide
    exact ⟨name.admits_spelling _, by simp [typeText, colon, name.admits_shown]⟩
  · cases h
    exact ⟨Dialect.admits_empty, Dialect.admits_empty⟩

theorem gives_node (identifier labels properties : Value) :
    (node identifier labels properties).Gives IsAdmitted := by
  refine Minting.gives_bind_lift fun name named => Minting.gives_bind_lift fun xs _ => ?_
  rw [Minting.mapM_lift]
  refine Minting.gives_bind_lift fun texts read => ?_
  refine (gives_properties (by decide) properties).bind fun written inAlphabet => ?_
  have opening : Dialect.graph.Admits "(" := by decide
  have closing : Dialect.graph.Admits ")" := by decide
  have labelled : Dialect.graph.Admits (Str.join (texts.map fun l => ":" ++ l.shown)) := by
    refine Dialect.admits_join fun s mem => ?_
    obtain ⟨l, inTexts, rfl⟩ := List.mem_map.1 mem
    have colon : Dialect.graph.Admits ":" := by decide
    simp [colon, (isNameLike_of_keys read l inTexts).admits_shown]
  refine Minting.gives_pure ?_
  simp [IsAdmitted, opening, (admits_of_identifier? named).1, labelled, inAlphabet, closing]

theorem gives_relationship (identifier type properties direction : Value) :
    (relationship identifier type properties direction).Gives IsAdmitted := by
  refine Minting.gives_bind_lift fun d _ => Minting.gives_bind_lift fun name named => ?_
  refine Minting.gives_bind_lift fun kind typed => ?_
  refine (gives_properties (by decide) properties).bind fun written inAlphabet => ?_
  have tail : Dialect.graph.Admits (tailOf d) := by cases d <;> decide
  have tip : Dialect.graph.Admits (tipOf d) := by cases d <;> decide
  have opening : Dialect.graph.Admits "[" := by decide
  have closing : Dialect.graph.Admits "]" := by decide
  refine Minting.gives_pure ?_
  simp [IsAdmitted, tail, opening, (admits_of_identifier? named).1, (admits_of_identifier? typed).2,
    inAlphabet, closing, tip]

theorem isAdmitted_concat {ps : List Pattern} (each : ∀ p ∈ ps, p.IsAdmitted) :
    (concat ps).IsAdmitted := by
  refine List.foldlRecOn _ _ Dialect.admits_empty fun made before p mem => ?_
  exact Dialect.admits_append.2 ⟨before, each p mem⟩

/-- A pattern that some builder has made, where the elements of a path are such patterns too. -/
inductive IsComposed : Pattern → Prop
  | node {identifier labels properties : Value} {n k : Nat} {p : Pattern}
      (made : (node identifier labels properties).run n = .ok (p, k)) : IsComposed p
  | relationship {identifier type properties direction : Value} {n k : Nat} {p : Pattern}
      (made : (relationship identifier type properties direction).run n = .ok (p, k)) :
      IsComposed p
  | path {patterns : Value} {xs : List Value} {p : Pattern} (listed : patterns.elements = .ok xs)
      (elements : ∀ e : Pattern, e.toValue ∈ xs → IsComposed e) (made : path patterns = .ok p) :
      IsComposed p

theorem IsComposed.isAdmitted {p : Pattern} (h : p.IsComposed) : p.IsAdmitted := by
  induction h with
  | @node identifier labels properties n k p made =>
    exact gives_node identifier labels properties n p k made
  | @relationship identifier type properties direction n k p made =>
    exact gives_relationship identifier type properties direction n p k made
  | @path patterns xs p listed elements made ih =>
    obtain ⟨xs', listed', made⟩ := Result.bind_eq_ok.1 made
    obtain ⟨ps, read, same⟩ := Result.bind_eq_ok.1 made
    cases same
    cases listed.symm.trans listed'
    refine isAdmitted_concat fun e mem => ?_
    obtain ⟨v, inElements, isPattern⟩ := Result.exists_of_mem_mapM read mem
    rw [ofPathElement_eq_ok] at isPattern
    exact ih e (isPattern ▸ inElements)

end Pattern

namespace GraphQuery

/-! ## Calls -/

/-- What an edit writes is in the alphabet; an item for `WITH` or `RETURN` is text of the caller. -/
def Edit.IsAdmitted : Edit → Prop
  | place _ p | skip p | limit p => p.IsAdmitted
  | delete target | detachDelete target => target.IsNameLike
  | order text => Dialect.graph.Admits text
  | withItem _ | returnItem _ => False

/-- A call that takes no text of the caller: it places composed patterns only, unwinds no
expression, and has no raw fragment or item. -/
def Call.IsOwn : Call → Prop
  | matching v | optionalMatching v | create v | merge v =>
    ∀ p, Pattern.ofValue v = .ok p → p.IsComposed
  | unwind items _ => ∀ t, items ≠ .text t
  | condition _ _ | assign _ _ | withItems _ | returnItems _ => False
  | compare _ _ _ _ | shorthand _ _ _ _ | null _ _ | notNull _ _ | filters _ _ | setProperty _ _ _
  | setProperties _ _ | delete _ | detachDelete _ | orderBy _ _ | skip _ | limit _ => True

/-- Work that makes edits which write in the alphabet. -/
def Writes (m : Minting (List Edit)) : Prop :=
  m.Gives fun edits => ∀ e ∈ edits, e.IsAdmitted

theorem writes_single {m : Minting Pattern} (h : m.Gives Pattern.IsAdmitted) {g : Pattern → Edit}
    (edit : ∀ p, p.IsAdmitted → (g p).IsAdmitted) : Writes (do return [g (← m)]) :=
  h.bind fun p admitted => Minting.gives_pure (by simpa using edit p admitted)

theorem writes_placed {m : Minting Pattern} (h : m.Gives Pattern.IsAdmitted)
    (clause : PatternClause) : Writes (placed clause m) :=
  writes_single h fun _ admitted => admitted

theorem gives_ofValue {v : Value} (h : ∀ p, Pattern.ofValue v = .ok p → p.IsComposed) :
    Minting.Gives (liftM (Pattern.ofValue v)) Pattern.IsAdmitted := by
  intro n p k answered
  exact (h p (Minting.lift_eq_ok answered).1).isAdmitted

theorem writes_conditionEdits {cs : List FieldCondition} (h : ∀ c ∈ cs, c.field.IsNameLike) :
    Writes (conditionEdits cs) := by
  induction cs with
  | nil => exact Minting.gives_pure (by simp)
  | cons c rest ih =>
    have others := ih fun c mem => h c (List.mem_cons_of_mem _ mem)
    rw [conditionEdits]
    cases written : c.template? .graph with
    | none => exact others
    | some t =>
      have admitted := FieldCondition.isAdmitted_template? (h c List.mem_cons_self) written
      refine (Minting.gives_fill admitted).bind fun p inAlphabet => others.bind fun edits each => ?_
      exact Minting.gives_pure (List.forall_mem_cons.2 ⟨inAlphabet, each⟩)

theorem writes_comparison (identifier property operator operand : Value) :
    Writes (comparison identifier property operator operand) := by
  refine Minting.gives_bind_lift fun field _ => Minting.gives_bind_lift fun c made => ?_
  refine writes_conditionEdits fun c' mem => ?_
  rw [List.mem_singleton.1 mem]
  exact Text.isNameLike_of_isQualified (FieldCondition.isQualified_of_make made)

theorem writes_filters (marker : List Chr) (identifier mapping : Value) :
    Writes ((Call.filters identifier mapping).edits marker) := by
  unfold Call.edits
  refine Minting.gives_bind_lift fun name _ => Minting.gives_bind_lift fun entries _ => ?_
  rw [Minting.mapM_lift]
  refine Minting.gives_bind_lift fun qualified _ => Minting.gives_bind_lift fun cs made => ?_
  refine writes_conditionEdits fun c mem => ?_
  exact Text.isNameLike_of_isQualified (Filter.isQualified_of_conditionsOfEntries made c mem)

theorem admits_of_propertyRef {identifier property : Value} {ref : Str}
    (h : propertyRef identifier property = .ok ref) : Dialect.graph.Admits ref := by
  obtain ⟨name, named, h⟩ := Result.bind_eq_ok.1 h
  obtain ⟨key, keyed, same⟩ := Result.bind_eq_ok.1 h
  cases same
  have name := Text.isNameLike_of_plain named
  have key := Text.isNameLike_of_plain keyed
  have dot : Dialect.graph.Admits "." := by decide
  simp [name.admits_shown, key.admits_shown, dot]

theorem gives_propertyAssignment (identifier property value : Value) :
    Minting.Gives (do
      Pattern.bound Named.defaultStem ((← propertyRef identifier property) ++ " = ") value "")
      Pattern.IsAdmitted := by
  refine Minting.gives_bind_lift fun ref found => ?_
  have equal : Dialect.graph.Admits " = " := by decide
  refine Minting.gives_bound (by decide) ?_ Dialect.admits_empty value
  exact Dialect.admits_append.2 ⟨admits_of_propertyRef found, equal⟩

theorem gives_assignedProperties (identifier properties : Value) :
    (assignedProperties identifier properties).Gives Pattern.IsAdmitted := by
  refine Minting.gives_bind_lift fun xs _ => ?_
  rw [Minting.mapM_lift]
  refine Minting.gives_bind_lift fun keys _ => Minting.gives_bind_lift fun name named => ?_
  refine Minting.gives_bind_lift fun mapping _ => ?_
  have name := Text.isNameLike_of_plain named
  have sign : Dialect.graph.Admits " += " := by decide
  refine Minting.gives_bound (by decide) ?_ Dialect.admits_empty mapping
  exact Dialect.admits_append.2 ⟨name.admits_shown _, sign⟩

theorem gives_unwound {items : Value} (list : ∀ t, items ≠ .text t) (identifier : Value) :
    (unwound items identifier).Gives Pattern.IsAdmitted := by
  refine Minting.gives_bind_lift fun name named => ?_
  have name := Text.isNameLike_of_plain named
  have keyword : Dialect.graph.Admits " AS " := by decide
  split
  · next t => exact absurd rfl (list t)
  · refine Minting.gives_bind_lift fun xs _ => ?_
    refine Minting.gives_bound (by decide) (by decide) ?_ _
    exact Dialect.admits_append.2 ⟨keyword, name.admits_shown _⟩

theorem admits_of_orderText {item direction : Value} {text : Str}
    (h : orderText item direction = .ok text) : Dialect.graph.Admits text := by
  obtain ⟨d, _, h⟩ := Result.bind_eq_ok.1 h
  obtain ⟨field, named, same⟩ := Result.bind_eq_ok.1 h
  cases same
  have field := Text.isNameLike_of_isQualified (Name.gate_eq_ok named).2
  have blank : Dialect.graph.Admits " " := by decide
  simp [field.admits_shown, blank, d.admits_spelling]

theorem gives_counted {what keyword : Str} (named : Dialect.graph.Admits what)
    (word : Dialect.graph.Admits keyword) (count : Value) :
    (counted what keyword count).Gives Pattern.IsAdmitted :=
  Minting.gives_bind_lift fun _ _ => Minting.gives_bound named word Dialect.admits_empty _

theorem Call.IsOwn.writes {c : Call} (own : c.IsOwn) (marker : List Chr) :
    Writes (c.edits marker) := by
  cases c with
  | matching v | optionalMatching v | create v | merge v =>
    exact writes_placed (gives_ofValue own) _
  | unwind items identifier => exact writes_placed (gives_unwound own identifier) _
  | condition fragment values | assign fragment values => exact own.elim
  | withItems items | returnItems items => exact own.elim
  | compare identifier property operator operand => exact writes_comparison _ _ _ _
  | null identifier property | notNull identifier property => exact writes_comparison _ _ _ _
  | shorthand s identifier property operand =>
    have compared := writes_comparison identifier property (operatorValue s.operator)
    cases s with
    | member | notMember => exact Minting.gives_bind_lift fun listed _ => compared listed
    | equals | contains | startsWith | endsWith => exact compared operand
  | filters identifier mapping => exact writes_filters marker identifier mapping
  | setProperty identifier property value =>
    exact writes_placed (gives_propertyAssignment identifier property value) _
  | setProperties identifier properties =>
    exact writes_placed (gives_assignedProperties identifier properties) _
  | orderBy item direction =>
    refine Minting.gives_bind_lift fun text found => Minting.gives_pure ?_
    exact List.forall_mem_singleton.2 (admits_of_orderText found)
  | skip count =>
    exact writes_single (gives_counted (by decide) (by decide) count) fun _ admitted => admitted
  | limit count =>
    exact writes_single (gives_counted (by decide) (by decide) count) fun _ admitted => admitted
  | delete targets | detachDelete targets => exact Minting.gives_pure (by simp)

theorem isNameLike_of_mem_deletion {f : Text → Edit}
    (edit : ∀ t, t.IsNameLike → (f t).IsAdmitted) (targets : List Value) :
    ∀ e ∈ (Effect.upToFault (fun v => (Call.deleteTarget v).map f) targets).edits,
      e.IsAdmitted := by
  refine Effect.forall_edits_upToFault (fun v e made => ?_) targets
  obtain ⟨t, gate, rfl⟩ := Result.map_eq_ok.1 made
  exact edit t (Text.isNameLike_of_plain gate)

theorem Call.IsOwn.isAdmitted_of_mem_effect {c : Call} (own : c.IsOwn) (marker : List Chr)
    (n : Nat) : ∀ e ∈ (c.effect marker n).1.edits, e.IsAdmitted := by
  have made : ∀ e ∈ (c.edited marker n).1.edits, e.IsAdmitted := by
    refine Effect.forall_edits_ofResult fun edits answered => ?_
    exact own.writes marker n edits _ (Minting.run_eq_ok.2 (Prod.ext answered rfl))
  cases c with
  | delete targets => exact isNameLike_of_mem_deletion (f := .delete) (fun _ h => h) targets
  | detachDelete targets =>
    exact isNameLike_of_mem_deletion (f := .detachDelete) (fun _ h => h) targets
  | _ => exact made

/-! ## Queries -/

/-- A query after any calls that take no text of the caller, and any patterns that were made, where
calls may be turned down. -/
inductive IsOwn : GraphQuery → Prop
  | new (config : Config) : IsOwn { config }
  | make {q : GraphQuery} (before : IsOwn q) (making : Making) : IsOwn (q.make making).2
  | call {q : GraphQuery} {c : Call} (before : IsOwn q) (own : c.IsOwn) : IsOwn (q.step c).1

theorem IsOwn.isAdmitted_of_mem {q : GraphQuery} (h : q.IsOwn) (b : Bucket) :
    ∀ e ∈ q.collected b, e.IsAdmitted := by
  induction h with
  | new config => cases b <;> simp [collected]
  | make before making ih => exact ih
  | @call q c before own ih =>
    intro e mem
    rcases mem_collected_foldl mem with old | ⟨new, _⟩
    · exact ih e old
    · exact own.isAdmitted_of_mem_effect _ _ e new

theorem admits_eachPattern {keyword : Str} (word : Dialect.graph.Admits keyword)
    {ps : List Pattern} (h : ∀ p ∈ ps, p.IsAdmitted) :
    ∀ c ∈ eachPattern keyword ps, Dialect.graph.Admits c.text := by
  intro c mem
  obtain ⟨p, inPatterns, rfl⟩ := List.mem_map.1 mem
  exact Dialect.admits_append.2 ⟨word, h p inPatterns⟩

theorem admits_joinedPatterns {keyword separator : Str} (word : Dialect.graph.Admits keyword)
    (apart : Dialect.graph.Admits separator) {ps : List Pattern} (h : ∀ p ∈ ps, p.IsAdmitted) :
    ∀ c ∈ joinedPatterns keyword separator ps, Dialect.graph.Admits c.text := by
  unfold joinedPatterns
  split
  · simp
  · refine List.forall_mem_singleton.2 (Dialect.admits_append.2 ⟨word, ?_⟩)
    refine Dialect.admits_intercalate apart fun s mem => ?_
    obtain ⟨p, inPatterns, rfl⟩ := List.mem_map.1 mem
    exact h p inPatterns

theorem admits_joinedTexts {keyword : Str} (word : Dialect.graph.Admits keyword)
    {texts : List Str} (h : ∀ s ∈ texts, Dialect.graph.Admits s) :
    ∀ c ∈ joinedTexts keyword texts, Dialect.graph.Admits c.text := by
  unfold joinedTexts
  split
  · simp
  · refine List.forall_mem_singleton.2 (Dialect.admits_append.2 ⟨word, ?_⟩)
    exact Dialect.admits_intercalate (by decide) h

theorem IsOwn.admits_clauses {q : GraphQuery} (h : q.IsOwn) {cs : List Clause}
    (listed : q.clauses = .ok cs) : ∀ c ∈ cs, Dialect.graph.Admits c.text := by
  obtain ⟨withTexts, withs, listed⟩ := Result.bind_eq_ok.1 listed
  obtain ⟨returnTexts, returns, listed⟩ := Result.bind_eq_ok.1 listed
  cases listed
  have held {b : Bucket} {α : Type} {g : α → Edit} {xs : List α}
      (same : q.collected b = xs.map g) : ∀ x ∈ xs, (g x).IsAdmitted := fun x mem =>
    h.isAdmitted_of_mem b (g x) (same ▸ List.mem_map_of_mem mem)
  have patterns (clause : PatternClause) : ∀ p ∈ q.patterns clause, p.IsAdmitted :=
    held (b := .patterns clause) rfl
  have spelled {ts : List Text} (names : ∀ t ∈ ts, t.IsNameLike) :
      ∀ s ∈ ts.map Text.spelling, Dialect.graph.Admits s := by
    intro s mem
    obtain ⟨t, inTexts, rfl⟩ := List.mem_map.1 mem
    exact (names t inTexts).admits_spelling _
  -- Each item for `WITH` or `RETURN` would be text of the caller, so there is none.
  have noWith : withTexts = [] := by
    rw [List.eq_nil_iff_forall_not_mem.2 (held (b := .withItems) rfl)] at withs
    exact (Except.ok.inj withs).symm
  have noReturn : returnTexts = [] := by
    rw [List.eq_nil_iff_forall_not_mem.2 (held (b := .returnItems) rfl)] at returns
    exact (Except.ok.inj returns).symm
  rw [noWith, noReturn]
  repeat' refine List.forall_mem_append.2 ⟨?_, ?_⟩
  · exact admits_eachPattern (by decide) (patterns .matching)
  · exact admits_eachPattern (by decide) (patterns .optional)
  · exact admits_eachPattern (by decide) (patterns .unwind)
  · exact admits_joinedPatterns (by decide) (by decide) (patterns .condition)
  · exact admits_joinedTexts (by decide) (by simp)
  · exact admits_eachPattern (by decide) (patterns .create)
  · exact admits_eachPattern (by decide) (patterns .merge)
  · exact admits_joinedPatterns (by decide) (by decide) (patterns .assign)
  · exact admits_joinedTexts (by decide) (spelled (held (b := .detachDeletes) rfl))
  · exact admits_joinedTexts (by decide) (spelled (held (b := .deletes) rfl))
  · exact admits_joinedTexts (by decide) (by simp)
  · exact admits_joinedTexts (by decide) (held (b := .orders) rfl)
  · exact admits_eachPattern (by decide) (held (b := .skip) rfl)
  · exact admits_eachPattern (by decide) (held (b := .limit) rfl)

end GraphQuery

/-! ## What is built -/

/-- Nothing outside the alphabet gets into a statement from a name, an operator or a value. A graph
query holds the text between its clauses besides. -/
theorem admits_of_build :
    (∀ {data : Value} {st : Statement} {outcome : Statement.Outcome} {x : SqlQuery},
      st.Reached data → st.IsOwn → Statement.Builds st outcome x →
        Dialect.relational.Admits x.text) ∧
    ∀ {q : GraphQuery} {x : CypherQuery}, q.IsOwn → q.build = .ok x →
      ∃ (separator : Text) (texts : List Str), q.config.clauseSeparator = .text separator ∧
        (∀ s ∈ texts, Dialect.graph.Admits s) ∧
        x.query = Str.intercalate separator.spelling texts := by
  refine ⟨fun reached own built => built.admits reached.wellNamed own, ?_⟩
  intro q x own built
  obtain ⟨cs, listed, built⟩ := Result.bind_eq_ok.1 built
  obtain ⟨between, given, built⟩ := Result.bind_eq_ok.1 built
  cases built
  unfold GraphQuery.separator at given
  split at given
  · next separator same =>
    cases given
    refine ⟨separator, cs.map (·.text), same, fun s mem => ?_, rfl⟩
    obtain ⟨c, inClauses, rfl⟩ := List.mem_map.1 mem
    exact own.admits_clauses listed c inClauses
  · cases given

/-- A value that would end the statement, were it written into the text. -/
def hostile : Value :=
  .str "x'; DROP TABLE users; --"

def visitors : Select where
  config := .standard
  table := .plain "users"
  fields := [.str "*"]
  conditions := [.field ⟨.plain "name", .compare .eq hostile⟩]
  sorts := [⟨.plain "name", .desc⟩]

/-- The hostile text is bound as a value, and turned down as a field. -/
theorem reached_visitors : Statement.Reached .null (.select visitors) := by
  have made : Select.make .standard (.str "users") .null = .ok
      { config := .standard, table := .plain "users", fields := [.str "*"] } := rfl
  exact (((Statement.Reached.select made).selectCall
    (.restrict (.equals (.str "name") hostile))).selectCall
    (.restrict (.equals hostile (.str "name")))).selectCall (.orderBy (.str "name") (.str "desc"))

theorem isOwn_visitors : Statement.IsOwn (.select visitors) where
  fields := rfl
  joins := rfl
  conditions c mem := by
    cases List.mem_singleton.1 mem
    trivial

theorem builds_visitors : Statement.Builds (.select visitors) .whole
    { text := "SELECT * FROM users WHERE name = $1 ORDER BY name DESC", params := [hostile] } :=
  .select rfl

namespace GraphQuery

def visitor : Pattern where
  text := "(n:Person {name: $props1.name})"
  identifiers := [.plain "n"]
  params := [("props1", .record [("name", hostile)])]

def visiting : GraphQuery :=
  (((GraphQuery.make { config := .standard }
    (.node (.str "n") (.str "Person") (.record [("name", hostile)]))).2.step
      (.matching visitor.toValue)).1.step
      (.setProperties (.str "n") (.record [("nick", hostile)]))).1

theorem isComposed_visitor : visitor.IsComposed := by
  have made : (Pattern.node (.str "n") (.str "Person") (.record [("name", hostile)])).run 0 =
      .ok (visitor, 1) := rfl
  exact .node made

theorem isOwn_visiting : visiting.IsOwn := by
  refine .call (.call (.make (.new .standard) _) ?_) trivial
  intro p read
  cases read
  exact isComposed_visitor

def visitingQuery : CypherQuery where
  query := "MATCH (n:Person {name: $props1.name})
SET n += $param2"
  params := [("props1", .record [("name", hostile)]), ("param2", .record [("nick", hostile)])]

theorem build_visiting : visiting.build = .ok visitingQuery := by
  rfl

end GraphQuery

theorem admits_of_build_hostile :
    Statement.Reached .null (.select visitors) ∧ Statement.IsOwn (.select visitors) ∧
    Dialect.relational.Admits "SELECT * FROM users WHERE name = $1 ORDER BY name DESC" ∧
    GraphQuery.visiting.IsOwn ∧
    ∃ (separator : Text) (texts : List Str), Value.str "\n" = .text separator ∧
      (∀ s ∈ texts, Dialect.graph.Admits s) ∧
      GraphQuery.visitingQuery.query = Str.intercalate separator.spelling texts :=
  ⟨reached_visitors, isOwn_visitors,
    admits_of_build.1 reached_visitors isOwn_visitors builds_visitors,
    GraphQuery.isOwn_visiting,
    admits_of_build.2 GraphQuery.isOwn_visiting GraphQuery.build_visiting⟩

end BoundQuery
