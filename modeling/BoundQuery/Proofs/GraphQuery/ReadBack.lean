import BoundQuery.Proofs.GraphQuery.Counter
import BoundQuery.Proofs.GraphQuery.Element
import BoundQuery.Proofs.GraphQuery.Union
import BoundQuery.Proofs.Placeholder.Word

/-!
# Paths that are read back

The text of a path says which nodes and relationships it has been made of: what they are called, how
they are labelled and directed, and which keys are read from which parameter. Each key that is read
is a key of the mapping that its parameter is bound to.

## Main definitions

* `Making.Describes` — the element that a call asks for.
* `Made` — a pattern with the call on a query that has made it.

## Main statements

* `Made.exists_isWrittenAs` — what a call makes is written as the element it asks for.
* `Made.path_readBack` — the elements of a path are read back from its text.
-/

namespace BoundQuery

theorem Bindings.lookup_eq_some {b : Bindings} {name : Str} {v : Value} (mem : (name, v) ∈ b)
    (only : ∀ w, (name, w) ∈ b → w = v) : b.lookup name = some v := by
  induction b with
  | nil => cases mem
  | cons entry b ih =>
    obtain ⟨n, w⟩ := entry
    rw [List.lookup_cons]
    by_cases same : name = n
    · subst same
      simp [only w List.mem_cons_self]
    · rw [beq_false_of_ne same]
      refine ih ?_ fun w mem => only w (List.mem_cons_of_mem _ mem)
      exact (List.mem_cons.1 mem).resolve_left fun here => same (congrArg Prod.fst here)

namespace GraphQuery

/-! ## Elements that are asked for -/

/-- The name that an argument gives, if it gives one. -/
inductive IsName : Value → Option Text → Prop
  | given {t : Text} (nonempty : t.isEmpty = false) : IsName (.text t) (some t)
  | missing {v : Value} (absent : v.isTruthy = false) : IsName v none

/-- Properties whose keys are read from the one parameter that is bound to them. -/
inductive AreRead : Value → Bindings → Option PropertyNames → Prop
  | mapping {entries : List (Value × Value)} {param : Str} {keys : List Text}
      (keyed : entries.map Prod.fst = keys.map .text) (nonempty : keys ≠ []) :
      AreRead (.map entries) [(param, .map entries)] (some { param, keys })
  | missing {v : Value} (absent : v.isTruthy = false) : AreRead v [] none

/-- The element that a call asks for, with the parameters that are bound for it. -/
inductive Making.Describes : Making → Bindings → PathElement → Prop
  | node {identifier labels properties : Value} {params : Bindings} {name : Option Text}
      {texts : List Text} {found : Option PropertyNames} (named : IsName identifier name)
      (labelled : Pattern.labels labels = .ok (texts.map .text))
      (read : AreRead properties params found) :
      Describes (.node identifier labels properties) params
        { shape := .node texts, identifier := name.map Text.spelling, properties := found }
  | relationship {identifier type properties : Value} {arrow : Text} {params : Bindings}
      {name kind : Option Text} {direction : RelDirection} {found : Option PropertyNames}
      (directed : arrow.spelling = direction.spelling) (named : IsName identifier name)
      (typed : IsName type kind) (read : AreRead properties params found) :
      Describes (.relationship identifier type properties (.text arrow)) params
        { shape := .relationship direction kind, identifier := name.map Text.spelling
          properties := found }

/-- A node or a relationship whose properties, if it has any, are a mapping. -/
def Making.IsElement : Making → Prop
  | .node _ _ properties | .relationship _ _ properties _ =>
    properties.isTruthy = true → properties.isMap = true
  | .path _ => False

/-- A pattern with the call on a query that has made it. -/
structure Made where
  query : GraphQuery
  making : Making
  pattern : Pattern
  answered : (query.make making).1 = .ok pattern

/-- Any two calls are one and the same, or one of them is made on what the query has become after
the other. -/
def Made.OnOneQuery (made : List Made) : Prop :=
  ∀ m ∈ made, ∀ m' ∈ made, m = m' ∨ (m.query.make m.making).2.LeadsTo m'.query ∨
    (m'.query.make m'.making).2.LeadsTo m.query

section
variable {v : Value} {params : Bindings} {found : Option PropertyNames} {m : Making}
variable {e e' : PathElement}

theorem IsName.unique {name name' : Option Text} (h : IsName v name) (h' : IsName v name') :
    name = name' := by
  cases h with
  | given nonempty =>
    cases h' with
    | given => rfl
    | missing absent => simp [Value.isTruthy, nonempty] at absent
  | missing absent =>
    cases h' with
    | given nonempty => simp [Value.isTruthy, nonempty] at absent
    | missing => rfl

theorem AreRead.unique {found' : Option PropertyNames} (h : AreRead v params found)
    (h' : AreRead v params found') : found = found' := by
  cases h with
  | mapping keyed nonempty =>
    cases h' with
    | mapping keyed' =>
      have same := keyed.symm.trans keyed'
      rw [List.map_injective_iff.2 (fun _ _ => Value.text.inj) same]
  | missing absent =>
    cases h'
    rfl

/-- A call asks for one element only. -/
theorem Making.Describes.unique (h : m.Describes params e) (h' : m.Describes params e') :
    e = e' := by
  cases h with
  | node named labelled read =>
    cases h' with
    | node named' labelled' read' =>
      have same := Except.ok.inj (labelled.symm.trans labelled')
      rw [named.unique named', read.unique read',
        List.map_injective_iff.2 (fun _ _ => Value.text.inj) same]
  | @relationship _ _ _ _ _ _ _ direction _ directed named typed read =>
    cases h' with
    | @relationship _ _ _ _ _ _ _ direction' _ directed' named' typed' read' =>
      have same : direction = direction' := by
        have spelled := directed.symm.trans directed'
        revert spelled
        cases direction <;> cases direction' <;> decide
      rw [same, named.unique named', typed.unique typed', read.unique read']

theorem Making.Describes.exists_areRead (h : m.Describes params e) :
    ∃ v, AreRead v params e.properties := by
  cases h with
  | node _ _ read | relationship _ _ _ read => exact ⟨_, read⟩

/-- The parameter that properties are read from is bound to a mapping with their keys. -/
theorem AreRead.exists_entries {p : PropertyNames} (h : AreRead v params (some p)) :
    ∃ entries, params = [(p.param, .map entries)] ∧ entries.map Prod.fst = p.keys.map .text := by
  cases h with
  | mapping keyed => exact ⟨_, rfl, keyed⟩

theorem AreRead.exists_of_mem {name : Str} {w : Value} (h : AreRead v params found)
    (mem : (name, w) ∈ params) : ∃ p ∈ found, p.param = name := by
  cases h with
  | mapping =>
    obtain ⟨rfl, -⟩ := Prod.mk.inj (List.mem_singleton.1 mem)
    exact ⟨_, rfl, rfl⟩
  | missing => cases mem

end

/-! ## What is asked for is made -/

theorem mapM_plain_eq_ok {context : Str} {xs : List Value} {texts : List Text}
    (h : xs.mapM (fun x => Name.plain context x) = .ok texts) :
    xs = texts.map .text ∧ ∀ t ∈ texts, Name.isPlain t.chars = true := by
  have gates := Result.mapM_eq_ok.1 h
  clear h
  induction gates with
  | nil => simp
  | cons gate _ ih =>
    obtain ⟨key, plain⟩ := Name.gate_eq_ok gate
    obtain ⟨keys, others⟩ := ih
    exact ⟨by simp [key, keys], List.forall_mem_cons.2 ⟨plain, others⟩⟩

theorem isName_of_identifier? {context : Str} {v : Value} {name : Option Text}
    (h : Pattern.identifier? context v = .ok name) :
    IsName v name ∧ ∀ t ∈ name, Name.isPlain t.chars = true := by
  unfold Pattern.identifier? at h
  split at h
  · next given =>
    obtain ⟨t, gate, rfl⟩ := Result.map_eq_ok.1 h
    obtain ⟨rfl, plain⟩ := Name.gate_eq_ok gate
    refine ⟨.given (by simpa [Value.isTruthy] using given), ?_⟩
    rintro _ ⟨⟩
    exact plain
  · next absent =>
    cases h
    exact ⟨.missing (by simpa using absent), by simp⟩

theorem exists_of_checkRelDirection {v : Value} {direction : RelDirection}
    (h : checkRelDirection v = .ok direction) :
    ∃ t : Text, v = .text t ∧ t.spelling = direction.spelling := by
  unfold checkRelDirection at h
  split at h
  · next found =>
    cases h
    cases v with
    | text t =>
      have same := List.find?_some (p := fun d : RelDirection => d.spelling == t.spelling) found
      exact ⟨t, rfl, (beq_iff_eq.1 same).symm⟩
    | _ => cases found
  · cases h

theorem isNameChar_word {stem : Str} (word : ∀ c ∈ stem.toList, Name.isNameChar c = true)
    (n : Nat) : ∀ c ∈ (Mark.word stem n).toList, Name.isNameChar c = true := by
  intro c mem
  rw [Mark.toList_word] at mem
  rcases List.mem_append.1 mem with inStem | inNumber
  · exact word c inStem
  · have digit := Chr.isDigit_of_mem_digits inNumber
    simp [Name.isNameChar, Chr.isAlphanum_of_isDigit digit]

theorem isPlain_spelling {name : Option Text} (plain : ∀ t ∈ name, Name.isPlain t.chars = true) :
    ∀ s ∈ name.map Text.spelling, Name.isPlain s.toList = true := by
  intro s mem
  obtain ⟨t, given, rfl⟩ := Option.map_eq_some_iff.1 mem
  exact plain t given

theorem areRead_of_run {stem text : Str} {v : Value} {params : Bindings} {n k : Nat}
    (mapping : v.isTruthy = true → v.isMap = true)
    (word : ∀ c ∈ stem.toList, Name.isNameChar c = true)
    (h : (Pattern.properties stem v).run n = .ok ((text, params), k)) :
    ∃ found : Option PropertyNames, AreRead v params found ∧
      text = found.elim ("" : Str) PropertyNames.text ∧
      ∀ p ∈ found, p.IsWritable ∧ p.param = Mark.word stem (n + 1) ∧ n < k := by
  unfold Pattern.properties at h
  split at h
  · next given =>
    cases v with
    | map entries =>
      obtain ⟨xs, ⟨⟩, h⟩ := Minting.exists_of_bind_lift h
      rw [Minting.mapM_lift] at h
      obtain ⟨keys, read, h⟩ := Minting.exists_of_bind_lift h
      obtain ⟨keyed, plain⟩ := mapM_plain_eq_ok read
      obtain ⟨mapping, ⟨⟩, h⟩ := Minting.exists_of_bind_lift h
      rw [Minting.run_bind_of_ok (Minting.run_name stem n)] at h
      cases h
      have nonempty : keys ≠ [] := by
        rintro rfl
        rw [List.map_nil, List.map_eq_nil_iff] at keyed
        subst keyed
        cases given
      have writable : PropertyNames.IsWritable ⟨Mark.word stem (n + 1), keys⟩ :=
        ⟨isNameChar_word word (n + 1), nonempty, plain⟩
      refine ⟨_, .mapping keyed nonempty, rfl, ?_⟩
      rintro _ ⟨⟩
      exact ⟨writable, rfl, n.lt_succ_self⟩
    | _ => cases mapping given
  · next absent =>
    cases h
    exact ⟨none, .missing (by simpa using absent), rfl, by simp⟩

namespace Making

/-- The element that a call asks for is what its pattern says; the counter has gone from `n` to `k`
while the pattern was made. -/
structure Writes (m : Making) (n k : Nat) (p : Pattern) (e : PathElement) : Prop where
  describes : m.Describes p.params e
  text : p.text = e.text
  writable : e.IsWritable
  minted : ∀ q ∈ e.properties, ∃ stem, Mark.IsDigitless stem ∧
    q.param = Mark.word stem (n + 1) ∧ n < k

variable {identifier properties : Value} {n k : Nat} {p : Pattern}

theorem exists_writes_node {labels : Value}
    (mapping : properties.isTruthy = true → properties.isMap = true)
    (run : (Pattern.node identifier labels properties).run n = .ok (p, k)) :
    ∃ e, (node identifier labels properties).Writes n k p e := by
  obtain ⟨name, named, run⟩ := Minting.exists_of_bind_lift run
  obtain ⟨found, listed, run⟩ := Minting.exists_of_bind_lift run
  rw [Minting.mapM_lift] at run
  obtain ⟨texts, read, run⟩ := Minting.exists_of_bind_lift run
  obtain ⟨⟨propertiesText, bound⟩, i, made, run⟩ := Minting.bind_eq_ok.1 run
  obtain ⟨isName, plain⟩ := isName_of_identifier? named
  obtain ⟨rfl, plains⟩ := mapM_plain_eq_ok read
  have word : ∀ c ∈ (Str.toList "props"), Name.isNameChar c = true := List.all_eq_true.1 (by decide)
  obtain ⟨properties, areRead, rfl, writable⟩ := areRead_of_run mapping word made
  cases run
  refine ⟨_, {
    describes := .node isName listed areRead
    text := by cases name <;> rfl
    writable := ⟨isPlain_spelling plain, plains, fun p mem => (writable p mem).1⟩
    minted := fun p mem => ?_ }⟩
  obtain ⟨-, param, later⟩ := writable p mem
  exact ⟨"props", by decide, param, later⟩

theorem exists_writes_relationship {type direction : Value}
    (mapping : properties.isTruthy = true → properties.isMap = true)
    (run : (Pattern.relationship identifier type properties direction).run n = .ok (p, k)) :
    ∃ e, (relationship identifier type properties direction).Writes n k p e := by
  obtain ⟨arrow, directed, run⟩ := Minting.exists_of_bind_lift run
  obtain ⟨name, named, run⟩ := Minting.exists_of_bind_lift run
  obtain ⟨kind, typed, run⟩ := Minting.exists_of_bind_lift run
  obtain ⟨⟨propertiesText, bound⟩, i, made, run⟩ := Minting.bind_eq_ok.1 run
  obtain ⟨isName, plain⟩ := isName_of_identifier? named
  obtain ⟨isType, plainType⟩ := isName_of_identifier? typed
  obtain ⟨t, rfl, pointed⟩ := exists_of_checkRelDirection directed
  have word : ∀ c ∈ (Str.toList "relProps"), Name.isNameChar c = true :=
    List.all_eq_true.1 (by decide)
  obtain ⟨properties, areRead, rfl, writable⟩ := areRead_of_run mapping word made
  cases run
  have plains : ∀ t ∈ kind.toList, Name.isPlain t.chars = true := fun t mem =>
    plainType t (Option.mem_toList.1 mem)
  refine ⟨_, {
    describes := .relationship pointed isName isType areRead
    text := ?_
    writable := ⟨isPlain_spelling plain, plains, fun p mem => (writable p mem).1⟩
    minted := fun p mem => ?_ }⟩
  · cases name <;> cases kind <;> simp [PathElement.text, PathElement.inside, Shape.opening,
      Shape.names, Shape.closing, Pattern.optionalSpelling, Pattern.typeText, Str.append_assoc]
  · obtain ⟨-, param, later⟩ := writable p mem
    exact ⟨"relProps", by decide, param, later⟩

end Making

namespace Made

variable {m : Made}

/-- Where the counter stands before and after a call. -/
theorem run_eq (m : Made) : m.making.run.run m.query.counter =
    .ok (m.pattern, (m.query.make m.making).2.counter) := by
  have answered : (m.making.run.outcome m.query.counter).1 = .ok m.pattern := m.answered
  rw [Minting.run, answered]
  rfl

/-- The element that the call asks for, as it is written. -/
def IsWrittenAs (m : Made) (e : PathElement) : Prop :=
  m.making.Writes m.query.counter (m.query.make m.making).2.counter m.pattern e

/-- A call that asks for an element makes a pattern of it. -/
theorem exists_isWrittenAs (isElement : m.making.IsElement) : ∃ e, IsWrittenAs m e := by
  have run := m.run_eq
  unfold IsWrittenAs
  -- the counter that is reached mentions the call as well
  generalize (m.query.make m.making).2.counter = after at run ⊢
  cases asked : m.making with
  | node identifier labels properties =>
    rw [asked] at run isElement
    exact Making.exists_writes_node isElement run
  | relationship identifier type properties direction =>
    rw [asked] at run isElement
    exact Making.exists_writes_relationship isElement run
  | path _ =>
    rw [asked] at isElement
    cases isElement

variable {made : List Made} {es : List PathElement}

theorem exists_elements (elements : ∀ m ∈ made, m.making.IsElement) :
    ∃ es, List.Forall₂ IsWrittenAs made es := by
  induction made with
  | nil => exact ⟨[], .nil⟩
  | cons m made ih =>
    obtain ⟨first, others⟩ := List.forall_mem_cons.1 elements
    obtain ⟨e, written⟩ := exists_isWrittenAs first
    obtain ⟨es, each⟩ := ih others
    exact ⟨e :: es, .cons written each⟩

theorem text_concat (h : List.Forall₂ IsWrittenAs made es) :
    (Pattern.concat (made.map Made.pattern)).text = Str.join (es.map PathElement.text) := by
  rw [(Pattern.isUnion_concat _).text, List.map_map]
  congr 1
  induction h with
  | nil => rfl
  | cons first _ ih => simp [first.text, ih]

theorem readAll_concat (h : List.Forall₂ IsWrittenAs made es) :
    PathElement.readAll (Pattern.concat (made.map Made.pattern)).text.toList = some es := by
  have writable : ∀ e ∈ es, e.IsWritable := by
    intro e mem
    obtain ⟨m, -, written⟩ := Result.exists_of_mem_right h mem
    exact written.writable
  rw [text_concat h, Str.toList_join, List.flatMap_map]
  exact PathElement.readAll_texts writable

/-- On one query a parameter is read from by the element of one call only. -/
theorem OnOneQuery.eq_of_param {m m' : Made} {e e' : PathElement} {p p' : PropertyNames}
    (one : OnOneQuery made) (mem : m ∈ made) (mem' : m' ∈ made) (written : m.IsWrittenAs e)
    (written' : m'.IsWrittenAs e') (read : p ∈ e.properties) (read' : p' ∈ e'.properties)
    (same : p.param = p'.param) : m = m' := by
  obtain ⟨stem, digitless, param, later⟩ := written.minted p read
  obtain ⟨stem', digitless', param', later'⟩ := written'.minted p' read'
  rw [param, param'] at same
  obtain ⟨-, number⟩ := Mark.word_inj digitless digitless' same
  rcases one m mem m' mem' with one | before | before
  · exact one
  · have := before.counter_le
    omega
  · have := before.counter_le
    omega

/-- On one query each parameter of a path is bound to the mapping whose keys are read from it. -/
theorem lookup_concat (h : List.Forall₂ IsWrittenAs made es) (one : OnOneQuery made)
    {e : PathElement} (mem : e ∈ es) {p : PropertyNames} (read : p ∈ e.properties) :
    ∃ entries, (Pattern.concat (made.map Made.pattern)).params.lookup p.param =
      some (.map entries) ∧ entries.map Prod.fst = p.keys.map .text := by
  obtain ⟨m, inMade, written⟩ := Result.exists_of_mem_right h mem
  obtain ⟨v, areRead⟩ := written.describes.exists_areRead
  rw [read] at areRead
  obtain ⟨entries, bound, keyed⟩ := areRead.exists_entries
  refine ⟨entries, ?_, keyed⟩
  rw [(Pattern.isUnion_concat _).values]
  refine Bindings.lookup_eq_some ?_ fun w here => ?_
  · rw [List.mem_reverse, List.mem_flatMap]
    exact ⟨m.pattern, List.mem_map_of_mem inMade, by simp [bound]⟩
  · rw [List.mem_reverse, List.mem_flatMap] at here
    obtain ⟨q, inPatterns, here⟩ := here
    obtain ⟨m', inMade', rfl⟩ := List.mem_map.1 inPatterns
    obtain ⟨e', -, written'⟩ := Result.exists_of_mem_right h.flip inMade'
    obtain ⟨v', areRead'⟩ := written'.describes.exists_areRead
    obtain ⟨p', read', same⟩ := areRead'.exists_of_mem here
    obtain rfl := one.eq_of_param inMade inMade' written written' read read' same.symm
    rw [bound] at here
    exact congrArg Prod.snd (List.mem_singleton.1 here)

/-- The elements that a path has been made of are read back from its text, in which each key of an
element is read from the one parameter of the element. No other elements have the same text. When
all of them have been made on one query, that parameter is bound in the path to a mapping with just
these keys. -/
theorem path_readBack (elements : ∀ m ∈ made, m.making.IsElement) :
    ∃ path es, Pattern.path (Pattern.listed (made.map Made.pattern)) = .ok path ∧
      List.Forall₂ (fun m e => m.making.Describes m.pattern.params e) made es ∧
      path.text = Str.join (es.map PathElement.text) ∧
      PathElement.readAll path.text.toList = some es ∧
      (OnOneQuery made → ∀ e ∈ es, ∀ p ∈ e.properties, ∃ entries,
        path.params.lookup p.param = some (.map entries) ∧
          entries.map Prod.fst = p.keys.map .text) ∧
      ∀ made' es' path', (∀ m ∈ made', m.making.IsElement) →
        List.Forall₂ (fun m e => m.making.Describes m.pattern.params e) made' es' →
        Pattern.path (Pattern.listed (made'.map Made.pattern)) = .ok path' →
        path'.text = path.text → es' = es := by
  obtain ⟨es, written⟩ := exists_elements elements
  refine ⟨_, es, Pattern.path_listed _, written.imp fun m e h => h.describes, text_concat written,
    readAll_concat written, fun one e mem p read => lookup_concat written one mem read, ?_⟩
  intro made' es' path' elements' describes' joined same
  obtain ⟨others, written'⟩ := exists_elements elements'
  rw [Pattern.path_listed] at joined
  obtain rfl := Except.ok.inj joined
  have read := readAll_concat written'
  rw [same, readAll_concat written] at read
  have unique : Relator.RightUnique fun (m : Made) e => m.making.Describes m.pattern.params e :=
    fun m e e' h h' => h.unique h'
  rw [Option.some.inj read]
  exact List.right_unique_forall₂' unique describes' (written'.imp fun m e h => h.describes)

/-- A node with everything, the first that is made on a query. -/
def ada : Made where
  query := { config := .standard }
  making := .node (.str "a") (.str "Person") (.map [(.str "name", .str "Ada")])
  pattern := ⟨"(a:Person \x7bname: $props1.name\x7d)", [.plain "a"],
    [("props1", .map [(.str "name", .str "Ada")])]⟩
  answered := rfl

/-- A relationship without a name or properties, made after it. -/
def knows : Made where
  query := { config := .standard, counter := 1 }
  making := .relationship .null (.str "KNOWS") .null (.str "<-")
  pattern := ⟨"<-[:KNOWS]-", [], []⟩
  answered := rfl

/-- A node with properties only, made after both. -/
def adult : Made where
  query := { config := .standard, counter := 1 }
  making := .node .null .null (.map [(.str "age", .int 36), (.str "alive", .bool true)])
  pattern := ⟨"( \x7bage: $props2.age, alive: $props2.alive\x7d)", [],
    [("props2", .map [(.str "age", .int 36), (.str "alive", .bool true)])]⟩
  answered := rfl

theorem onOneQuery_people : OnOneQuery [ada, knows, adult, knows, ada] := by
  have first : (ada.query.make ada.making).2.LeadsTo knows.query := .refl
  have second : (knows.query.make knows.making).2.LeadsTo adult.query := .refl
  have both : (ada.query.make ada.making).2.LeadsTo adult.query := .refl
  intro m mem m' mem'
  simp only [List.mem_cons, List.not_mem_nil, or_false] at mem mem'
  rcases mem with rfl | rfl | rfl | rfl | rfl <;>
    rcases mem' with rfl | rfl | rfl | rfl | rfl <;> simp [first, second, both]

def adaElement : PathElement :=
  { shape := .node [.plain "Person"], identifier := some "a"
    properties := some ⟨"props1", [.plain "name"]⟩ }

def knowsElement : PathElement :=
  { shape := .relationship .inward (some (.plain "KNOWS")) }

def adultElement : PathElement :=
  { shape := .node [], properties := some ⟨"props2", [.plain "age", .plain "alive"]⟩ }

theorem path_readBack_people :
    ∃ path, Pattern.path (Pattern.listed ([ada, knows, adult, knows, ada].map Made.pattern)) =
        .ok path ∧
      PathElement.readAll path.text.toList =
        some [adaElement, knowsElement, adultElement, knowsElement, adaElement] ∧
      ∃ entries, path.params.lookup ("props2" : Str) = some (.map entries) ∧
        entries.map Prod.fst = [.str "age", .str "alive"] := by
  have elements : ∀ m ∈ [ada, knows, adult, knows, ada], m.making.IsElement := by
    simp [ada, knows, adult, Making.IsElement, Value.isTruthy, Value.isMap]
  have first : ada.making.Describes ada.pattern.params adaElement :=
    .node (.given (by decide)) rfl (.mapping rfl (by simp))
  have second : knows.making.Describes knows.pattern.params knowsElement :=
    .relationship (by decide) (.missing rfl) (.given (by decide)) (.missing rfl)
  have third : adult.making.Describes adult.pattern.params adultElement :=
    .node (.missing rfl) rfl (.mapping rfl (by simp))
  obtain ⟨path, es, made, -, -, read, bound, only⟩ := path_readBack elements
  obtain rfl := only _ [adaElement, knowsElement, adultElement, knowsElement, adaElement] path
    elements (.cons first (.cons second (.cons third (.cons second (.cons first .nil))))) made rfl
  exact ⟨path, made, read, bound onOneQuery_people adultElement (by simp) _ rfl⟩

end Made
end GraphQuery
end BoundQuery
