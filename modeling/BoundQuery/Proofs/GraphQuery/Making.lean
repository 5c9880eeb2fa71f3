import BoundQuery.GraphQuery.Basic
import BoundQuery.Proofs.Condition.Clean
import BoundQuery.Proofs.GraphQuery.Sketch
import BoundQuery.Proofs.Name.Listed

/-!
# Sketches of nodes and relationships

A node or a relationship binds its properties as one mapping, from which each key is read by the
same name. It begins and ends with a bracket or a line, so that neighbours in a path cannot run into
its names.

## Main statements

* `Pattern.exists_draws_node`, `Pattern.exists_draws_relationship` — what a node and a relationship
  come down to when they are accepted.
-/

namespace BoundQuery

/-- The mapping that properties are bound as, if any are given. -/
def Value.mappings (v : Value) : List Value :=
  if v.isTruthy then v.toMapping.toOption.toList else []

theorem Value.elements_ne_nil {v : Value} {xs : List Value} (given : v.isTruthy = true)
    (listed : v.elements = .ok xs) : xs ≠ [] := by
  cases v with
  | text t =>
    cases listed
    simpa [isTruthy, Text.isEmpty, Text.chars] using given
  | list ys | tuple ys | set ys =>
    cases listed
    simpa [isTruthy] using given
  | map entries =>
    cases listed
    simpa [isTruthy] using given
  | _ => cases listed

theorem Bindings.merge_replicate (name : Str) (value : Value) (count : Nat) :
    Bindings.merge [(name, value)] (List.replicate count (name, value)) = [(name, value)] := by
  induction count with
  | zero => rfl
  | succ count ih => rw [List.replicate_succ, merge_cons, put_cons_self, ih]

namespace Pattern

/-- A sketch that can stand after a name in a path, and lets one stand after it. -/
structure IsSegment (I : Inscription) : Prop where
  isClean : I.IsClean .graph
  opens : I.Opens .graph

theorem isSegment_nil : IsSegment [] :=
  ⟨trivial, by simp [Inscription.Opens]⟩

theorem IsSegment.append {I J : Inscription} (left : IsSegment I) (right : IsSegment J) :
    IsSegment (I ++ J) :=
  ⟨left.isClean.append right.isClean right.opens, left.opens.append right.opens⟩

theorem IsSegment.renumber {I : Inscription} {f : Nat → Nat} (h : IsSegment I) :
    IsSegment (I.renumber f) :=
  ⟨h.isClean.renumber, h.opens.renumber⟩

theorem isSegment_text {s : Str} (dollar : .scalar '$' ∉ s.toList)
    (head : ∀ c ∈ s.toList.head?, Dialect.graph.isWordChar c = false) : IsSegment [.text s] :=
  ⟨⟨dollar, trivial⟩, Inscription.opens_text.2 ⟨head, fun _ => isSegment_nil.opens⟩⟩

/-! ## Properties -/

/-- One key with the name of the mapping that it is read from. -/
def property (stem : Str) (mapping : Value) (key : Text) : Inscription :=
  [.text (key.shown ++ ": "), .name stem 1 mapping, .text ("." ++ key.shown)]

/-- The keys of a mapping between braces. -/
def propertyList (stem : Str) (mapping : Value) (keys : List Text) : Inscription :=
  .text " \x7b" :: Inscription.join ", " (keys.map (property stem mapping)) ++ [.text "\x7d"]

variable {stem : Str} {mapping : Value} {keys : List Text}

theorem isClean_property (word : ∀ c ∈ stem.toList, Dialect.graph.isWordChar c = true) {key : Text}
    (plain : Name.isPlain key.chars = true) : (property stem mapping key).IsClean .graph := by
  have shown := Text.dollar_notMem_shown (Name.dollar_notMem_of_isPlain plain)
  refine ⟨by simpa using shown, word, ?_, by simpa using shown, trivial⟩
  exact Inscription.opens_text.2 ⟨by simp; decide, by simp⟩

theorem isSegment_propertyList (word : ∀ c ∈ stem.toList, Dialect.graph.isWordChar c = true)
    (plain : ∀ key ∈ keys, Name.isPlain key.chars = true) :
    IsSegment (propertyList stem mapping keys) := by
  have each : (Inscription.join ", " (keys.map (property stem mapping))).IsClean .graph := by
    refine Inscription.isClean_join (Template.isSeparator_comma _) fun I mem => ?_
    obtain ⟨key, inKeys, rfl⟩ := List.mem_map.1 mem
    exact isClean_property word (plain key inKeys)
  have close : IsSegment [.text "\x7d"] :=
    isSegment_text (by decide) (Placeholder.isWordChar_head_of_all (by decide))
  have body := each.append close.isClean close.opens
  refine ⟨⟨by decide, body⟩, Inscription.opens_text.2 ⟨?_, by simp⟩⟩
  exact Placeholder.isWordChar_head_of_all (by decide)

theorem all_propertyList :
    (propertyList stem mapping keys).All fun word number v =>
      word = stem ∧ ∃ i, number = i + 1 ∧ [mapping][i]? = some v := by
  refine Inscription.all_text.2
    (Inscription.All.append ?_ (Inscription.all_text.2 Inscription.all_nil))
  refine Inscription.all_join fun I mem => ?_
  obtain ⟨key, _, rfl⟩ := List.mem_map.1 mem
  refine Inscription.all_text.2 (Inscription.all_name.2 ⟨⟨rfl, 0, rfl, rfl⟩, ?_⟩)
  exact Inscription.all_text.2 Inscription.all_nil

theorem written_property (n : Nat) (key : Text) :
    ((property stem mapping key).renumber (n + ·)).written =
      propertyText (Mark.word stem (n + 1)) key := by
  have dollar : Str.of ": $" = Str.of ": " ++ Str.of "$" := rfl
  simp only [property, propertyText, Inscription.renumber_text, Inscription.renumber_name,
    Inscription.renumber_nil, Inscription.written_text, Inscription.written_name,
    Inscription.written_nil, Str.append_empty, Str.append_assoc]
  rw [dollar, Str.append_assoc]

theorem written_propertyList (n : Nat) :
    ((propertyList stem mapping keys).renumber (n + ·)).written =
      propertiesText (Mark.word stem (n + 1)) keys := by
  have each : ((keys.map (property stem mapping)).map (Inscription.renumber (n + ·))).map
      Inscription.written = keys.map (propertyText (Mark.word stem (n + 1))) := by
    simp only [List.map_map]
    exact List.map_congr_left fun key _ => written_property n key
  simp [propertyList, propertiesText, Inscription.renumber_join, Inscription.written_join, ← each,
    Str.append_assoc]

theorem bindings_propertyList (n : Nat) (nonempty : keys ≠ []) :
    Bindings.merge [] ((propertyList stem mapping keys).renumber (n + ·)).bindings =
      [(Mark.word stem (n + 1), mapping)] := by
  have each : ((propertyList stem mapping keys).renumber (n + ·)).bindings =
      List.replicate keys.length (Mark.word stem (n + 1), mapping) := by
    simp [propertyList, property, Inscription.renumber_join, Inscription.bindings_join,
      List.flatMap_map, ← List.map_eq_flatMap]
  obtain ⟨key, rest, rfl⟩ := List.exists_cons_of_ne_nil nonempty
  rw [each, List.length_cons, List.replicate_succ, Bindings.merge_cons]
  exact Bindings.merge_replicate _ _ _

theorem exists_properties {v : Value} {n : Nat} {x : (Str × Bindings) × Nat}
    (word : ∀ c ∈ stem.toList, Dialect.graph.isWordChar c = true)
    (h : (properties stem v).run n = .ok x) :
    ∃ I, IsSegment I ∧
      I.All (fun s number w => s = stem ∧ ∃ i, number = i + 1 ∧ v.mappings[i]? = some w) ∧
      ∀ k, (properties stem v).run k = .ok (((I.renumber (k + ·)).written,
        Bindings.merge [] (I.renumber (k + ·)).bindings), k + v.mappings.length) := by
  unfold properties at h ⊢
  by_cases given : v.isTruthy = true
  · rw [if_pos given] at h
    obtain ⟨xs, listed, h⟩ := Minting.exists_of_bind_lift h
    rw [Minting.mapM_lift] at h
    obtain ⟨keys, read, h⟩ := Minting.exists_of_bind_lift h
    obtain ⟨mapping, mapped, h⟩ := Minting.exists_of_bind_lift h
    have plain : ∀ key ∈ keys, Name.isPlain key.chars = true := by
      intro key mem
      obtain ⟨y, _, passed⟩ := Result.exists_of_mem_mapM read mem
      exact (Name.gate_eq_ok passed).2
    have nonempty : keys ≠ [] := by
      rintro rfl
      have none := (Result.mapM_eq_ok.1 read).length_eq
      exact Value.elements_ne_nil given listed (List.eq_nil_of_length_eq_zero none)
    have values : v.mappings = [mapping] := by
      rw [Value.mappings, if_pos given, mapped]
      rfl
    refine ⟨propertyList stem mapping keys, isSegment_propertyList word plain, ?_, fun k => ?_⟩
    · rw [values]
      exact all_propertyList
    · rw [if_pos given, Minting.run_bind_lift listed,
        Minting.mapM_lift, Minting.run_bind_lift read,
        Minting.run_bind_lift mapped,
        Minting.run_bind_of_ok (Minting.run_name stem k), written_propertyList,
        bindings_propertyList k nonempty, values]
      rfl
  · have values : v.mappings = [] := by rw [Value.mappings, if_neg given]
    refine ⟨[], isSegment_nil, Inscription.all_nil, fun k => ?_⟩
    rw [if_neg given, values]
    rfl

/-! ## Elements of paths -/

theorem toValue_injective : Function.Injective toValue := by
  rintro ⟨text, identifiers, params⟩ ⟨text', identifiers', params'⟩ same
  cases same
  rfl

theorem ofPathElement_eq_ok {v : Value} {p : Pattern} :
    ofPathElement v = .ok p ↔ v = p.toValue := by
  constructor
  · intro h
    cases v with
    | pattern text identifiers params =>
      cases h
      rfl
    | _ => cases h
  · rintro rfl
    rfl

/-! ## Nodes and relationships -/

theorem dollar_notMem_of_identifier? {context : Str} {v : Value} {name : Option Text}
    (h : identifier? context v = .ok name) :
    .scalar '$' ∉ (optionalSpelling name).toList ∧ .scalar '$' ∉ (typeText name).toList := by
  unfold identifier? at h
  split at h
  · obtain ⟨t, gate, rfl⟩ := Result.map_eq_ok.1 h
    have plain := Name.dollar_notMem_of_isPlain (Name.gate_eq_ok gate).2
    have shown := Text.dollar_notMem_shown plain
    exact ⟨plain, by simpa [typeText] using shown⟩
  · cases h
    simp [optionalSpelling, typeText]

/-- What stands before and after the properties of a node or a relationship. -/
def around (opening : Str) (I : Inscription) (closing : Str) : Inscription :=
  .text opening :: I ++ [.text closing]

theorem isSegment_around {opening closing : Str} {I : Inscription} (segment : IsSegment I)
    (left : .scalar '$' ∉ opening.toList ∧
      ∃ c ∈ opening.toList.head?, Dialect.graph.isWordChar c = false)
    (right : .scalar '$' ∉ closing.toList ∧
      ∀ c ∈ closing.toList.head?, Dialect.graph.isWordChar c = false) :
    IsSegment (around opening I closing) := by
  obtain ⟨c, head, stop⟩ := left.2
  have first : IsSegment [.text opening] := by
    refine isSegment_text left.1 fun c' head' => ?_
    rw [Option.mem_def] at head head'
    rwa [Option.some.inj (head'.symm.trans head)]
  exact (first.append segment).append (isSegment_text right.1 right.2)

theorem all_around {opening closing : Str} {I : Inscription} {P : Str → Nat → Value → Prop}
    (all : I.All P) : (around opening I closing).All P :=
  Inscription.all_text.2 (all.append (Inscription.all_text.2 Inscription.all_nil))

theorem pattern_around (opening : Str) (I : Inscription) (closing : Str)
    (identifiers : List Text) (n : Nat) :
    Sketch.pattern ⟨around opening I closing, identifiers⟩ n =
      { text := opening ++ (I.renumber (n + ·)).written ++ closing
        identifiers
        params := Bindings.merge [] (I.renumber (n + ·)).bindings } := by
  simp [Sketch.pattern, around, Str.append_assoc]

theorem exists_draws_node {identifier labels properties : Value} {n : Nat} {x : Pattern × Nat}
    (h : (node identifier labels properties).run n = .ok x) :
    ∃ s : Sketch, s.IsFor "props" properties.mappings ∧ IsSegment s.inscription ∧
      (node identifier labels properties).Draws s properties.mappings.length := by
  obtain ⟨p, last⟩ := x
  obtain ⟨name, named, h⟩ := Minting.exists_of_bind_lift h
  obtain ⟨found, listed, h⟩ := Minting.exists_of_bind_lift h
  rw [Minting.mapM_lift] at h
  obtain ⟨texts, read, h⟩ := Minting.exists_of_bind_lift h
  obtain ⟨⟨text, params⟩, i, bound, h⟩ := Minting.bind_eq_ok.1 h
  have word := Placeholder.isWordChar_of_all (d := .graph) (s := "props") (by decide)
  obtain ⟨I, segment, all, drawn⟩ := exists_properties word bound
  have opening : .scalar '$' ∉ ("(" ++ optionalSpelling name ++
      Str.join (texts.map fun l => ":" ++ l.shown)).toList := by
    have labelled : .scalar '$' ∉ (Str.join (texts.map fun l => ":" ++ l.shown)).toList := by
      refine dollar_notMem_join fun s mem => ?_
      obtain ⟨l, inTexts, rfl⟩ := List.mem_map.1 mem
      obtain ⟨y, _, passed⟩ := Result.exists_of_mem_mapM read inTexts
      have plain := Name.dollar_notMem_of_isPlain (Name.gate_eq_ok passed).2
      simpa using Text.dollar_notMem_shown plain
    have name := (dollar_notMem_of_identifier? named).1
    simp only [Str.toList_append, List.mem_append, not_or]
    exact ⟨⟨by decide, name⟩, labelled⟩
  have closing : .scalar '$' ∉ (Str.toList ")") ∧
      ∀ c ∈ (Str.toList ")").head?, Dialect.graph.isWordChar c = false :=
    ⟨by decide, Placeholder.isWordChar_head_of_all (by decide)⟩
  have whole := isSegment_around segment ⟨opening, '(', by simp, by decide⟩ closing
  refine ⟨⟨around _ I ")", name.toList⟩, ⟨whole.isClean, all_around all⟩, whole, fun k => ?_⟩
  unfold node
  rw [Minting.run_bind_lift named,
    Minting.run_bind_lift listed, Minting.mapM_lift,
    Minting.run_bind_lift read, Minting.run_bind_of_ok (drawn k)]
  rw [pattern_around]
  rfl

theorem exists_draws_relationship {identifier type properties direction : Value} {n : Nat}
    {x : Pattern × Nat} (h : (relationship identifier type properties direction).run n = .ok x) :
    ∃ s : Sketch, s.IsFor "relProps" properties.mappings ∧ IsSegment s.inscription ∧
      (relationship identifier type properties direction).Draws s properties.mappings.length := by
  obtain ⟨p, last⟩ := x
  obtain ⟨arrow, pointed, h⟩ := Minting.exists_of_bind_lift h
  obtain ⟨name, named, h⟩ := Minting.exists_of_bind_lift h
  obtain ⟨kind, typed, h⟩ := Minting.exists_of_bind_lift h
  obtain ⟨⟨text, params⟩, i, bound, h⟩ := Minting.bind_eq_ok.1 h
  have word := Placeholder.isWordChar_of_all (d := .graph) (s := "relProps") (by decide)
  obtain ⟨I, segment, all, drawn⟩ := exists_properties word bound
  have opening :
      .scalar '$' ∉ (tailOf arrow ++ "[" ++ (optionalSpelling name ++ typeText kind)).toList := by
    have tail : .scalar '$' ∉ (tailOf arrow).toList := by cases arrow <;> decide
    simp only [Str.toList_append, List.mem_append, not_or]
    exact ⟨⟨tail, by decide⟩, (dollar_notMem_of_identifier? named).1,
      (dollar_notMem_of_identifier? typed).2⟩
  have head : ∃ c ∈ (tailOf arrow ++ "[" ++ (optionalSpelling name ++ typeText kind)).toList.head?,
      Dialect.graph.isWordChar c = false := by
    cases arrow with
    | inward => exact ⟨'<', by simp [tailOf], by decide⟩
    | outward | undirected => exact ⟨'-', by simp [tailOf], by decide⟩
  have closing : .scalar '$' ∉ ("]" ++ tipOf arrow).toList ∧
      ∀ c ∈ ("]" ++ tipOf arrow).toList.head?, Dialect.graph.isWordChar c = false := by
    cases arrow <;> exact ⟨by decide, Placeholder.isWordChar_head_of_all (by decide)⟩
  have whole := isSegment_around segment ⟨opening, head⟩ closing
  refine ⟨⟨around _ I _, name.toList⟩, ⟨whole.isClean, all_around all⟩, whole, fun k => ?_⟩
  unfold relationship
  rw [Minting.run_bind_lift pointed,
    Minting.run_bind_lift named,
    Minting.run_bind_lift typed, Minting.run_bind_of_ok (drawn k),
    pattern_around]
  simp only [Str.append_assoc]
  rfl

end Pattern
end BoundQuery
