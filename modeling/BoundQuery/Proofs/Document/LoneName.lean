import BoundQuery.Proofs.Document.Section
import BoundQuery.Proofs.Document.WellShaped
import BoundQuery.Proofs.Statement.Count
import BoundQuery.Proofs.Statement.Rows
import BoundQuery.Proofs.TurnedDown

/-!
# Names without a list

In some sections a document lists names, and nothing else of them matters than what they are read
as. In a relational document a text is read as the list of it alone, so a single name needs no list.
In a graph document it is read as the list of its characters, which is the same for names of one
character only.

## Main definitions

* `Document.nameSections`, `Document.namesIn` — the sections that list names and how they are read.
* `Document.ReadAlike` — documents that differ in such sections, and are read alike there.
* `Document.AreInterchangeable` — values of a section that no answer tells apart.

## Main statements

* `Document.ReadAlike.render_relational_eq`, `Document.ReadAlike.render_graph_eq` — documents that
  are read alike are rendered alike.
* `Document.interchangeable_of_name` — which names need no list.
-/

namespace BoundQuery

/-- What a mapping holds after a value has been put into it. -/
theorem Value.field?_putEntry (k : Str) (v : Value) (entries : List (Value × Value))
    (key : Str) :
    field? (putEntry (.str k) v entries) key = if k = key then some v else field? entries key := by
  induction entries with
  | nil => by_cases same : k = key <;> simp [putEntry, field?, isText, Text.spelling, same]
  | cons e rest ih =>
    obtain ⟨k', w⟩ := e
    have same : k'.sameKey (.str k) = k'.isText k := Row.sameKey_text k' (.plain k)
    rw [putEntry, same]
    by_cases here : k'.isText k = true
    · have read : k'.isText key = (k == key) := by
        cases k' with
        | text t =>
          obtain rfl : t.spelling = k := by simpa [isText] using here
          rfl
        | _ => cases here
      by_cases equal : k = key <;> simp [here, field?, read, equal]
    · rw [if_neg here]
      unfold field? at ih ⊢
      rw [List.find?_cons, List.find?_cons]
      by_cases there : k'.isText key = true
      · have apart : k ≠ key := fun equal => here (equal ▸ there)
        simp [there, apart]
      · simp only [there]
        exact ih

theorem Registry.exists_family {name : Value} {d : RegisteredDialect}
    (found : get name standard = .ok d) : ∃ family, d.family = some family := by
  obtain ⟨key, _, found⟩ := Result.bind_eq_ok.1 found
  unfold standard at found
  by_cases graph : key = "cypher"
  · subst graph
    cases found
    exact ⟨_, rfl⟩
  · by_cases relational : key = "postgres"
    · subst relational
      cases found
      exact ⟨_, rfl⟩
    · simp [List.lookup_cons, beq_false_of_ne, graph, relational] at found

namespace Document

/-! ## Sections that list names -/

/-- The sections that list names and nothing else. -/
def nameSections : Dialect → List Str
  | .relational => ["fields", "group_by", "returning"]
  | .graph => ["with", "return", "delete", "detach_delete"]

/-- The names that such a section is read as. -/
def namesIn : Dialect → Value → Result (List Value)
  | .relational => Value.asList
  | .graph => Value.elements

/-- Two documents that differ in sections that list names only, and are read alike in those of one
dialect. -/
structure ReadAlike (d : Dialect) (entries entries' : Entries) : Prop where
  others : ∀ key, key ∉ nameSections .relational ++ nameSections .graph →
    Value.field? entries key = Value.field? entries' key
  isTruthy : ∀ key ∈ nameSections d,
    (Value.field entries key).isTruthy = (Value.field entries' key).isTruthy
  names : ∀ key ∈ nameSections d,
    namesIn d (Value.field entries key) = namesIn d (Value.field entries' key)

variable {d : Dialect} {entries entries' : Entries} {key : Str}

theorem ReadAlike.field (h : ReadAlike d entries entries') (key : Str)
    (other : key ∉ nameSections .relational ++ nameSections .graph) :
    Value.field entries key = Value.field entries' key :=
  congrArg (·.getD .null) (h.others key other)

theorem readAlike_putEntry (entries : Entries) {v w : Value}
    (listed : key ∈ nameSections .relational ++ nameSections .graph)
    (alike : key ∈ nameSections d → v.isTruthy = w.isTruthy ∧ namesIn d v = namesIn d w) :
    ReadAlike d (Value.putEntry (.str key) v entries) (Value.putEntry (.str key) w entries) where
  others k other := by
    have apart : key ≠ k := fun same => other (same ▸ listed)
    rw [Value.field?_putEntry, Value.field?_putEntry, if_neg apart, if_neg apart]
  isTruthy k mem := by
    unfold Value.field
    rw [Value.field?_putEntry, Value.field?_putEntry]
    split
    · next same => exact (alike (same ▸ mem)).1
    · rfl
  names k mem := by
    unfold Value.field
    rw [Value.field?_putEntry, Value.field?_putEntry]
    split
    · next same => exact (alike (same ▸ mem)).2
    · rfl

/-! ## Documents that are read alike -/

namespace ReadAlike

section
variable (h : ReadAlike .relational entries entries')
include h

open Document.Relational

theorem make_eq (config : Config) (table : Value) :
    Select.make config table (Value.field entries "fields") =
      Select.make config table (Value.field entries' "fields") := by
  have names : (Value.field entries "fields").asList = (Value.field entries' "fields").asList :=
    h.names "fields" (by decide)
  unfold Select.make
  rw [h.isTruthy "fields" (by decide), names]

theorem groupBy_eq : callIfTruthy entries "group_by" .groupBy =
    callIfTruthy entries' "group_by" .groupBy := by
  have names : (Value.field entries "group_by").asList = (Value.field entries' "group_by").asList :=
    h.names "group_by" (by decide)
  have calls : call (.groupBy (Value.field entries "group_by")) =
      call (.groupBy (Value.field entries' "group_by")) := by
    simp only [call, Select.step, Select.Call.effect, names]
  unfold callIfTruthy
  dsimp only
  rw [h.isTruthy "group_by" (by decide), calls]

theorem selecting_eq : selecting entries = selecting entries' := by
  unfold selecting hasKey fieldOr
  rw [h.groupBy_eq, callEach_congr (h.field "joins" (by decide)),
    callIfTruthy_congr (h.field "where" (by decide)),
    callEach_congr (h.field "having" (by decide)),
    callEach_congr (h.field "order_by" (by decide)), h.others "page" (by decide),
    h.others "page_size" (by decide), h.field "page_size" (by decide),
    callIfGiven_congr (h.field "limit" (by decide)),
    callIfGiven_congr (h.field "offset" (by decide))]

theorem select_eq (config : Config) (table : Value) :
    select config entries table = select config entries' table := by
  unfold select
  rw [h.make_eq, h.selecting_eq, h.field "count" (by decide)]

theorem insert_eq (table : Value) (place : Str) :
    Relational.insert entries table place = Relational.insert entries' table place := by
  have names : (Value.field entries "returning").asList =
      (Value.field entries' "returning").asList := h.names "returning" (by decide)
  unfold Relational.insert require
  simp only [Insert.step, Insert.Call.effect, names, h.isTruthy "returning" (by decide),
    h.others "rows" (by decide)]

theorem modify_eq (s : Modify) :
    Relational.modify entries s = Relational.modify entries' s := by
  have names : (Value.field entries "returning").asList =
      (Value.field entries' "returning").asList := h.names "returning" (by decide)
  unfold Relational.modify modifyCall
  simp only [Modify.step, Modify.Call.effect, names, h.isTruthy "returning" (by decide),
    h.field "where" (by decide)]

theorem render_relational_eq (config : Config) :
    Relational.render config entries = Relational.render config entries' := by
  unfold Relational.render statementOf update Relational.delete require fieldOr
  simp only [h.others "table" (by decide), h.others "statement" (by decide),
    h.others "set" (by decide), h.select_eq, h.insert_eq, h.modify_eq]

end

section
variable (h : ReadAlike .graph entries entries')
include h

open Document.Graph

theorem names_eq (key : Str) (listed : key ∈ nameSections .graph)
    (toCall : List Value → GraphQuery.Call) :
    callIfTruthy entries key toCall = callIfTruthy entries' key toCall := by
  have names : (Value.field entries key).elements = (Value.field entries' key).elements :=
    h.names key listed
  unfold callIfTruthy
  dsimp only
  rw [h.isTruthy key listed, names]

theorem building_eq : building entries = building entries' := by
  unfold building
  rw [callEach_congr (h.field "match" (by decide)),
    callEach_congr (h.field "optional_match" (by decide)), h.field "unwind" (by decide),
    callEachEntry_congr (h.field "where" (by decide)), h.names_eq "with" (by decide),
    callEach_congr (h.field "create" (by decide)), callEach_congr (h.field "merge" (by decide)),
    callEachEntry_congr (h.field "set" (by decide)), h.names_eq "detach_delete" (by decide),
    h.names_eq "delete" (by decide), h.names_eq "return" (by decide),
    callEach_congr (h.field "order_by" (by decide)),
    callIfGiven_congr (h.field "skip" (by decide)), callIfGiven_congr (h.field "limit" (by decide))]

theorem render_graph_eq (config : Config) :
    Graph.render config entries = Graph.render config entries' := by
  unfold Graph.render
  rw [h.building_eq]

end
end ReadAlike

/-! ## What is emitted -/

theorem emit_eq {document document' : Value} (dialect : Value)
    (named : dialectName document dialect = dialectName document' dialect) {config : Config}
    (rendered : ∀ d, renderAs config document d = renderAs config document' d) :
    emit config document dialect = emit config document' dialect := by
  unfold emit
  rw [named]
  refine bind_congr fun name => ?_
  cases found : Registry.get name Registry.standard with
  | error fault => rfl
  | ok r =>
    obtain ⟨registered, paramstyle, family⟩ := r
    obtain ⟨family, rfl⟩ := Registry.exists_family found
    change (renderAs config document family >>= _) = (renderAs config document' family >>= _)
    rw [rendered]

/-- The document with a value under a key. -/
def withSection (entries : Entries) (key : Str) (v : Value) : Value :=
  .map (Value.putEntry (.str key) v entries)

/-- Under a key it does not matter which of the values a document has. -/
def AreInterchangeable (key : Str) (v w : Value) : Prop :=
  ∀ (config : Config) (entries : Entries) (dialect : Value),
    emit config (withSection entries key v) dialect =
      emit config (withSection entries key w) dialect

theorem interchangeable_of_alike {v w : Value}
    (listed : key ∈ nameSections .relational ++ nameSections .graph)
    (truthy : v.isTruthy = w.isTruthy)
    (names : ∀ d, key ∈ nameSections d → namesIn d v = namesIn d w) :
    AreInterchangeable key v w := by
  intro config entries dialect
  have alike (d : Dialect) : ReadAlike d (Value.putEntry (.str key) v entries)
      (Value.putEntry (.str key) w entries) :=
    readAlike_putEntry entries listed fun mem => ⟨truthy, names d mem⟩
  refine emit_eq dialect ?_ fun d => ?_
  · simp only [dialectName, withSection, Value.entriesFor, Except.map,
      (alike .graph).field "dialect" (by decide)]
  · cases d with
    | relational =>
      change (Relational.render config _ >>= _) = (Relational.render config _ >>= _)
      rw [(alike .relational).render_relational_eq]
    | graph =>
      change (Graph.render config _ >>= _) = (Graph.render config _ >>= _)
      rw [(alike .graph).render_graph_eq]

/-! ## Documents of names alone -/

namespace Graph

open GraphQuery Building

def callOf (key : Str) : List Value → Call :=
  match key.string? with
  | some "with" => .withItems
  | some "return" => .returnItems
  | some "delete" => .delete
  | _ => .detachDelete

def keywordOf (key : Str) : Str :=
  match key.string? with
  | some "with" => "WITH "
  | some "return" => "RETURN "
  | some "delete" => "DELETE "
  | _ => "DETACH DELETE "

/-- Items are written as they are; what is deleted has to be a name. -/
def checkOf (key s : Str) : Result Text :=
  match key.string? with
  | some "with" | some "return" => .ok (.plain s)
  | _ => Call.deleteTarget (.str s)

theorem building_names (listed : key ∈ nameSections .graph) (x : Value) (xs : List Value) :
    building (Value.putEntry (.str key) (.list (x :: xs)) []) = call (callOf key (x :: xs)) := by
  simp only [nameSections, List.mem_cons, List.not_mem_nil, or_false] at listed
  rcases listed with rfl | rfl | rfl | rfl
  · exact (Sections.building_toEntries { items := x :: xs }).trans (by simp [callForAll, callOf])
  · exact (Sections.building_toEntries { returned := x :: xs }).trans (by simp [callForAll, callOf])
  · exact (Sections.building_toEntries { deleted := x :: xs }).trans (by simp [callForAll, callOf])
  · exact (Sections.building_toEntries { detached := x :: xs }).trans (by simp [callForAll, callOf])

theorem foldl_apply_withItem (xs : List Value) (q : GraphQuery) :
    (xs.map Edit.withItem).foldl apply q = { q with withItems := q.withItems ++ xs } := by
  induction xs generalizing q with
  | nil => simp
  | cons x xs ih => simp [ih, apply]

theorem foldl_apply_returnItem (xs : List Value) (q : GraphQuery) :
    (xs.map Edit.returnItem).foldl apply q = { q with returnItems := q.returnItems ++ xs } := by
  induction xs generalizing q with
  | nil => simp
  | cons x xs ih => simp [ih, apply]

/-- The query of some names alone. -/
def queryOf (key : Str) (names : List Text) : GraphQuery :=
  match key.string? with
  | some "with" => { config := .standard, withItems := names.map .text }
  | some "return" => { config := .standard, returnItems := names.map .text }
  | some "delete" => { config := .standard, deletes := names }
  | _ => { config := .standard, detachDeletes := names }

theorem clauses_queryOf (listed : key ∈ nameSections .graph) (name : Text) (names : List Text) :
    (queryOf key (name :: names)).clauses =
      .ok [{ text := keywordOf key ++ commaSeparated ((name :: names).map Text.spelling) }] := by
  have texts : spellings 0 ((name :: names).map .text) = _ := spellings_texts 0 (name :: names)
  have none : spellings 0 [] = .ok [] := rfl
  simp only [nameSections, List.mem_cons, List.not_mem_nil, or_false] at listed
  rcases listed with rfl | rfl | rfl | rfl
  · have query : queryOf "with" (name :: names) =
        { config := .standard, withItems := (name :: names).map .text } := rfl
    simp only [query, clauses, texts]
    rfl
  · have query : queryOf "return" (name :: names) =
        { config := .standard, returnItems := (name :: names).map .text } := rfl
    simp only [query, clauses, texts]
    rfl
  · have query : queryOf "delete" (name :: names) =
        { config := .standard, deletes := name :: names } := rfl
    simp only [query, clauses, none]
    rfl
  · have query : queryOf "detach_delete" (name :: names) =
        { config := .standard, detachDeletes := name :: names } := rfl
    simp only [query, clauses, none]
    rfl

theorem build_queryOf (listed : key ∈ nameSections .graph) (name : Text) (names : List Text) :
    (queryOf key (name :: names)).build = .ok
      { query := keywordOf key ++ commaSeparated ((name :: names).map Text.spelling)
        params := [] } := by
  have config : (queryOf key (name :: names)).config = .standard := by
    unfold queryOf
    split <;> rfl
  rw [build, clauses_queryOf listed, config]
  change Except.ok (CypherQuery.mk (Str.intercalate "\n" [_]) _) = _
  rw [Str.intercalate_singleton]
  rfl

/-- A call that takes names up to the first bad one. -/
theorem run_call_of_targets {c : Call} {toEdit : Text → Edit} {xs : List Value} {q : GraphQuery}
    (same : ∀ marker n, c.effect marker n =
      (.upToFault (fun v => (Call.deleteTarget v).map toEdit) xs, n)) :
    (call c).run q = (xs.mapM Call.deleteTarget).map fun names =>
      ((), (names.map toEdit).foldl apply q) := by
  have edits := Result.mapM_map Call.deleteTarget toEdit xs
  rw [run_call, step, same]
  cases checked : xs.mapM Call.deleteTarget with
  | error fault =>
    rw [checked] at edits
    dsimp only
    rw [Effect.fault_upToFault_of_mapM_error edits]
    rfl
  | ok names =>
    rw [checked] at edits
    rw [Effect.upToFault_of_mapM_ok edits]
    rfl

/-- The calls for names that are texts. -/
theorem run_names (listed : key ∈ nameSections .graph) (ts : List Str) :
    (call (callOf key (ts.map .str))).run { config := .standard } =
      (ts.mapM (checkOf key)).map fun names => ((), queryOf key names) := by
  have texts : (ts.map Text.plain).map Value.text = ts.map .str := by simp
  simp only [nameSections, List.mem_cons, List.not_mem_nil, or_false] at listed
  rcases listed with rfl | rfl | rfl | rfl
  · have checked : ts.mapM (checkOf "with") = .ok (ts.map .plain) :=
      Result.mapM_of_ok fun _ _ => rfl
    change Except.ok ((), ((ts.map Value.str).map Edit.withItem).foldl apply _) = _
    rw [foldl_apply_withItem, checked, ← texts]
    rfl
  · have checked : ts.mapM (checkOf "return") = .ok (ts.map .plain) :=
      Result.mapM_of_ok fun _ _ => rfl
    change Except.ok ((), ((ts.map Value.str).map Edit.returnItem).foldl apply _) = _
    rw [foldl_apply_returnItem, checked, ← texts]
    rfl
  · change (call (.delete (ts.map .str))).run _ = _
    rw [run_call_of_targets fun _ _ => rfl, List.mapM_map]
    simp only [foldl_apply_delete]
    rfl
  · change (call (.detachDelete (ts.map .str))).run _ = _
    rw [run_call_of_targets fun _ _ => rfl, List.mapM_map]
    simp only [foldl_apply_detachDelete]
    rfl

/-- What a document of names alone is rendered to. -/
theorem render_names (listed : key ∈ nameSections .graph) (ts : List Str) (some : ts ≠ []) :
    render .standard (Value.putEntry (.str key) (.list (ts.map .str)) []) =
      (ts.mapM (checkOf key)).map fun names =>
        { query := keywordOf key ++ commaSeparated (names.map Text.spelling), params := [] } := by
  obtain ⟨t, ts, rfl⟩ := List.exists_cons_of_ne_nil some
  have built : building (Value.putEntry (.str key) (.list ((t :: ts).map .str)) []) =
      call (callOf key ((t :: ts).map .str)) := building_names listed _ _
  rw [render, built, run_names listed]
  cases checked : (t :: ts).mapM (checkOf key) with
  | error fault => rfl
  | ok names =>
    cases names with
    | nil => cases (Result.mapM_eq_ok.1 checked)
    | cons name names => exact build_queryOf listed name names

end Graph

/-- The characters of a text, each as a text of its own. -/
def charactersOf (s : Str) : List Str :=
  s.toList.map Str.singleton

theorem length_commaSeparated_singletons (c : Chr) (cs : List Chr) :
    (commaSeparated ((c :: cs).map Str.singleton)).length = 3 * cs.length + 1 := by
  induction cs generalizing c with
  | nil => simp [commaSeparated]
  | cons d cs ih =>
    have rest := ih d
    simp only [commaSeparated, List.map_cons] at rest ⊢
    have comma : (Str.of ", ").length = 2 := rfl
    rw [Str.intercalate_cons_cons, Str.length_append, Str.length_append, rest, comma,
      Str.length_singleton, List.length_cons]
    omega

theorem checkOf_eq (key t : Str) : Graph.checkOf key t = .ok (.plain t) ∨
    Graph.checkOf key t = .error (.refusal (.identifier (.str t) "delete target")) := by
  unfold Graph.checkOf
  split
  · exact .inl rfl
  · exact .inl rfl
  · unfold GraphQuery.Call.deleteTarget Name.plain Name.gate
    dsimp only
    split
    · exact .inl rfl
    · exact .inr rfl

theorem checked_cases (key : Str) (ts : List Str) :
    ts.mapM (Graph.checkOf key) = .ok (ts.map .plain) ∨
      ∃ t ∈ ts, ts.mapM (Graph.checkOf key) =
        .error (.refusal (.identifier (.str t) "delete target")) := by
  induction ts with
  | nil => exact .inl rfl
  | cons t ts ih =>
    rw [List.mapM_cons]
    rcases checkOf_eq key t with passed | refused
    · rw [passed]
      rcases ih with all | ⟨t', mem, refused⟩
      · rw [all]
        exact .inl rfl
      · rw [refused]
        exact .inr ⟨t', List.mem_cons_of_mem t mem, rfl⟩
    · rw [refused]
      exact .inr ⟨t, List.mem_cons_self, rfl⟩

theorem charactersOf_ne_nil {s : Str} (nonempty : s ≠ "") : charactersOf s ≠ [] := by
  simpa [charactersOf] using nonempty

theorem charactersOf_eq_singleton {s : Str} (single : s.length = 1) : charactersOf s = [s] := by
  obtain ⟨c, split⟩ := List.length_eq_one_iff.1 (Str.length_toList.trans single)
  have same : s = Str.singleton c := by
    rw [← Str.toList_inj, split, Str.toList_singleton]
  rw [charactersOf, split, same]
  rfl

/-- A text that is written as its characters are is a single character: the commas make the others
longer. -/
theorem length_eq_one_of_commaSeparated {s : Str} (nonempty : s ≠ "")
    (same : commaSeparated (charactersOf s) = s) : s.length = 1 := by
  obtain ⟨c, cs, split⟩ : ∃ c cs, s.toList = c :: cs :=
    List.exists_cons_of_ne_nil (by simpa using nonempty)
  have length : s.length = cs.length + 1 := by rw [← Str.length_toList, split, List.length_cons]
  have lengths := congrArg Str.length same
  rw [charactersOf, split, length_commaSeparated_singletons, length] at lengths
  omega

/-- A name that is rendered as its characters are is a single character. -/
theorem length_eq_one_of_render_eq {s : Str} (nonempty : s ≠ "")
    (listed : key ∈ nameSections .graph)
    (same : Graph.render .standard
        (Value.putEntry (.str key) (.list ((charactersOf s).map .str)) []) =
      Graph.render .standard (Value.putEntry (.str key) (.list [.str s]) [])) : s.length = 1 := by
  have whole : Graph.render .standard (Value.putEntry (.str key) (.list [.str s]) []) = _ :=
    Graph.render_names listed [s] (List.cons_ne_nil s [])
  rw [Graph.render_names listed _ (charactersOf_ne_nil nonempty), whole] at same
  rcases checked_cases key (charactersOf s) with left | ⟨t, mem, left⟩
  · rcases checked_cases key [s] with right | ⟨t', _, right⟩
    · rw [left, right] at same
      have query := congrArg CypherQuery.query (Except.ok.inj same)
      have alone : commaSeparated [s] = s := Str.intercalate_singleton
      simp only [List.map_map, Function.comp_def, Text.spelling, List.map_id', alone,
        Str.append_right_inj] at query
      exact length_eq_one_of_commaSeparated nonempty query
    · rw [left, right] at same
      cases same
  · rcases checked_cases key [s] with right | ⟨t', mem', right⟩
    · rw [left, right] at same
      cases same
    · -- a character is turned down by its own name
      rw [left, right] at same
      cases same
      obtain ⟨c, _, rfl⟩ := List.mem_map.1 mem
      rw [← List.mem_singleton.1 mem']
      exact Str.length_singleton c

theorem isTruthy_str {s : Str} (nonempty : s ≠ "") : (Value.str s).isTruthy = true := by
  simpa [Value.isTruthy, Text.isEmpty, Text.spelling] using nonempty

theorem notMem_graph_of_mem : ∀ key ∈ nameSections .relational, key ∉ nameSections .graph := by
  decide

/-- In a relational document a name is read as the list of it alone. -/
theorem interchangeable_list {s : Str} (nonempty : s ≠ "")
    (listed : key ∈ nameSections .relational) :
    AreInterchangeable key (.str s) (.list [.str s]) := by
  refine interchangeable_of_alike (List.mem_append_left _ listed) (isTruthy_str nonempty)
    fun d mem => ?_
  cases d with
  | relational => rfl
  | graph => exact absurd mem (notMem_graph_of_mem key listed)

/-- In a graph document a name is read as the list of its characters. -/
theorem interchangeable_characters {s : Str} (nonempty : s ≠ "")
    (listed : key ∈ nameSections .graph) :
    AreInterchangeable key (.str s) (.list ((charactersOf s).map .str)) := by
  have truthy : (Value.list ((charactersOf s).map .str)).isTruthy = true := by
    simpa [Value.isTruthy] using charactersOf_ne_nil nonempty
  refine interchangeable_of_alike (List.mem_append_right _ listed)
    ((isTruthy_str nonempty).trans truthy.symm) fun d mem => ?_
  cases d with
  | relational => exact absurd listed (notMem_graph_of_mem key mem)
  | graph => simp [namesIn, Value.elements, charactersOf, Text.chars, Text.spelling]

/-- A document of names alone is rendered without parameters, or refused. -/
theorem answers_render_names (listed : key ∈ nameSections .graph) (ts : List Str)
    (some : ts ≠ []) :
    (Graph.render .standard (Value.putEntry (.str key) (.list (ts.map .str)) [])).Answers
      fun r => r.params = [] := by
  rw [Graph.render_names listed ts some]
  rcases checked_cases key ts with passed | ⟨t, _, refused⟩
  · rw [passed]
    exact .ok rfl
  · rw [refused]
    exact .refused rfl

/-- A name of a relational document needs no list. In a graph document it stands for the list of its
characters, so it needs a list unless it is a single character. -/
theorem interchangeable_of_name {s : Str} (nonempty : s ≠ "") :
    (∀ key ∈ nameSections .relational, AreInterchangeable key (.str s) (.list [.str s])) ∧
    ∀ key ∈ nameSections .graph,
      AreInterchangeable key (.str s) (.list ((charactersOf s).map .str)) ∧
      (AreInterchangeable key (.str s) (.list [.str s]) ↔ s.length = 1) := by
  refine ⟨fun key listed => interchangeable_list nonempty listed, fun key listed => ?_⟩
  have characters := interchangeable_characters nonempty listed
  refine ⟨characters, fun same => ?_, fun single => ?_⟩
  · have emitted := (characters .standard [] (.str "cypher")).symm.trans
      (same .standard [] (.str "cypher"))
    have answered := answers_render_names listed _ (charactersOf_ne_nil nonempty)
    have answered' := answers_render_names listed [s] (List.cons_ne_nil s [])
    exact length_eq_one_of_render_eq nonempty listed
      (render_eq_of_emit_eq answered answered' emitted)
  · rw [charactersOf_eq_singleton single] at characters
    exact characters

/-- The selection of a single column reads alike, the deletion of a single node does not. -/
theorem interchangeable_of_name_id :
    Str.of "id" ≠ "" ∧
    emit .standard (withSection [(.str "table", .str "users")] "fields" (.str "id"))
        (.str "postgres") =
      emit .standard (withSection [(.str "table", .str "users")] "fields" (.list [.str "id"]))
        (.str "postgres") ∧
    ¬ AreInterchangeable "delete" (.str "id") (.list [.str "id"]) ∧
    AreInterchangeable "delete" (.str "n") (.list [.str "n"]) := by
  have named : Str.of "id" ≠ "" := by decide
  obtain ⟨relational, graph⟩ := interchangeable_of_name named
  refine ⟨named, relational "fields" (by decide) _ _ _, fun same => ?_, ?_⟩
  · exact absurd ((graph "delete" (by decide)).2.1 same) (by decide)
  · exact ((interchangeable_of_name (by decide)).2 "delete" (by decide)).2.2 (by decide)

/-- A node that is matched by its name. -/
def matched : Entries :=
  [(.str "match", .list [.str "(ab)"])]

/-- What is returned of a node is not what its name says, but for a list. -/
theorem not_interchangeable_return :
    (emit .standard (withSection matched "return" (.str "ab")) (.str "cypher")).toOption.map
      (·.rendered.text) = some ("MATCH (ab)\nRETURN a, b" : Str) ∧
    (emit .standard (withSection matched "return" (.list [.str "ab"])) (.str "cypher")).toOption.map
      (·.rendered.text) = some ("MATCH (ab)\nRETURN ab" : Str) ∧
    ¬ AreInterchangeable "return" (.str "ab") (.list [.str "ab"]) := by
  have characters : (emit .standard (withSection matched "return" (.str "ab"))
      (.str "cypher")).toOption.map (·.rendered.text) = some ("MATCH (ab)\nRETURN a, b" : Str) := by
    decide +kernel
  have name : (emit .standard (withSection matched "return" (.list [.str "ab"]))
      (.str "cypher")).toOption.map (·.rendered.text) = some ("MATCH (ab)\nRETURN ab" : Str) := by
    decide +kernel
  refine ⟨characters, name, fun same => ?_⟩
  rw [same .standard matched (.str "cypher"), name] at characters
  exact absurd characters (by decide)

end Document
end BoundQuery
