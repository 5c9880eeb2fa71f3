import BoundQuery.GraphQuery.Shortcut
import BoundQuery.Proofs.Document.Section
import BoundQuery.Proofs.Document.WellShaped
import BoundQuery.Proofs.GraphQuery.Union

/-!
# Shortcuts as documents

Each of the queries in one call has a document that says the same: the nodes that are looked up or
created, the assignment, what is deleted and what is returned. A document may write a node by itself
or as a path of its own. Both ways lead to the same calls in the same order, so they end with the
same query and parameters, or are turned down for the same reason.

## Main definitions

* `GraphQuery.Shortcut.document` — the document that says what a shortcut does.
* `GraphQuery.Shortcut.HoldsData` — shortcuts for names and data.

## Main statements

* `GraphQuery.Shortcut.building_document` — the document makes the calls of the shortcut.
* `Document.emit_of_shortcut` — what is emitted for the document.
-/

namespace BoundQuery

open Result

/-! ## Paths of one pattern -/

namespace Pattern

/-- A pattern that is the path of itself alone. -/
def IsOwnPath (p : Pattern) : Prop :=
  concat [p] = p

theorem gives_properties_single (stem : Str) (v : Value) :
    (properties stem v).Gives fun written => Bindings.merge [] written.2 = written.2 := by
  unfold properties
  split
  · refine Minting.gives_bind_lift fun xs _ => ?_
    rw [Minting.mapM_lift]
    refine Minting.gives_bind_lift fun keys _ => Minting.gives_bind_lift fun mapping _ => ?_
    intro n written k answered
    obtain ⟨word, i, _, last⟩ := Minting.bind_eq_ok.1 answered
    cases last
    rfl
  · exact Minting.gives_pure rfl

theorem gives_isOwnPath_node (identifier labels properties : Value) :
    (node identifier labels properties).Gives IsOwnPath := by
  refine Minting.gives_bind_lift fun name _ => Minting.gives_bind_lift fun xs _ => ?_
  rw [Minting.mapM_lift]
  refine Minting.gives_bind_lift fun texts _ => ?_
  refine (gives_properties_single _ properties).bind fun written single => Minting.gives_pure ?_
  rw [IsOwnPath, concat_eq]
  cases name <;> simp [single, addNames]

end Pattern

namespace GraphQuery

namespace Building

/-- A path of patterns that have been made takes no name. -/
theorem makePattern_path (ps : List Pattern) :
    makePattern (.path (Pattern.listed ps)) = pure (Pattern.concat ps) := by
  funext q
  have run := run_makePattern (.path (Pattern.listed ps)) q
  have made : (Making.path (Pattern.listed ps)).run.outcome q.counter =
      (Pattern.path (Pattern.listed ps), q.counter) := rfl
  rw [made, Pattern.path_listed] at run
  exact run

/-- What is done with a pattern depends on it only as far as it has been made. -/
theorem makePattern_bind_congr {α : Type} {making : Making} {P : Pattern → Prop}
    {f g : Pattern → Building α} (made : making.run.Gives P) (same : ∀ p, P p → f p = g p) :
    makePattern making >>= f = makePattern making >>= g := by
  refine StateT.ext fun q => ?_
  rw [StateT.run_bind, StateT.run_bind, run_makePattern]
  cases answer : (making.run.outcome q.counter).1 with
  | error fault => rfl
  | ok p =>
    have answered : making.run.run q.counter = .ok (p, (making.run.outcome q.counter).2) :=
      Minting.run_eq_ok.2 (Prod.ext answer rfl)
    exact congrArg (StateT.run · _) (same p (made _ _ _ answered))

end Building

namespace Shortcut

open Document Document.Graph Building

/-! ## Documents -/

/-- How a document writes a node: by itself, or as a path of its own. -/
inductive Form where
  | node
  | path

def Form.write : Form → Value → Value
  | node, element => element
  | path, element => .list [element]

/-- A node with one label and properties. -/
def labelled (name : Str) (label properties : Value) : Value :=
  .map [(.str "node", .map [(.str "id", .str name), (.str "labels", .list [label]),
    (.str "properties", properties)])]

/-- A node that is named again. -/
def named (name : Str) : Value :=
  .map [(.str "node", .map [(.str "id", .str name)])]

def related (type properties : Value) : Value :=
  .map [(.str "rel", .map [(.str "id", .str "r"), (.str "type", type),
    (.str "properties", properties)])]

/-- The node that has the label and the given value of one property. -/
def sought (name : Str) (label idProperty idValue : Value) : Value :=
  labelled name label (.map [(idProperty, idValue)])

/-- What the document of a shortcut lists. -/
def sections (form : Form) : Shortcut → Sections
  | findNode label properties =>
    { matched := [form.write (labelled "n" label properties)], returned := [.str "n"] }
  | createNode label properties =>
    { created := [form.write (labelled "n" label properties)], returned := [.str "n"] }
  | updateNode label idProperty idValue properties =>
    { matched := [form.write (sought "n" label idProperty idValue)]
      assigned := if properties.isTruthy then [(.str "n", properties)] else []
      returned := [.str "n"] }
  | deleteNode label idProperty idValue detach =>
    { matched := [form.write (sought "n" label idProperty idValue)]
      detached := if detach.isTruthy then [.str "n"] else []
      deleted := if detach.isTruthy then [] else [.str "n"] }
  | createRelationship startLabel startIdProperty startId endLabel endIdProperty endId type
      properties =>
    { matched := [form.write (sought "start" startLabel startIdProperty startId),
        form.write (sought "end" endLabel endIdProperty endId)]
      created := [.list [named "start", related type properties, named "end"]]
      returned := [.str "r"] }

/-- The document that says what a shortcut does. -/
def document (form : Form) (s : Shortcut) : Entries :=
  (s.sections form).toEntries

/-! ## Calls -/

theorem element_node (fields : Entries) :
    element (.map [(.str "node", .map fields)]) = makePattern (nodeMaking fields) := by
  cases fields <;> rfl

theorem element_relationship (fields : Entries) :
    element (.map [(.str "rel", .map fields)]) = makePattern (relationshipMaking fields) := by
  cases fields <;> rfl

/-- In either form a node is made and handed on. -/
theorem pattern_write (form : Form) (fields : Entries) (next : Value → Building Unit) :
    pattern (form.write (.map [(.str "node", .map fields)])) >>= next =
      makePattern (nodeMaking fields) >>= fun p => next p.toValue := by
  cases form with
  | node => simp only [Form.write, pattern, element_node, bind_assoc, pure_bind]
  | path =>
    have alone (p : Pattern) : .list ([p].map Pattern.toValue) = Pattern.listed [p] := rfl
    simp only [Form.write, pattern, List.mapM_cons, List.mapM_nil, element_node, bind_assoc,
      pure_bind, alone, makePattern_path]
    refine makePattern_bind_congr (Pattern.gives_isOwnPath_node _ _ _) fun p own => ?_
    rw [own]

theorem pattern_labelled (form : Form) (name : Str) (label properties : Value)
    (next : Value → Building Unit) :
    pattern (form.write (labelled name label properties)) >>= next =
      makePattern (.node (.str name) (.list [label]) properties) >>= fun p => next p.toValue :=
  pattern_write form _ next

theorem pattern_sought (form : Form) (name : Str) (label : Value) (idProperty : Str)
    (idValue : Value) :
    (pattern (form.write (sought name label (.str idProperty) idValue)) >>= fun v =>
      call (.matching v)) = lookUp name label (.str idProperty) idValue :=
  pattern_labelled form name label _ _

/-- The path between two nodes that are named again. -/
theorem pattern_related (type properties : Value) :
    pattern (.list [named "start", related type properties, named "end"]) = (do
      let first ← known "start"
      let between ← makePattern
        (.relationship (.str "r") type properties (.str RelDirection.outward.spelling))
      let last ← known "end"
      let path ← makePattern (.path (.list [first.toValue, between.toValue, last.toValue]))
      return path.toValue) := by
  simp only [pattern, named, related, List.mapM_cons, List.mapM_nil, element_node,
    element_relationship, bind_assoc, pure_bind]
  rfl

/-! ## Data -/

/-- Properties of a node or relationship, if there are any. -/
def AreProperties (v : Value) : Prop :=
  v.IsData ∧ IfGiven Value.IsMapping v

/-- A shortcut for names and data. -/
def HoldsData : Shortcut → Prop
  | findNode _ properties | createNode _ properties => AreProperties properties
  | updateNode _ idProperty idValue properties =>
    idProperty.IsString ∧ idValue.IsData ∧ AreProperties properties
  | deleteNode _ idProperty idValue _ => idProperty.IsString ∧ idValue.IsData
  | createRelationship _ startIdProperty startId _ endIdProperty endId _ properties =>
    startIdProperty.IsString ∧ startId.IsData ∧ endIdProperty.IsString ∧ endId.IsData ∧
      AreProperties properties

/-- The document makes the calls of the shortcut. -/
theorem building_document (form : Form) {s : Shortcut} (h : s.HoldsData) :
    building (s.document form) = s.steps := by
  rw [document, Sections.building_toEntries]
  cases s with
  | findNode label properties =>
    simp [sections, steps, pattern_labelled, callForAll, returning]
  | createNode label properties =>
    simp [sections, steps, pattern_labelled, callForAll, returning]
  | updateNode label idProperty idValue properties =>
    obtain ⟨⟨key, rfl⟩, -⟩ := h
    by_cases there : properties.isTruthy = true
    · have assigned : (liftM (assignCall (.str "n") properties) : Building Call) =
          pure (.setProperties (.str "n") properties) := rfl
      simp [sections, steps, pattern_sought, callForAll, returning, there, assigned]
    · simp [sections, steps, pattern_sought, callForAll, returning, there]
  | deleteNode label idProperty idValue detach =>
    obtain ⟨⟨key, rfl⟩, -⟩ := h
    by_cases there : detach.isTruthy = true <;>
      simp [sections, steps, pattern_sought, callForAll, there]
  | createRelationship startLabel startIdProperty startId endLabel endIdProperty endId type
      properties =>
    obtain ⟨⟨key, rfl⟩, -, ⟨key', rfl⟩, -⟩ := h
    simp [sections, steps, pattern_sought, pattern_related, callForAll, returning]

theorem render_document (config : Config) (form : Form) {s : Shortcut} (h : s.HoldsData) :
    render config (s.document form) = s.run config := by
  rw [render, building_document form h]
  rfl

section
variable {I : GraphQuery → Prop} (kept : IsKept I)
include kept

theorem keeps_node (name : Str) (label : Value) {properties : Value}
    (data : AreProperties properties) :
    Keeps I (makePattern (.node (.str name) (.list [label]) properties)) Pattern.HoldsData :=
  kept.keeps_makePattern (Pattern.answers_node _ (.inr (.inr ⟨_, rfl⟩)) data.1 data.2)

theorem keeps_known (name : Str) : Keeps I (known name) Pattern.HoldsData :=
  kept.keeps_makePattern (Pattern.answers_node _ (.inl rfl) .null (.inl rfl))

theorem keeps_related (type : Value) {properties : Value} (data : AreProperties properties) :
    Keeps I (makePattern
        (.relationship (.str "r") type properties (.str RelDirection.outward.spelling)))
      Pattern.HoldsData :=
  kept.keeps_makePattern (Pattern.answers_relationship _ _ _ data.1 data.2)

theorem keeps_placed {p : Pattern} (data : p.HoldsData) {c : Value → Call}
    (good : Pattern.IsPlaceable p.toValue → (c p.toValue).HoldsData) :
    Keeps I (call (c p.toValue)) fun _ => True :=
  kept.keeps_call (good (.inr ⟨p, rfl, data⟩))

theorem keeps_returning (name : Str) : Keeps I (returning name) fun _ => True :=
  kept.keeps_call (by simpa [Call.HoldsData] using ⟨name, rfl⟩)

theorem keeps_lookUp (name : Str) (label : Value) {idProperty idValue : Value}
    (text : idProperty.IsString) (data : idValue.IsData) :
    Keeps I (lookUp name label idProperty idValue) fun _ => True := by
  obtain ⟨key, rfl⟩ := text
  have properties : AreProperties (.map [(.str key, idValue)]) :=
    ⟨Graph.isData_singleton key data, .inr ⟨_, rfl⟩⟩
  exact (keeps_node kept name label properties).bind fun p holds => keeps_placed kept holds id

theorem keeps_steps {s : Shortcut} (h : s.HoldsData) : Keeps I s.steps fun _ => True := by
  cases s with
  | findNode label properties | createNode label properties =>
    refine (keeps_node kept "n" label h).bind fun p holds => ?_
    exact (keeps_placed kept holds id).bind fun _ _ => keeps_returning kept "n"
  | updateNode label idProperty idValue properties =>
    obtain ⟨text, identified, data, shape⟩ := h
    refine (keeps_lookUp kept "n" label text identified).bind fun _ _ => ?_
    split
    · next given =>
      have mapping : (Call.setProperties (.str "n") properties).HoldsData :=
        ⟨data, shape.shape given⟩
      exact (kept.keeps_call mapping).bind fun _ _ => keeps_returning kept "n"
    · exact keeps_returning kept "n"
  | deleteNode label idProperty idValue detach =>
    refine (keeps_lookUp kept "n" label h.1 h.2).bind fun _ _ => kept.keeps_call ?_
    split <;> trivial
  | createRelationship startLabel startIdProperty startId endLabel endIdProperty endId type
      properties =>
    obtain ⟨startText, startData, endText, endData, data, shape⟩ := h
    refine (keeps_lookUp kept "start" startLabel startText startData).bind fun _ _ => ?_
    refine (keeps_lookUp kept "end" endLabel endText endData).bind fun _ _ => ?_
    refine (keeps_known kept "start").bind fun first firstHolds => ?_
    refine (keeps_related kept type ⟨data, shape⟩).bind fun between betweenHolds => ?_
    refine (keeps_known kept "end").bind fun last lastHolds => ?_
    have path : (Making.path (Pattern.listed [first, between, last])).run.Answers
        Pattern.HoldsData :=
      Minting.answers_lift (Pattern.answers_path (by simp [firstHolds, betweenHolds, lastHolds]))
    refine (kept.keeps_makePattern path).bind fun p holds => ?_
    exact (keeps_placed kept holds id).bind fun _ _ => keeps_returning kept "r"

end

/-- The parameters of what a shortcut ends with are data. -/
theorem isData_of_run {config : Config} {s : Shortcut} (h : s.HoldsData) {r : CypherQuery}
    (ran : s.run config = .ok r) : (Value.record r.params).IsData := by
  obtain ⟨⟨_, q⟩, made, built⟩ := Result.bind_eq_ok.1 ran
  have kept := keeps_steps isKept_bindsData h _ (bindsData_new config)
  rw [made] at kept
  cases kept with
  | ok kept => exact kept.2.isData_of_build built

end Shortcut
end GraphQuery

namespace Document

open GraphQuery

/-- The document of a shortcut, in either form, is emitted as the query of the shortcut, with the
same parameters in the same order, or is turned down for the reason that the shortcut is. A
surrogate in the query is no obstacle to the shortcut, but it is to the fingerprint of what is
emitted. -/
theorem emit_of_shortcut (config : Config) (form : Shortcut.Form) {s : Shortcut}
    (h : s.HoldsData) :
    ((∀ r, s.run config = .ok r → ¬(Rendered.cypher r).HasSurrogate) →
      (emit config (.map (s.document form)) (.str "cypher")).map Emitted.rendered =
        (s.run config).map Rendered.cypher) ∧
    ∀ r, s.run config = .ok r → (Rendered.cypher r).HasSurrogate →
      ∃ text, emit config (.map (s.document form)) (.str "cypher") = .error (.encoding text) := by
  have rendered := rendering_cypher config (s.document form)
  rw [Shortcut.render_document config form h] at rendered
  cases ran : s.run config with
  | error fault =>
    rw [ran] at rendered
    rw [emit_of_rendering_eq_error rendered]
    exact ⟨fun _ => rfl, nofun⟩
  | ok r =>
    rw [ran] at rendered
    obtain ⟨emitted, failed⟩ := emit_of_rendering rendered (Shortcut.isData_of_run h ran)
    constructor
    · intro proper
      obtain ⟨fingerprint, made⟩ := emitted (proper r rfl)
      rw [made]
      rfl
    · rintro _ ⟨⟩ surrogate
      exact ⟨_, failed surrogate⟩

/-- A friendship between two people who are looked up by their names. -/
def befriend : Shortcut :=
  .createRelationship (.str "Person") (.str "name") (.str "Ann") (.str "Person") (.str "name")
    (.str "Bob") (.str "KNOWS") (.map [(.str "since", .int 1999)])

theorem holdsData_befriend : befriend.HoldsData :=
  ⟨⟨_, rfl⟩, .str _, ⟨_, rfl⟩, .str _, Graph.isData_singleton _ (.int _), .inr ⟨_, rfl⟩⟩

def befriending : Str :=
  Str.join ["MATCH (start:Person {name: $props1.name})\n",
    "MATCH (end:Person {name: $props2.name})\n",
    "CREATE (start)-[r:KNOWS {since: $relProps3.since}]->(end)\n", "RETURN r"]

theorem run_befriend : (befriend.run .standard).toOption.map
    (fun r => (r.query, r.params.map Prod.fst)) =
      some (befriending, (["props1", "props2", "relProps3"] : List Str)) := by
  decide +kernel

/-- A label that is none, next to properties that would be turned down as well. -/
def unlabelled : Shortcut :=
  .createNode (.str "a b") (.map [(.str "1st", .null)])

theorem holdsData_unlabelled : unlabelled.HoldsData :=
  ⟨Graph.isData_singleton _ .null, .inr ⟨_, rfl⟩⟩

theorem emit_of_shortcut_befriend :
    befriend.HoldsData ∧ unlabelled.HoldsData ∧
    (∃ r, (emit .standard (.map (befriend.document .path)) (.str "cypher")).map
        Emitted.rendered = .ok (.cypher r) ∧
      r.query = befriending ∧
        r.params.map Prod.fst = (["props1", "props2", "relProps3"] : List Str)) ∧
    (emit .standard (.map (unlabelled.document .node)) (.str "cypher")).map Emitted.rendered =
      .error (.refusal (.identifier (.str "a b") "label")) := by
  refine ⟨holdsData_befriend, holdsData_unlabelled, ?_, ?_⟩
  · obtain ⟨emitted, failed⟩ := emit_of_shortcut .standard .path holdsData_befriend
    have made : (emit .standard (.map (befriend.document .path))
        (.str "cypher")).toOption.isSome = true := by decide +kernel
    have shown := run_befriend
    cases ran : befriend.run .standard with
    | error fault =>
      rw [ran] at shown
      cases shown
    | ok r =>
      rw [ran] at shown emitted
      obtain ⟨query, names⟩ := Prod.mk.inj (Option.some.inj shown)
      refine ⟨r, emitted ?_, query, names⟩
      rintro _ ⟨⟩ surrogate
      obtain ⟨text, stopped⟩ := failed r ran surrogate
      rw [stopped] at made
      cases made
  · exact ((emit_of_shortcut .standard .node holdsData_unlabelled).1 nofun).trans (by rfl)

/-- A person who is looked up by half a surrogate pair. -/
def halfNamed : Shortcut :=
  .findNode (.str "Person") (.map [(.str "name", .str half)])

/-- A query can be found in one call and not be emitted. -/
theorem emit_halfNamed :
    halfNamed.HoldsData ∧ (∃ r, halfNamed.run .standard = .ok r) ∧
      ∃ text, emit .standard (.map (halfNamed.document .node)) (.str "cypher") =
        .error (.encoding text) := by
  have holds : halfNamed.HoldsData :=
    ⟨Graph.isData_singleton _ (.str half), .inr ⟨_, rfl⟩⟩
  have ran : halfNamed.run .standard = .ok ⟨"MATCH (n:Person {name: $props1.name})\nRETURN n",
      [("props1", .map [(.str "name", .str half)])]⟩ := rfl
  have rendered := rendering_cypher .standard (halfNamed.document .node)
  rw [Shortcut.render_document .standard .node holds, ran] at rendered
  have surrogate : (Value.map [(.str "name", .str half)]).HasSurrogate :=
    .value List.mem_cons_self (.str ⟨0x3d, List.mem_cons_self⟩)
  have inside : (Value.record [("props1", .map [(.str "name", .str half)])]).HasSurrogate :=
    .value List.mem_cons_self surrogate
  exact ⟨holds, ⟨_, ran⟩, _,
    (emit_of_rendering rendered (Shortcut.isData_of_run holds ran)).2 (.inr inside)⟩

end Document
end BoundQuery
