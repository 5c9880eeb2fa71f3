import BoundQuery.CommandLine.Run
import BoundQuery.Proofs.Document.Emission
import BoundQuery.Proofs.Document.Graph
import BoundQuery.Proofs.Document.Relational

/-!
# Documents of a shape

What is emitted for a document whose sections have the shapes that its dialect expects. Such a
document is emitted, with parameters that are data, or it is refused for what it asks; it is never a
cause of failure inside.

## Main definitions

* `Document.IsWellShapedFor` — the shape that the dialect of a name expects.

## Main statements

* `Document.answers_emit`, `Document.emit_of_isWellShaped` — such a document is emitted or refused.
-/

namespace BoundQuery

open Result

theorem Registry.keyOf_text (t : Text) :
    Registry.keyOf (.text t) = .ok (Chars.lower t.spelling) := by
  unfold keyOf
  split
  · rfl
  · next empty =>
    have blank : t.spelling = "" := by simpa [Value.isTruthy, Text.isEmpty] using empty
    rw [blank]
    rfl

namespace Document

/-- The shape of a document that the dialect of the given name expects. -/
def IsWellShapedFor (name : Text) (entries : Entries) : Prop :=
  Chars.lower name.spelling = "postgres" ∧ Relational.IsWellShaped entries ∨
    Chars.lower name.spelling = "cypher" ∧ Graph.IsWellShaped entries

variable {entries : Entries} {name : Text}

theorem answers_renderAs (data : (Value.map entries).IsData)
    (shaped : IsWellShapedFor name entries) :
    ∃ d family, Registry.get (.text name) Registry.standard = .ok d ∧ d.family = some family ∧
      (renderAs .standard (.map entries) family).Answers fun r => r.params.IsData := by
  rcases shaped with ⟨lower, shaped⟩ | ⟨lower, shaped⟩
  · refine ⟨Registry.postgres, .relational, ?_, rfl, ?_⟩
    · rw [Registry.get, Registry.keyOf_text, lower]
      rfl
    · refine (Relational.answers_render data shaped).bind fun rendered holds => .ok ?_
      exact .list holds
  · refine ⟨Registry.cypher, .graph, ?_, rfl, ?_⟩
    · rw [Registry.get, Registry.keyOf_text, lower]
      rfl
    · exact (Graph.answers_render data shaped).bind fun query holds => .ok holds

theorem answers_rendering {dialect : Value} (data : (Value.map entries).IsData)
    (named : dialectName (.map entries) dialect = .ok (.text name))
    (shaped : IsWellShapedFor name entries) :
    (rendering .standard (.map entries) dialect).Answers fun made => made.2.params.IsData := by
  obtain ⟨d, family, found, renders, rendered⟩ := answers_renderAs data shaped
  obtain ⟨registered, paramstyle, _⟩ := d
  obtain rfl := renders
  change Answers _ (dialectName _ _ >>= fun name => Registry.get name _ >>= _)
  rw [named]
  change Answers _ (Registry.get (.text name) _ >>= _)
  rw [found]
  exact rendered.bind fun r isData => .ok isData

/-- A document of the shape that its dialect expects, whatever else is in it, is emitted with
parameters that are data, or refused as bad input. The one failure inside is that of the
fingerprint, when a surrogate stands in what has been rendered. -/
theorem emit_of_isWellShaped {dialect : Value} (data : (Value.map entries).IsData)
    (named : dialectName (.map entries) dialect = .ok (.text name))
    (shaped : IsWellShapedFor name entries) :
    (∀ d r, rendering .standard (.map entries) dialect = .ok (d, r) → r.HasSurrogate →
      ∃ text, emit .standard (.map entries) dialect = .error (.encoding text) ∧
        CommandLine.failureCode (.encoding text) = CommandLine.internalCode) ∧
    ((∀ d r, rendering .standard (.map entries) dialect = .ok (d, r) → ¬r.HasSurrogate) →
      (∃ e, emit .standard (.map entries) dialect = .ok e ∧ e.rendered.params.IsData) ∨
        ∃ r, emit .standard (.map entries) dialect = .error (.refusal r) ∧
          CommandLine.failureCode (.refusal r) = CommandLine.inputCode) := by
  rcases (answers_rendering data named shaped).cases with ⟨⟨d, r⟩, rendered, isData⟩ | refused
  · obtain ⟨emitted, failed⟩ := emit_of_rendering rendered isData
    refine ⟨fun d' r' rendered' surrogate => ?_, fun proper => .inl ?_⟩
    · cases rendered.symm.trans rendered'
      exact ⟨_, failed surrogate, rfl⟩
    · obtain ⟨fingerprint, made⟩ := emitted (proper d r rendered)
      exact ⟨_, made, isData⟩
  · obtain ⟨r, turned, input⟩ := refused
    refine ⟨fun d' r' rendered' => ?_, fun _ => .inr ⟨r, emit_of_rendering_eq_error turned, ?_⟩⟩
    · cases turned.symm.trans rendered'
    · change r.problem.category.exitCode = _
      rw [input]
      rfl

/-- A selection with a join that is none. -/
def strayJoin : Entries :=
  [(.str "table", .str "users"), (.str "joins", .list [.int 5]), (.str "page", .list [])]

theorem isData_strayJoin : (Value.map strayJoin).IsData := by
  refine .map (by simp [strayJoin]) (by simp [strayJoin]) ?_
  simpa [strayJoin] using
    ⟨Value.IsJson.str _, Value.IsJson.list (by simpa using Value.IsJson.int 5),
      Value.IsJson.list (by simp)⟩

theorem isWellShaped_strayJoin : Relational.IsWellShaped strayJoin where
  fields := .inl rfl
  filters := .inl rfl
  joins := .inr ⟨_, rfl⟩
  having := .inl rfl
  sorts := .inl rfl
  groups := .inl rfl
  returning := .inl rfl
  rows := nofun
  assignments := .inl rfl

def personNode : Value :=
  .map [(.str "node", .map [(.str "labels", .str "Person"),
    (.str "properties", .map [(.str "tags", .list [.list [], .null])])])]

/-- A node with a property that is a list of odd values, after a pattern that is written out. -/
def oddTags : Entries :=
  [(.str "match", .list [.str "(m)", personNode]), (.str "return", .list [.str "m"])]

theorem isData_oddTags : (Value.map oddTags).IsData := by
  have tags : (Value.list [.list [], .null]).IsData :=
    .list (by simpa using ⟨Value.IsJson.list (by simp), Value.IsJson.null⟩)
  have node : (Value.map [(.str "labels", .str "Person"),
      (.str "properties", .map [(.str "tags", .list [.list [], .null])])]).IsData :=
    .map (by simp) (by simp) (by simpa using ⟨.str _, Graph.isData_singleton _ tags⟩)
  refine .map (by simp [oddTags]) (by simp [oddTags]) ?_
  simpa [oddTags] using
    ⟨Value.IsJson.list (by simpa using ⟨.str _, Graph.isData_singleton _ node⟩),
      Value.IsJson.list (by simpa using Value.IsJson.str _)⟩

theorem isShapedSpec_personNode : Graph.IsShapedSpec personNode := by
  refine ⟨⟨?_, ?_⟩, nofun⟩
  · rintro _ _ ⟨⟩ ⟨⟩
    exact .inr (.inl ⟨_, rfl⟩)
  · rintro _ _ ⟨⟩ (⟨⟨⟩⟩ | ⟨⟨⟩⟩)
    exact .inr ⟨_, rfl⟩

theorem isWellShaped_oddTags : Graph.IsWellShaped oddTags where
  patterns := by
    have text : Graph.IsShapedSpec (.str "(m)") := ⟨⟨nofun, nofun⟩, nofun⟩
    simp only [List.forall_mem_cons, List.not_mem_nil, false_imp_iff, implies_true, and_true]
    exact ⟨.inr ⟨_, rfl, by simpa using ⟨text, isShapedSpec_personNode⟩⟩, .inl rfl, .inl rfl,
      .inl rfl⟩
  unwind := nofun
  filters := .inl rfl
  assignments := .inl rfl
  texts := by
    simp only [List.forall_mem_cons, List.not_mem_nil, false_imp_iff, implies_true, and_true]
    exact ⟨.inl rfl, .inr ⟨_, rfl, by simp [Value.IsString]⟩⟩
  deletions := by
    simp only [List.forall_mem_cons, List.not_mem_nil, false_imp_iff, implies_true, and_true]
    exact ⟨.inl rfl, .inl rfl⟩
  sorts := .inl rfl

theorem emit_of_isWellShaped_both :
    (∃ r, emit .standard (.map strayJoin) (.str "Postgres") = .error (.refusal r) ∧
      CommandLine.failureCode (.refusal r) = CommandLine.inputCode) ∧
    ∃ e, emit .standard (.map oddTags) (.str "cypher") = .ok e ∧ e.rendered.params.IsData := by
  constructor
  · obtain ⟨_, emitted⟩ := @emit_of_isWellShaped _ (.plain "Postgres") (.str "Postgres")
      isData_strayJoin rfl (.inl ⟨rfl, isWellShaped_strayJoin⟩)
    have proper : ∀ d r, rendering .standard (.map strayJoin) (.str "Postgres") = .ok (d, r) →
        ¬r.HasSurrogate := nofun
    refine (emitted proper).resolve_left ?_
    rintro ⟨e, made, -⟩
    cases made
  · have made : (emit .standard (.map oddTags) (.str "cypher")).toOption.isSome = true := by
      decide +kernel
    obtain ⟨failed, emitted⟩ := @emit_of_isWellShaped _ (.plain "cypher") (.str "cypher")
      isData_oddTags rfl (.inr ⟨rfl, isWellShaped_oddTags⟩)
    refine (emitted fun d r rendered surrogate => ?_).resolve_right ?_
    · obtain ⟨text, stopped, -⟩ := failed d r rendered surrogate
      rw [stopped] at made
      cases made
    · rintro ⟨r, refused, -⟩
      rw [refused] at made
      cases made

/-- The first half of a surrogate pair. -/
def half : Str :=
  .singleton (.lone 0x3d)

/-- A selection of the rows that hold half a surrogate pair. -/
def halfSought : Entries :=
  [(.str "table", .str "t"), (.str "where", .map [(.str "a", .str half)])]

theorem isData_halfSought : (Value.map halfSought).IsData :=
  .map (by simp [halfSought]) (by simp [halfSought])
    (by simpa [halfSought] using ⟨.str _, Graph.isData_singleton _ (.str half)⟩)

theorem isWellShaped_halfSought : Relational.IsWellShaped halfSought where
  fields := .inl rfl
  filters := .inr ⟨_, rfl⟩
  joins := .inl rfl
  having := .inl rfl
  sorts := .inl rfl
  groups := .inl rfl
  returning := .inl rfl
  rows := nofun
  assignments := .inl rfl

/-- What is well-shaped and rendered can be a failure inside. -/
theorem emit_halfSought :
    (Value.map halfSought).IsData ∧ Relational.IsWellShaped halfSought ∧
      (∃ r, rendering .standard (.map halfSought) (.str "postgres") = .ok (Registry.postgres, r)) ∧
      ∃ text, emit .standard (.map halfSought) (.str "postgres") = .error (.encoding text) ∧
        CommandLine.failureCode (.encoding text) = CommandLine.internalCode := by
  have rendered : rendering .standard (.map halfSought) (.str "postgres") =
      .ok (Registry.postgres,
        .sql ⟨"SELECT * FROM t WHERE a = $1", [.str half]⟩ "select") := rfl
  have surrogate : (Value.list [.str half]).HasSurrogate :=
    .list List.mem_cons_self (.str ⟨0x3d, List.mem_cons_self⟩)
  have data : (Value.list [.str half]).IsData := .list (by simpa using .str half)
  exact ⟨isData_halfSought, isWellShaped_halfSought, ⟨_, rendered⟩, _,
    (emit_of_rendering rendered data).2 (.inr surrogate), rfl⟩

end Document
end BoundQuery
