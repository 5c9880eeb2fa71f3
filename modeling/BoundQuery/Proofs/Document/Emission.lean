import BoundQuery.Proofs.Answer
import BoundQuery.Proofs.Document.Fingerprint

/-!
# Emission

A document is rendered first, and what has been rendered is marked with its fingerprint. Nothing
but a surrogate keeps data from being marked: the bytes that the fingerprint is taken of do not
exist then, and the emission fails though the document has been rendered.

## Main definitions

* `Document.rendering` — what is rendered of a document, and in which dialect.

## Main statements

* `Document.emit_of_rendering` — what is emitted of what has been rendered.
* `Document.render_eq_of_emit_eq` — emissions tell apart graph queries without parameters.
-/

namespace BoundQuery.Document

/-- What is rendered of a document, before it is marked with its fingerprint. -/
def rendering (config : Config) (document dialect : Value) :
    Result (RegisteredDialect × Rendered) := do
  let found ← Registry.get (← dialectName document dialect) Registry.standard
  match found.family with
  | some family => return (found, ← renderAs config document family)
  | none => throw (.misuse (.noMember document "render"))

namespace Rendered

def marked (r : Rendered) (dialect : RegisteredDialect) : Result Emitted := do
  return { rendered := r, dialect, fingerprint := ← fingerprint (.record r.fields) }

/-- The text that stops a fingerprint if a surrogate stands in it. -/
def canonical (r : Rendered) : Str :=
  (Json.tree (.record r.fields)).text .compact

variable {number : Binary64 → Prop} {r r' : Rendered}

/-- Parameters that JSON has a form for have a fingerprint unless there is a surrogate. -/
theorem marked_of_isJson (data : r.params.IsJson number) (dialect : RegisteredDialect) :
    (¬r.HasSurrogate → ∃ fingerprint, r.marked dialect = .ok ⟨r, dialect, fingerprint⟩) ∧
      (r.HasSurrogate → r.marked dialect = .error (.encoding r.canonical)) := by
  have json := isJson_fields data
  rw [marked, fingerprint_eq, r.hashedBytes_fields, ← hasSurrogate_fields_iff]
  constructor
  · intro proper
    obtain ⟨t, _, bytes⟩ := Json.canonicalBytes_eq json proper
    rw [bytes]
    exact ⟨_, rfl⟩
  · intro surrogate
    rw [Json.canonicalBytes_eq_error json surrogate]
    rfl

/-- Statements of one dialect that are marked alike have the same text and, up to the order of keys,
the same parameters: a text without bytes is told as a whole. -/
theorem same_of_marked_eq {dialect : RegisteredDialect}
    (left : r.params.IsJson fun _ => False) (right : r'.params.IsJson fun _ => False)
    (same : r.marked dialect = r'.marked dialect) :
    r.textKey = r'.textKey ∧ r.text = r'.text ∧ r.params.SameUpToOrder r'.params := by
  obtain ⟨made, failed⟩ := marked_of_isJson left dialect
  obtain ⟨made', failed'⟩ := marked_of_isJson right dialect
  by_cases surrogate : r.HasSurrogate <;> by_cases surrogate' : r'.HasSurrogate
  · rw [failed surrogate, failed' surrogate'] at same
    have texts : r.canonical = r'.canonical := by simpa using same
    have json := isJson_fields left
    have json' := isJson_fields right
    have trees := Json.text_injective (Json.isWhole_tree json) (Json.isWhole_tree json') texts
    exact same_fields_iff.1 ((Json.tree_eq_iff json json').1 trees)
  · obtain ⟨_, marked⟩ := made' surrogate'
    rw [failed surrogate, marked] at same
    cases same
  · obtain ⟨_, marked⟩ := made surrogate
    rw [failed' surrogate', marked] at same
    cases same
  · obtain ⟨_, marked⟩ := made surrogate
    obtain ⟨_, marked'⟩ := made' surrogate'
    rw [marked, marked'] at same
    cases same
    exact ⟨rfl, rfl, .refl _⟩

end Rendered

section
variable {config : Config} {document dialect : Value}

theorem emit_eq_bind (config : Config) (document dialect : Value) :
    emit config document dialect =
      rendering config document dialect >>= fun made => made.2.marked made.1 := by
  rw [emit, rendering, bind_assoc]
  congr 1
  funext name
  rw [bind_assoc]
  congr 1
  funext found
  cases found.family with
  | none => rfl
  | some family =>
    rw [bind_assoc]
    rfl

theorem emit_of_rendering_eq_error {fault : Fault}
    (failed : rendering config document dialect = .error fault) :
    emit config document dialect = .error fault := by
  rw [emit_eq_bind, failed]
  rfl

/-- What is emitted of data depends on its surrogates. -/
theorem emit_of_rendering {d : RegisteredDialect} {r : Rendered}
    (rendered : rendering config document dialect = .ok (d, r)) (data : r.params.IsData) :
    (¬r.HasSurrogate → ∃ fingerprint, emit config document dialect = .ok ⟨r, d, fingerprint⟩) ∧
      (r.HasSurrogate → emit config document dialect = .error (.encoding r.canonical)) := by
  rw [emit_eq_bind, rendered]
  exact r.marked_of_isJson data d

/-- Graph documents are rendered without asking a registry for their dialect. -/
theorem rendering_cypher (config : Config) (entries : Entries) :
    rendering config (.map entries) (.str "cypher") =
      (Graph.render config entries).map fun r => (Registry.cypher, .cypher r) := by
  change (renderAs config (.map entries) .graph >>= _) = _
  change ((Graph.render config entries >>= _) >>= _) = _
  cases Graph.render config entries <;> rfl

/-- Graph documents that are emitted alike are rendered alike, when they have no parameters. -/
theorem render_eq_of_emit_eq {entries entries' : Entries}
    (answered : (Graph.render config entries).Answers fun r => r.params = [])
    (answered' : (Graph.render config entries').Answers fun r => r.params = [])
    (same : emit config (.map entries) (.str "cypher") =
      emit config (.map entries') (.str "cypher")) :
    Graph.render config entries = Graph.render config entries' := by
  have json {r : CypherQuery} (bare : r.params = []) :
      (Rendered.cypher r).params.IsJson fun _ => False := by
    rw [Rendered.params, bare]
    exact .record (by simp) (by simp)
  have refused {r : CypherQuery} {refusal : Refusal} (bare : r.params = []) :
      (Rendered.cypher r).marked Registry.cypher ≠ .error (.refusal refusal) := by
    obtain ⟨made, failed⟩ := Rendered.marked_of_isJson (json bare) Registry.cypher
    by_cases surrogate : (Rendered.cypher r).HasSurrogate
    · simp [failed surrogate]
    · obtain ⟨_, marked⟩ := made surrogate
      simp [marked]
  rw [emit_eq_bind, emit_eq_bind, rendering_cypher, rendering_cypher] at same
  generalize Graph.render config entries = left, Graph.render config entries' = right
    at answered answered' same ⊢
  cases answered with
  | @ok r bare =>
    cases answered' with
    | @ok r' bare' =>
      obtain ⟨-, text, -⟩ := Rendered.same_of_marked_eq (json bare) (json bare') same
      obtain ⟨query, _⟩ := r
      obtain ⟨query', _⟩ := r'
      obtain rfl := bare
      obtain rfl := bare'
      obtain rfl := text
      rfl
    | refused => exact absurd same (refused bare)
  | refused =>
    cases answered' with
    | ok bare' => exact absurd same.symm (refused bare')
    | refused =>
      cases same
      rfl

end

end BoundQuery.Document
