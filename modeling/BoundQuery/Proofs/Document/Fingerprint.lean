import BoundQuery.Document.Emit
import BoundQuery.Proofs.Json.Canonical

/-!
# Fingerprints

A fingerprint is the digest of the canonical bytes of an output without its metadata. Before they
are hashed, these bytes tell two outputs apart exactly when their texts differ, or their parameters
do beyond the order of keys.

## Main definitions

* `Document.hashedBytes` — the bytes that the fingerprint of an output is the digest of.
* `Document.Rendered.output` — what is emitted for a rendered statement, under some metadata.

## Main statements

* `Document.fingerprint_eq` — the fingerprint is the digest of these bytes.
* `Document.fingerprint_of_emit` — what is emitted carries the fingerprint of the whole output.
* `Document.bytes_eq_iff` — equal bytes, for values and for outputs.
-/

namespace BoundQuery

namespace Document

/-- The bytes that the fingerprint of an output is the digest of: nothing of its metadata. -/
def hashedBytes (output : Value) : Result ByteArray := do
  match ← output.toMapping with
  | .map entries =>
    Json.canonicalBytes (.map (entries.filter fun entry => !entry.1.isText "metadata"))
  | v => throw (.misuse (.notIterable v))

theorem fingerprint_eq (output : Value) :
    fingerprint output = (hashedBytes output).map Sha256.hexDigest := by
  rw [fingerprint, hashedBytes]
  cases output.toMapping with
  | error fault => rfl
  | ok mapping =>
    cases mapping with
    | map entries =>
      change (Json.canonicalBytes _ >>= _) = (Json.canonicalBytes _).map _
      cases Json.canonicalBytes (.map (entries.filter fun entry => !entry.1.isText "metadata")) <;>
        rfl
    | _ => rfl

theorem hashedBytes_record (fields : List (Str × Value)) :
    hashedBytes (.record fields) =
      Json.canonicalBytes (.record (fields.filter fun field => field.1 != "metadata")) := by
  change Json.canonicalBytes (.map _) = _
  rw [Value.record, List.filter_map]
  rfl

namespace Rendered

/-- What is emitted for a rendered statement, under some metadata. -/
def output (r : Rendered) (metadata : Value) : Value :=
  .record (r.fields ++ [(("metadata" : Str), metadata)])

/-- A surrogate stands in the text or in a parameter. -/
def HasSurrogate (r : Rendered) : Prop :=
  r.text.HasSurrogate ∨ r.params.HasSurrogate

variable {number : Binary64 → Prop} {r r' : Rendered}

theorem textKey_ne_metadata (r : Rendered) : r.textKey ≠ "metadata" := by
  cases r <;> simp [textKey]

theorem textKey_ne_params (r : Rendered) : r.textKey ≠ "params" := by
  cases r <;> simp [textKey]

theorem hashedBytes_fields (r : Rendered) :
    hashedBytes (.record r.fields) = Json.canonicalBytes (.record r.fields) := by
  have named := r.textKey_ne_metadata
  rw [hashedBytes_record]
  congr 2
  simp [fields, named]

theorem hashedBytes_output (r : Rendered) (metadata : Value) :
    hashedBytes (r.output metadata) = Json.canonicalBytes (.record r.fields) := by
  have named := r.textKey_ne_metadata
  rw [output, hashedBytes_record]
  congr 2
  simp [fields, named]

theorem isJson_fields (h : r.params.IsJson number) : (Value.record r.fields).IsJson number := by
  have named := r.textKey_ne_params
  refine .record ?_ ?_
  · simpa [fields] using named
  · simpa [fields] using ⟨.str r.text, h⟩

theorem hasSurrogate_fields_iff : (Value.record r.fields).HasSurrogate ↔ r.HasSurrogate := by
  have proper : ¬r.textKey.HasSurrogate := by cases r <;> exact Str.not_hasSurrogate_of _
  simp [fields, proper, HasSurrogate]

theorem same_text_iff {s t : Str} : (Value.str s).SameUpToOrder (.str t) ↔ s = t := by
  constructor
  · intro same
    cases same
    rfl
  · intro same
    rw [same]
    exact .refl _

theorem same_fields_iff : (Value.record r.fields).SameUpToOrder (.record r'.fields) ↔
    r.textKey = r'.textKey ∧ r.text = r'.text ∧ r.params.SameUpToOrder r'.params := by
  have named := r.textKey_ne_params
  have named' := r'.textKey_ne_params
  have distinct : ((r.fields.map fun field => (Value.str field.1, field.2)).map
      Prod.fst).Nodup := by
    simpa [fields] using named
  rw [Value.record, Value.record, Value.same_map_iff distinct]
  constructor
  · rintro ⟨keys, each⟩
    have key : r.textKey = r'.textKey := by
      have mem := (keys.mem_iff (a := Value.str r.textKey)).1 (by simp [fields])
      simpa [fields, named] using mem
    have text := each (.str r.textKey, .str r.text) (by simp [fields])
      (.str r'.textKey, .str r'.text) (by simp [fields]) (congrArg Value.str key)
    have params := each (.str "params", r.params) (by simp [fields])
      (.str "params", r'.params) (by simp [fields]) rfl
    exact ⟨key, same_text_iff.1 text, params⟩
  · rintro ⟨key, text, params⟩
    refine ⟨by simp [fields, key], fun e here f there same => ?_⟩
    have ofLeft : e = (.str r.textKey, .str r.text) ∨ e = (.str "params", r.params) := by
      simpa [fields] using here
    have ofRight : f = (.str r'.textKey, .str r'.text) ∨ f = (.str "params", r'.params) := by
      simpa [fields] using there
    rcases ofLeft with rfl | rfl <;> rcases ofRight with rfl | rfl
    · exact same_text_iff.2 text
    · simp [named] at same
    · simp [named'.symm] at same
    · exact params

end Rendered

/-- Whatever metadata is put beside it, what has been emitted has the fingerprint it carries. -/
theorem fingerprint_of_emit {config : Config} {document dialect : Value} {e : Emitted}
    (emitted : emit config document dialect = .ok e) (metadata : Value) :
    fingerprint (e.rendered.output metadata) = .ok e.fingerprint := by
  obtain ⟨name, _, found⟩ := Result.bind_eq_ok.1 emitted
  obtain ⟨d, _, rendering⟩ := Result.bind_eq_ok.1 found
  cases family : d.family with
  | none => simp [family, throw, throwThe, MonadExceptOf.throw] at rendering
  | some f =>
    rw [family] at rendering
    obtain ⟨r, _, marking⟩ := Result.bind_eq_ok.1 rendering
    obtain ⟨digest, hashed, made⟩ := Result.bind_eq_ok.1 marking
    cases made
    rw [fingerprint_eq, r.hashedBytes_output, ← r.hashedBytes_fields, ← fingerprint_eq, hashed]

/-- Without surrogates, canonical bytes tell values apart up to the order of keys, and the bytes
under a fingerprint tell outputs apart by their text and, up to that order, their parameters,
whatever their metadata. -/
theorem bytes_eq_iff :
    (∀ a b : Value, (a.IsJson fun _ => False) → (b.IsJson fun _ => False) →
      ¬a.HasSurrogate → ¬b.HasSurrogate →
      ∃ bytes bytes', Json.canonicalBytes a = .ok bytes ∧ Json.canonicalBytes b = .ok bytes' ∧
        (bytes = bytes' ↔ a.SameUpToOrder b)) ∧
    ∀ (r r' : Rendered) (metadata metadata' : Value),
      (r.params.IsJson fun _ => False) → (r'.params.IsJson fun _ => False) →
      ¬r.HasSurrogate → ¬r'.HasSurrogate →
      ∃ bytes bytes', hashedBytes (r.output metadata) = .ok bytes ∧
        fingerprint (r.output metadata) = .ok (Sha256.hexDigest bytes) ∧
        hashedBytes (r'.output metadata') = .ok bytes' ∧
        fingerprint (r'.output metadata') = .ok (Sha256.hexDigest bytes') ∧
        (bytes = bytes' ↔
          r.textKey = r'.textKey ∧ r.text = r'.text ∧ r.params.SameUpToOrder r'.params) := by
  refine ⟨fun a b => Json.exists_canonicalBytes, ?_⟩
  intro r r' metadata metadata' hr hr' proper proper'
  obtain ⟨bytes, bytes', left, right, same⟩ :=
    Json.exists_canonicalBytes (Rendered.isJson_fields hr) (Rendered.isJson_fields hr')
      (mt Rendered.hasSurrogate_fields_iff.1 proper) (mt Rendered.hasSurrogate_fields_iff.1 proper')
  rw [← r.hashedBytes_output metadata] at left
  rw [← r'.hashedBytes_output metadata'] at right
  refine ⟨bytes, bytes', left, ?_, right, ?_, same.trans Rendered.same_fields_iff⟩
  · rw [fingerprint_eq, left]
    rfl
  · rw [fingerprint_eq, right]
    rfl

/-- A lookup of a person, with its parameters in the given order. -/
def personOf (params : Bindings) : Rendered :=
  .cypher ⟨"MATCH (p:Person) WHERE p.age = $age AND p.tags = $tags RETURN p", params⟩

def ageFirst : Bindings :=
  [("age", .int 1), ("tags", .list [.bool true, .str "1"])]

def tagsFirst : Bindings :=
  [("tags", .list [.bool true, .str "1"]), ("age", .int 1)]

theorem isJson_ageFirst : (personOf ageFirst).params.IsJson fun _ => False := by
  refine .map (by simp [ageFirst]) (by simp [ageFirst]) ?_
  simpa [ageFirst] using
    ⟨Value.IsJson.int 1, Value.IsJson.list (by simpa using ⟨.bool true, .str "1"⟩)⟩

theorem isJson_tagsFirst : (personOf tagsFirst).params.IsJson fun _ => False := by
  refine .map (by simp [tagsFirst]) (by simp [tagsFirst]) ?_
  simpa [tagsFirst] using
    ⟨Value.IsJson.list (by simpa using ⟨.bool true, .str "1"⟩), Value.IsJson.int 1⟩

theorem not_hasSurrogate_personOf {params : Bindings}
    (both : params = ageFirst ∨ params = tagsFirst) : ¬(personOf params).HasSurrogate := by
  rcases both with rfl | rfl <;>
    simp [Rendered.HasSurrogate, personOf, Rendered.text, Rendered.params, ageFirst, tagsFirst]

theorem same_ageFirst_tagsFirst :
    (personOf ageFirst).params.SameUpToOrder (personOf tagsFirst).params := by
  refine .map (.swap _ _ _) fun e here f there key => ?_
  simp [ageFirst, tagsFirst] at here there
  rcases here with rfl | rfl <;> rcases there with rfl | rfl <;>
    first | exact .refl _ | simp at key

theorem bytes_eq_iff_swapped :
    Json.canonicalBytes (.bool true) ≠ Json.canonicalBytes (.int 1) ∧
      ∃ digest, fingerprint ((personOf ageFirst).output .null) = .ok digest ∧
        fingerprint ((personOf tagsFirst).output (.str "later")) = .ok digest := by
  constructor
  · obtain ⟨bytes, bytes', truth, one, same⟩ :=
      bytes_eq_iff.1 (.bool true) (.int 1) (.bool true) (.int 1) nofun nofun
    rw [truth, one]
    intro equal
    have absurd := same.1 (Except.ok.inj equal)
    cases absurd
  · obtain ⟨bytes, bytes', _, first, _, second, same⟩ := bytes_eq_iff.2 (personOf ageFirst)
      (personOf tagsFirst) .null (.str "later") isJson_ageFirst isJson_tagsFirst
      (not_hasSurrogate_personOf (.inl rfl)) (not_hasSurrogate_personOf (.inr rfl))
    rw [same.2 ⟨rfl, rfl, same_ageFirst_tagsFirst⟩] at first
    exact ⟨_, first, second⟩

end Document
end BoundQuery
