import BoundQuery.Proofs.Json.Tree

/-!
# Values that can be written

A value can be written as JSON when, at every depth, its keys have texts and can be sorted. What is
written of a record is known field by field.

## Main definitions

* `Value.IsWritable` — values that can be written with sorted keys.
* `Json.sortedFields` — the fields of a record as they are written.

## Main statements

* `Json.ofValue_record`, `Json.isWritable_record_iff` — a record of values that can be written.
* `Json.sortedFields_cons` — one more field.
* `Json.exists_unsorted` — what can be written with sorted keys can be written in its own order.
-/

namespace BoundQuery

/-- A value that has a tree with sorted keys. -/
def Value.IsWritable (v : Value) : Prop :=
  ∃ j, Json.ofValue true v = .ok j

theorem Value.IsData.isWritable {v : Value} (data : v.IsData) : v.IsWritable :=
  ⟨_, Json.ofValue_eq_tree data⟩

namespace Json

variable {fields : List (Str × Value)} {v : Value}

/-! ## Fields of records -/

/-- The tree of a value that can be written. -/
def written (v : Value) : Json :=
  (ofValue true v).toOption.getD .null

theorem ofValue_eq_written (h : v.IsWritable) : ofValue true v = .ok (written v) := by
  obtain ⟨j, tree⟩ := h
  rw [written, tree]
  rfl

/-- The fields of a record with the trees of their values, sorted by their keys. -/
def sortedFields (fields : List (Str × Value)) : List (Str × Json) :=
  (fields.map fun f => (f.1, written f.2)).insertionSort fun f g => f.1 ≤ g.1

theorem ofValue_record (each : ∀ f ∈ fields, f.2.IsWritable) :
    ofValue true (.record fields) = .ok (.obj (sortedFields fields)) := by
  have texts : ∀ e ∈ fields.map fun f => (Value.str f.1, f.2), ∃ s, e.1 = .str s := by
    intro e mem
    obtain ⟨f, _, rfl⟩ := List.mem_map.1 mem
    exact ⟨f.1, rfl⟩
  have trees : ∀ e ∈ fields.map fun f => (Value.str f.1, f.2),
      ofValue true e.2 = .ok (written e.2) := by
    intro e mem
    obtain ⟨f, inside, rfl⟩ := List.mem_map.1 mem
    exact ofValue_eq_written (each f inside)
  rw [Value.record, ofValue_fields texts trees, List.map_map]
  rfl

theorem mem_sortedFields {f : Str × Json} :
    f ∈ sortedFields fields ↔ ∃ g ∈ fields, (g.1, written g.2) = f := by
  rw [sortedFields, List.mem_insertionSort, List.mem_map]

theorem nodup_keys_sortedFields (distinct : (fields.map Prod.fst).Nodup) :
    ((sortedFields fields).map Prod.fst).Nodup := by
  refine (((List.perm_insertionSort _ _).map Prod.fst).nodup_iff).2 ?_
  rwa [List.map_map]

/-- One more field is written at its place among the others. -/
theorem sortedFields_cons (key : Str) (v : Value) (fields : List (Str × Value)) :
    sortedFields ((key, v) :: fields) =
      (sortedFields fields).orderedInsert (fun f g => f.1 ≤ g.1) (key, written v) := by
  rw [sortedFields, List.map_cons, List.insertionSort_cons]
  rfl

end Json

/-! ## What is written of a value's parts -/

namespace Json

theorem ofEntries_eq_ok {sorted : Bool} {entries : List (Value × Value)}
    {fields : List (Value × Json)} (h : ofEntries sorted entries = .ok fields) :
    fields.map Prod.fst = entries.map Prod.fst ∧
      ∀ e ∈ entries, ∃ j, ofValue sorted e.2 = .ok j := by
  induction entries generalizing fields with
  | nil =>
    cases h
    simp
  | cons e entries ih =>
    obtain ⟨j, first, h⟩ := Result.bind_eq_ok.1 h
    obtain ⟨rest, others, same⟩ := Result.bind_eq_ok.1 h
    cases same
    obtain ⟨keys, each⟩ := ih others
    exact ⟨by simp [keys], List.forall_mem_cons.2 ⟨⟨j, first⟩, each⟩⟩

/-- A record can be written when every field can be. -/
theorem isWritable_record_iff :
    (Value.record fields).IsWritable ↔ ∀ f ∈ fields, f.2.IsWritable := by
  refine ⟨fun ⟨j, h⟩ f mem => ?_, fun each => ⟨_, ofValue_record each⟩⟩
  obtain ⟨trees, made, _⟩ := Result.bind_eq_ok.1 h
  exact (ofEntries_eq_ok made).2 (.str f.1, f.2) (List.mem_map_of_mem mem)

end Json

namespace Value

variable {α : Type} {key : α → Value}

theorem perm_of_insertSorted {x : α} {xs ys : List α} (h : insertSorted key x xs = .ok ys) :
    ys.Perm (x :: xs) := by
  induction xs generalizing ys with
  | nil =>
    cases h
    exact .refl _
  | cons y xs ih =>
    obtain ⟨below, _, h⟩ := Result.bind_eq_ok.1 h
    cases below with
    | true =>
      obtain ⟨rest, inserted, same⟩ := Result.bind_eq_ok.1 h
      cases same
      exact ((ih inserted).cons y).trans (.swap x y xs)
    | false =>
      cases h
      exact .refl _

theorem perm_of_sortedBy {xs ys : List α} (h : sortedBy key xs = .ok ys) : ys.Perm xs := by
  induction xs generalizing ys with
  | nil =>
    cases h
    exact .refl _
  | cons x xs ih =>
    obtain ⟨rest, sorted, inserted⟩ := Result.bind_eq_ok.1 h
    exact (perm_of_insertSorted inserted).trans ((ih sorted).cons x)

end Value

namespace Json

theorem exists_keyed_iff {f : Value × Json} :
    (∃ field, keyed f = .ok field) ↔ ∃ s, keyText f.1 = .ok s := by
  constructor
  · rintro ⟨_, h⟩
    obtain ⟨s, text, _⟩ := Result.bind_eq_ok.1 h
    exact ⟨s, text⟩
  · rintro ⟨s, text⟩
    exact ⟨(s, f.2), Result.bind_eq_ok.2 ⟨s, text, rfl⟩⟩

/-- Whether keys have texts does not depend on what stands under them. -/
theorem exists_mapM_keyed_iff {fields : List (Value × Json)} :
    (∃ texts, fields.mapM keyed = .ok texts) ↔
      ∀ k ∈ fields.map Prod.fst, ∃ s, keyText k = .ok s := by
  rw [← Result.not_isRefused_iff, Result.isRefused_mapM_iff, not_exists]
  simp only [not_and, Result.not_isRefused_iff, exists_keyed_iff]
  exact (List.forall_mem_map (P := fun k => ∃ s, keyText k = .ok s)).symm

mutual

/-- What can be written with sorted keys can be written in the order of its own. -/
theorem exists_unsorted : ∀ {v : Value}, v.IsWritable → ∃ j, ofValue false v = .ok j
  | .list xs, ⟨_, h⟩ => by
    obtain ⟨trees, made, _⟩ := Result.map_eq_ok.1 h
    obtain ⟨trees', made'⟩ := exists_unsorted_list made
    exact ⟨.arr trees', by rw [ofValue, made']; rfl⟩
  | .tuple xs, ⟨_, h⟩ => by
    obtain ⟨trees, made, _⟩ := Result.map_eq_ok.1 h
    obtain ⟨trees', made'⟩ := exists_unsorted_list made
    exact ⟨.arr trees', by rw [ofValue, made']; rfl⟩
  | .map entries, ⟨_, h⟩ => by
    obtain ⟨fields, made, h⟩ := Result.bind_eq_ok.1 h
    obtain ⟨sorted, ordered, h⟩ := Result.bind_eq_ok.1 h
    obtain ⟨texts, named, _⟩ := Result.bind_eq_ok.1 h
    obtain ⟨fields', made'⟩ := exists_unsorted_entries made
    have keys : fields'.map Prod.fst = fields.map Prod.fst :=
      (ofEntries_eq_ok made').1.trans (ofEntries_eq_ok made).1.symm
    obtain ⟨texts', named'⟩ := exists_mapM_keyed_iff.2 fun k mem =>
      exists_mapM_keyed_iff.1 ⟨texts, named⟩ k
        (((Value.perm_of_sortedBy ordered).map Prod.fst).mem_iff.2 (keys ▸ mem))
    exact ⟨.obj texts', Result.bind_eq_ok.2 ⟨_, made', Result.bind_eq_ok.2 ⟨_, rfl,
      Result.bind_eq_ok.2 ⟨_, named', rfl⟩⟩⟩⟩
  | .null, _ | .bool _, _ | .int _, _ | .float _, _ | .text _, _ | .set _, _ | .comparator _ _, _
  | .pattern _ _ _, _ => ⟨_, rfl⟩

theorem exists_unsorted_list : ∀ {xs : List Value} {trees : List Json},
    ofList true xs = .ok trees → ∃ trees', ofList false xs = .ok trees'
  | [], _, _ => ⟨[], rfl⟩
  | x :: xs, _, h => by
    obtain ⟨j, first, h⟩ := Result.bind_eq_ok.1 h
    obtain ⟨rest, others, _⟩ := Result.bind_eq_ok.1 h
    obtain ⟨j', first'⟩ := exists_unsorted ⟨j, first⟩
    obtain ⟨rest', others'⟩ := exists_unsorted_list others
    exact ⟨j' :: rest', by rw [ofList, first', others']; rfl⟩

theorem exists_unsorted_entries : ∀ {entries : List (Value × Value)} {fields : List (Value × Json)},
    ofEntries true entries = .ok fields → ∃ fields', ofEntries false entries = .ok fields'
  | [], _, _ => ⟨[], rfl⟩
  | (key, value) :: rest, _, h => by
    obtain ⟨j, first, h⟩ := Result.bind_eq_ok.1 h
    obtain ⟨fields, others, _⟩ := Result.bind_eq_ok.1 h
    obtain ⟨j', first'⟩ := exists_unsorted ⟨j, first⟩
    obtain ⟨fields', others'⟩ := exists_unsorted_entries others
    exact ⟨(key, j') :: fields', by rw [ofEntries, first', others']; rfl⟩

end

end Json
end BoundQuery
