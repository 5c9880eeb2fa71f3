import BoundQuery.Document.Graph
import BoundQuery.Document.Relational
import BoundQuery.Proofs.Result

/-!
# Sections of documents

A section of a document comes down to a call for each of its elements or entries, or to one call for
the whole of it, and nothing else of the document matters for these calls. A document of a graph
query can be put together from what its sections list, where a section that lists nothing is left
out.

## Main definitions

* `Document.Graph.Sections` — what the sections of a document list that makes or changes nodes.

## Main statements

* `Document.Graph.Sections.building_toEntries` — the calls of such a document.
-/

namespace BoundQuery.Document

theorem field_cons (k : Str) (v : Value) (rest : Entries) (key : Str) :
    Value.field ((.str k, v) :: rest) key = if k = key then v else Value.field rest key := by
  have read : (Value.str k).isText key = (k == key) := rfl
  unfold Value.field Value.field?
  rw [List.find?_cons, read]
  by_cases same : k = key
  · simp [same]
  · simp [beq_false_of_ne same, same]

/-- What is read where a value may have been left out. -/
def given (v : Value) : Value :=
  if v.isTruthy then v else .null

/-- A document of the fields that say anything. -/
def givenFields (fields : List (Str × Value)) : Entries :=
  (fields.filter (·.2.isTruthy)).map fun field => (.str field.1, field.2)

theorem field_givenFields {fields : List (Str × Value)} (distinct : (fields.map Prod.fst).Nodup)
    (key : Str) :
    Value.field (givenFields fields) key = given ((fields.lookup key).getD .null) := by
  induction fields with
  | nil => rfl
  | cons field fields ih =>
    obtain ⟨k, v⟩ := field
    obtain ⟨other, distinct⟩ := List.nodup_cons.1 distinct
    have rest := ih distinct
    unfold givenFields at rest ⊢
    rw [List.filter_cons, List.lookup_cons]
    by_cases same : k = key
    · subst same
      have none : fields.lookup k = none := by
        refine List.lookup_eq_none_iff.2 fun field mem => bne_iff_ne.2 fun same => other ?_
        exact List.mem_map.2 ⟨field, mem, same.symm⟩
      rw [none] at rest
      by_cases there : v.isTruthy = true
      · simp [there, field_cons, given]
      · simp [there, rest, given]
    · by_cases there : v.isTruthy = true
      · simp [there, field_cons, same, beq_false_of_ne (Ne.symm same), rest]
      · simp [there, beq_false_of_ne (Ne.symm same), rest]

variable {entries entries' : Entries} {key : Str}

/-! ## Relational documents -/

namespace Relational

section
variable (same : Value.field entries key = Value.field entries' key)
include same

theorem callEach_congr (toCall : Value → Result Select.Call) :
    callEach entries key toCall = callEach entries' key toCall := by
  unfold callEach
  rw [same]

theorem callIfTruthy_congr (toCall : Value → Select.Call) :
    callIfTruthy entries key toCall = callIfTruthy entries' key toCall := by
  unfold callIfTruthy
  rw [same]

theorem callIfGiven_congr (toCall : Value → Select.Call) :
    callIfGiven entries key toCall = callIfGiven entries' key toCall := by
  unfold callIfGiven
  rw [same]

end
end Relational

/-! ## Graph documents -/

namespace Graph

open GraphQuery Building

section
variable (same : Value.field entries key = Value.field entries' key)
include same

theorem callEach_congr (toCall : Value → Building Call) :
    callEach entries key toCall = callEach entries' key toCall := by
  unfold callEach
  rw [same]

theorem callIfTruthy_congr (toCall : List Value → Call) :
    callIfTruthy entries key toCall = callIfTruthy entries' key toCall := by
  unfold callIfTruthy
  rw [same]

theorem callIfGiven_congr (toCall : Value → Call) :
    callIfGiven entries key toCall = callIfGiven entries' key toCall := by
  unfold callIfGiven
  rw [same]

theorem callEachEntry_congr (toCall : Value → Value → Result Call) :
    callEachEntry entries key toCall = callEachEntry entries' key toCall := by
  unfold callEachEntry
  rw [same]

end

theorem callEach_of_null (h : Value.field entries key = .null) (toCall : Value → Building Call) :
    callEach entries key toCall = pure () := by
  unfold callEach
  rw [h]
  rfl

theorem callIfGiven_of_null (h : Value.field entries key = .null) (toCall : Value → Call) :
    callIfGiven entries key toCall = pure () := by
  unfold callIfGiven
  rw [h]
  rfl

theorem callEachEntry_of_null (h : Value.field entries key = .null)
    (toCall : Value → Value → Result Call) : callEachEntry entries key toCall = pure () := by
  unfold callEachEntry
  rw [h]
  rfl

theorem callEach_of_list {xs : List Value} (h : Value.field entries key = given (.list xs))
    (toCall : Value → Building Call) :
    callEach entries key toCall = xs.forM fun v => toCall v >>= call := by
  unfold callEach
  rw [h]
  cases xs <;> rfl

theorem callEachEntry_of_map {fields : Entries} (h : Value.field entries key = given (.map fields))
    (toCall : Value → Value → Result Call) :
    callEachEntry entries key toCall =
      fields.forM fun entry => liftM (toCall entry.1 entry.2) >>= call := by
  unfold callEachEntry
  rw [h]
  cases fields <;> rfl

/-- One call for all elements, if there are any. -/
def callForAll (toCall : List Value → Call) : List Value → Building Unit
  | [] => pure ()
  | xs => call (toCall xs)

theorem callIfTruthy_of_list {xs : List Value} (h : Value.field entries key = given (.list xs))
    (toCall : List Value → Call) : callIfTruthy entries key toCall = callForAll toCall xs := by
  unfold callIfTruthy
  rw [h]
  cases xs <;> rfl

/-- What the sections of a document list. -/
structure Sections where
  matched : List Value := []
  items : List Value := []
  created : List Value := []
  assigned : Entries := []
  detached : List Value := []
  deleted : List Value := []
  returned : List Value := []

namespace Sections

def fields (s : Sections) : List (Str × Value) :=
  [("match", .list s.matched), ("with", .list s.items), ("create", .list s.created),
    ("set", .map s.assigned), ("detach_delete", .list s.detached), ("delete", .list s.deleted),
    ("return", .list s.returned)]

/-- The document of the sections that list anything. -/
def toEntries (s : Sections) : Entries :=
  givenFields s.fields

/-- The calls of a document, section by section. -/
theorem building_toEntries (s : Sections) :
    building s.toEntries = (do
      s.matched.forM fun spec => do call (.matching (← pattern spec))
      callForAll .withItems s.items
      s.created.forM fun spec => do call (.create (← pattern spec))
      s.assigned.forM fun entry => do call (← assignCall entry.1 entry.2)
      callForAll .detachDelete s.detached
      callForAll .delete s.deleted
      callForAll .returnItems s.returned) := by
  have read : ∀ key, Value.field s.toEntries key = given ((s.fields.lookup key).getD .null) :=
    field_givenFields (show (s.fields.map Prod.fst).Nodup by simp [fields])
  have unwind : Value.field s.toEntries "unwind" = .null := read "unwind"
  unfold building
  rw [callEach_of_list (read "match"), callEach_of_null (read "optional_match"), unwind,
    callEachEntry_of_null (read "where"), callIfTruthy_of_list (read "with"),
    callEach_of_list (read "create"), callEach_of_null (read "merge"),
    callEachEntry_of_map (read "set"), callIfTruthy_of_list (read "detach_delete"),
    callIfTruthy_of_list (read "delete"), callIfTruthy_of_list (read "return"),
    callEach_of_null (read "order_by"), callIfGiven_of_null (read "skip"),
    callIfGiven_of_null (read "limit")]
  simp [Value.isTruthy]

end Sections
end Graph
end BoundQuery.Document
