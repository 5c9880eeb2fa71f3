import BoundQuery.Proofs.Json.Tree
import BoundQuery.Proofs.Statement.Rows

/-!
# Values of trees

A tree that has been read stands for data: the keys of its mappings are texts, and a field that
comes again replaces the one before it.

## Main statements

* `Value.isData_putEntry` — an entry that is put into a mapping of data.
* `Json.isData_toValue` — the value of a tree is data.
-/

namespace BoundQuery

namespace Value

variable {k : Str} {v : Value} {e : Value × Value} {entries : List (Value × Value)}

theorem isData_map_nil : (map []).IsData :=
  .map (by simp) .nil (by simp)

theorem isData_map_cons :
    (map (e :: entries)).IsData ↔
      (∃ s, e.1 = .str s) ∧ e.1 ∉ entries.map Prod.fst ∧ e.2.IsData ∧ (map entries).IsData := by
  constructor
  · rintro (_ | _ | _ | _ | _ | _ | ⟨keys, distinct, each⟩)
    obtain ⟨absent, distinct⟩ := List.nodup_cons.1 distinct
    obtain ⟨first, keys⟩ := List.forall_mem_cons.1 keys
    obtain ⟨value, each⟩ := List.forall_mem_cons.1 each
    exact ⟨first, absent, value, .map keys distinct each⟩
  · rintro ⟨first, absent, value, rest⟩
    cases rest with
    | map keys distinct each =>
      exact .map (List.forall_mem_cons.2 ⟨first, keys⟩) (List.nodup_cons.2 ⟨absent, distinct⟩)
        (List.forall_mem_cons.2 ⟨value, each⟩)

theorem keys_putEntry_subset (key value : Value) (entries : List (Value × Value)) :
    ∀ k ∈ (putEntry key value entries).map Prod.fst, k = key ∨ k ∈ entries.map Prod.fst := by
  induction entries with
  | nil => simp [putEntry]
  | cons e rest ih =>
    obtain ⟨k', w⟩ := e
    intro k mem
    rw [putEntry] at mem
    split at mem
    · exact .inr mem
    · rcases List.mem_cons.1 mem with rfl | later
      · exact .inr List.mem_cons_self
      · exact (ih k later).imp_right (List.mem_cons_of_mem k')

/-- Keys that are texts stay apart when an entry is put into a mapping. -/
theorem isData_putEntry (k : Str) (value : v.IsData) (data : (map entries).IsData) :
    (map (putEntry (.str k) v entries)).IsData := by
  induction entries with
  | nil => exact isData_map_cons.2 ⟨⟨k, rfl⟩, by simp, value, isData_map_nil⟩
  | cons e rest ih =>
    obtain ⟨k', w⟩ := e
    obtain ⟨⟨s, rfl⟩, absent, old, others⟩ := isData_map_cons.1 data
    rw [putEntry]
    split
    · exact isData_map_cons.2 ⟨⟨s, rfl⟩, absent, value, others⟩
    · next other =>
      refine isData_map_cons.2 ⟨⟨s, rfl⟩, fun mem => ?_, old, ih others⟩
      rcases keys_putEntry_subset _ _ _ _ mem with same | inside
      · cases same
        exact other (by rw [Row.sameKey_text]; simp [isText, Text.spelling])
      · exact absent inside

end Value

namespace Json

mutual

theorem isData_toValue : ∀ j : Json, (toValue j).IsData
  | .null => .null
  | .bool b => .bool b
  | .int i => .int i
  | .float _ => .float trivial
  | .str s => .str s
  | .arr xs => .list (isData_toValues xs)
  | .obj fields => isData_toEntries fields Value.isData_map_nil

theorem isData_toValues : ∀ xs : List Json, ∀ v ∈ toValues xs, v.IsData
  | [] => by simp [toValues]
  | x :: xs => List.forall_mem_cons.2 ⟨isData_toValue x, isData_toValues xs⟩

theorem isData_toEntries : ∀ (fields : List (Str × Json)) {made : List (Value × Value)},
    (Value.map made).IsData → (Value.map (toEntries made fields)).IsData
  | [], _, data => data
  | (key, x) :: rest, _, data =>
    isData_toEntries rest (Value.isData_putEntry key (isData_toValue x) data)

end

end Json
end BoundQuery
