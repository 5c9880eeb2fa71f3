import BoundQuery.Json.Basic
import BoundQuery.Proofs.Json.Reading
import BoundQuery.Proofs.Result
import Mathlib.Data.List.Sort

/-!
# Trees of values

Values that JSON has a form for have a tree: their keys are texts, so the fields of a mapping can be
sorted and nothing is turned down on the way.

## Main definitions

* `Value.IsJson`, `Value.IsData` — values that JSON has a form for.
* `Json.tree` — the tree of such a value, with the fields of mappings sorted by their keys.

## Main statements

* `Json.ofValue_eq_tree` — a value that JSON has a form for is not turned down.
-/

namespace BoundQuery

/-- A value that JSON has a form for: each key is a text and stands there once. `number` says which
numbers there may be besides the integers. -/
inductive Value.IsJson (number : Binary64 → Prop) : Value → Prop
  | null : IsJson number .null
  | bool (b : Bool) : IsJson number (.bool b)
  | int (i : Int) : IsJson number (.int i)
  | float {x : Binary64} (h : number x) : IsJson number (.float x)
  | str (s : Str) : IsJson number (.str s)
  | list {xs : List Value} (each : ∀ x ∈ xs, IsJson number x) : IsJson number (.list xs)
  | map {entries : List (Value × Value)} (keys : ∀ e ∈ entries, ∃ s, e.1 = .str s)
    (distinct : (entries.map Prod.fst).Nodup) (each : ∀ e ∈ entries, IsJson number e.2) :
    IsJson number (.map entries)

/-- What a document can hold, whatever its numbers are. -/
abbrev Value.IsData (v : Value) : Prop :=
  v.IsJson fun _ => True

/-- A record has texts as keys. -/
theorem Value.IsJson.record {number : Binary64 → Prop} {fields : List (Str × Value)}
    (distinct : (fields.map Prod.fst).Nodup) (each : ∀ f ∈ fields, f.2.IsJson number) :
    (Value.record fields).IsJson number := by
  refine .map ?_ ?_ ?_
  · intro e mem
    obtain ⟨f, _, rfl⟩ := List.mem_map.1 mem
    exact ⟨f.1, rfl⟩
  · have keys := distinct.map (f := Value.str) fun _ _ same => by simpa using same
    rwa [List.map_map] at keys ⊢
  · intro e mem
    obtain ⟨f, inside, rfl⟩ := List.mem_map.1 mem
    exact each f inside

/-- The characters of a key. -/
def Value.keyName : Value → Str
  | .text t => t.spelling
  | _ => ""

namespace Value

section
variable {α : Type} {key : α → Value}

theorem insertSorted_eq {x : α} {xs : List α} (first : ∃ t, key x = .text t)
    (named : ∀ y ∈ xs, ∃ t, key y = .text t) :
    insertSorted key x xs =
      .ok (xs.orderedInsert (fun a b => (key a).keyName ≤ (key b).keyName) x) := by
  obtain ⟨t, keyed⟩ := first
  induction xs with
  | nil => rfl
  | cons y ys ih =>
    obtain ⟨u, other⟩ := named y List.mem_cons_self
    have rest := ih fun z mem => named z (List.mem_cons_of_mem y mem)
    have below : less (key y) (key x) = .ok (decide (u.spelling < t.spelling)) := by
      rw [keyed, other, less]
    have names : (key x).keyName = t.spelling ∧ (key y).keyName = u.spelling := by
      rw [keyed, other]
      exact ⟨rfl, rfl⟩
    rw [insertSorted, below, List.orderedInsert_cons, names.1, names.2]
    by_cases lt : u.spelling < t.spelling
    · rw [decide_eq_true lt, if_neg (Str.not_le.2 lt), rest]
      rfl
    · rw [decide_eq_false lt, if_pos (Str.not_lt.1 lt)]
      rfl

theorem sortedBy_eq {xs : List α} (named : ∀ x ∈ xs, ∃ t, key x = .text t) :
    sortedBy key xs =
      .ok (xs.insertionSort fun a b => (key a).keyName ≤ (key b).keyName) := by
  induction xs with
  | nil => rfl
  | cons x xs ih =>
    have rest := ih fun y mem => named y (List.mem_cons_of_mem x mem)
    rw [sortedBy, rest, List.insertionSort_cons]
    refine insertSorted_eq (named x List.mem_cons_self) fun y mem => ?_
    exact named y (List.mem_cons_of_mem x ((List.mem_insertionSort _).1 mem))

end

end Value

namespace Json

mutual

/-- The tree of a value that JSON has a form for, its fields sorted by their keys. -/
def tree : Value → Json
  | .bool b => .bool b
  | .int i => .int i
  | .float x => .float x
  | .text t => .str t.spelling
  | .list xs => .arr (treeList xs)
  | .map entries => .obj ((treeEntries entries).insertionSort fun f g => f.1 ≤ g.1)
  | _ => .null

def treeList : List Value → List Json
  | [] => []
  | x :: xs => tree x :: treeList xs

def treeEntries : List (Value × Value) → List (Str × Json)
  | [] => []
  | (key, value) :: rest => (key.keyName, tree value) :: treeEntries rest

end

theorem treeList_eq (xs : List Value) : treeList xs = xs.map tree := by
  induction xs with
  | nil => rfl
  | cons x xs ih => rw [treeList, ih, List.map_cons]

/-- A field of the tree of a mapping. -/
def treeField (e : Value × Value) : Str × Json :=
  (e.1.keyName, tree e.2)

theorem treeEntries_eq (entries : List (Value × Value)) :
    treeEntries entries = entries.map treeField := by
  induction entries with
  | nil => rfl
  | cons e entries ih => rw [treeEntries, ih, List.map_cons, treeField]

theorem ofList_eq {sorted : Bool} {xs : List Value}
    (each : ∀ x ∈ xs, ofValue sorted x = .ok (tree x)) : ofList sorted xs = .ok (treeList xs) := by
  induction xs with
  | nil => rfl
  | cons x xs ih =>
    rw [ofList, each x List.mem_cons_self, ih fun y mem => each y (List.mem_cons_of_mem x mem)]
    rfl

theorem ofEntries_eq {sorted : Bool} {t : Value → Json} {entries : List (Value × Value)}
    (each : ∀ e ∈ entries, ofValue sorted e.2 = .ok (t e.2)) :
    ofEntries sorted entries = .ok (entries.map fun e => (e.1, t e.2)) := by
  induction entries with
  | nil => rfl
  | cons e entries ih =>
    rw [ofEntries, each e List.mem_cons_self,
      ih fun f mem => each f (List.mem_cons_of_mem e mem)]
    rfl

/-- A mapping whose keys are texts, and whose values have trees, has the tree of its fields. -/
theorem ofValue_fields {t : Value → Json} {entries : List (Value × Value)}
    (keys : ∀ e ∈ entries, ∃ s, e.1 = .str s)
    (each : ∀ e ∈ entries, ofValue true e.2 = .ok (t e.2)) :
    ofValue true (.map entries) =
      .ok (.obj ((entries.map fun e => (e.1.keyName, t e.2)).insertionSort fun f g =>
        f.1 ≤ g.1)) := by
  have named : ∀ f ∈ entries.map fun e => (e.1, t e.2), ∃ t, f.1 = .text t := by
    intro f mem
    obtain ⟨e, inside, rfl⟩ := List.mem_map.1 mem
    obtain ⟨s, same⟩ := keys e inside
    exact ⟨.plain s, same⟩
  have texts : ∀ f ∈ (entries.map fun e => (e.1, t e.2)).insertionSort
      fun f g => f.1.keyName ≤ g.1.keyName, keyed f = .ok (f.1.keyName, f.2) := by
    intro f mem
    obtain ⟨t, same⟩ := named f ((List.mem_insertionSort _).1 mem)
    rw [keyed, same]
    rfl
  have order : ((entries.map fun e => (e.1, t e.2)).insertionSort
      fun f g => f.1.keyName ≤ g.1.keyName).map (fun f => (f.1.keyName, f.2)) =
      (entries.map fun e => (e.1.keyName, t e.2)).insertionSort fun f g => f.1 ≤ g.1 := by
    rw [List.map_insertionSort _ (fun f g : Str × Json => f.1 ≤ g.1) _ _
      fun _ _ _ _ => Iff.rfl, List.map_map]
    rfl
  rw [ofValue, ofEntries_eq each]
  change (Value.sortedBy Prod.fst _ >>= fun sorted => sorted.mapM keyed >>= _) = _
  rw [Value.sortedBy_eq named]
  change (List.mapM keyed _ >>= _) = _
  rw [Result.mapM_of_ok texts, order]
  rfl

theorem ofValue_map {entries : List (Value × Value)} (keys : ∀ e ∈ entries, ∃ s, e.1 = .str s)
    (each : ∀ e ∈ entries, ofValue true e.2 = .ok (tree e.2)) :
    ofValue true (.map entries) = .ok (tree (.map entries)) := by
  rw [ofValue_fields keys each, tree, treeEntries_eq]
  rfl

theorem ofValue_list {xs : List Value} (each : ∀ x ∈ xs, ofValue true x = .ok (tree x)) :
    ofValue true (.list xs) = .ok (tree (.list xs)) := by
  rw [ofValue, ofList_eq each]
  rfl

/-- A value that JSON has a form for is not turned down. -/
theorem ofValue_eq_tree {number : Binary64 → Prop} {v : Value} (h : v.IsJson number) :
    ofValue true v = .ok (tree v) := by
  induction h with
  | null | bool _ | int _ | float _ | str _ => rfl
  | list _ ih => exact ofValue_list ih
  | map keys _ _ ih => exact ofValue_map keys ih

end Json
end BoundQuery
