import BoundQuery.Proofs.Json.Surrogate

/-!
# Canonical texts

Two values have the same tree when they differ only in the order in which the keys of mappings were
written. Together with reading back what has been written, their canonical texts tell values apart
exactly up to that order.

## Main definitions

* `Value.SameUpToOrder` — values that are equal up to the order of keys.

## Main statements

* `Json.tree_eq_iff` — the trees of two values are equal when the values are, up to order.
* `Json.exists_canonicalBytes` — so are their canonical bytes, when all numbers are integers and no
  text has a surrogate.
-/

namespace BoundQuery

/-- Equal up to the order of the keys of mappings, at every depth. Values of different kinds are
never the same: neither a truth value and a number, nor a number and the text that spells it. -/
inductive Value.SameUpToOrder : Value → Value → Prop
  | refl (v : Value) : SameUpToOrder v v
  | list {xs ys : List Value} (length : xs.length = ys.length)
    (each : ∀ p ∈ xs.zip ys, SameUpToOrder p.1 p.2) : SameUpToOrder (.list xs) (.list ys)
  | map {entries entries' : List (Value × Value)}
    (keys : (entries.map Prod.fst).Perm (entries'.map Prod.fst))
    (each : ∀ e ∈ entries, ∀ f ∈ entries', e.1 = f.1 → SameUpToOrder e.2 f.2) :
    SameUpToOrder (.map entries) (.map entries')

/-- Mappings are the same when they have the same keys, and at each of them the same value. -/
theorem Value.same_map_iff {entries entries' : List (Value × Value)}
    (distinct : (entries.map Prod.fst).Nodup) :
    (Value.map entries).SameUpToOrder (.map entries') ↔
      (entries.map Prod.fst).Perm (entries'.map Prod.fst) ∧
        ∀ e ∈ entries, ∀ f ∈ entries', e.1 = f.1 → e.2.SameUpToOrder f.2 := by
  constructor
  · intro same
    cases same with
    | refl =>
      refine ⟨.refl _, fun e here f there key => ?_⟩
      rw [List.inj_on_of_nodup_map distinct here there key]
      exact .refl _
    | map keys each => exact ⟨keys, each⟩
  · rintro ⟨keys, each⟩
    exact .map keys each

namespace Json

variable {number : Binary64 → Prop}

/-! ## Fields in the order of their keys -/

instance : Std.Total (LE.le : Str → Str → Prop) := ⟨Str.le_total⟩

instance : IsTrans Str LE.le := ⟨fun _ _ _ => Str.le_trans⟩

theorem names_treeField {entries : List (Value × Value)}
    (keys : ∀ e ∈ entries, ∃ s, e.1 = .str s) :
    ((entries.map treeField).map Prod.fst).map Value.str = entries.map Prod.fst := by
  rw [List.map_map, List.map_map]
  refine List.map_congr_left fun e mem => ?_
  obtain ⟨s, same⟩ := keys e mem
  simp [treeField, same, Value.keyName, Text.spelling]

theorem nodup_names {entries : List (Value × Value)} (keys : ∀ e ∈ entries, ∃ s, e.1 = .str s)
    (distinct : (entries.map Prod.fst).Nodup) : ((entries.map treeField).map Prod.fst).Nodup := by
  rw [← names_treeField keys] at distinct
  exact distinct.of_map _

/-- Fields with distinct names have one order. -/
theorem sorted_eq_of_perm {fields fields' : List (Str × Json)}
    (distinct : (fields.map Prod.fst).Nodup) (perm : fields.Perm fields') :
    (fields.insertionSort fun f g => f.1 ≤ g.1) = fields'.insertionSort fun f g => f.1 ≤ g.1 := by
  have sorted : (fields.insertionSort fun f g => f.1 ≤ g.1).Perm
      (fields'.insertionSort fun f g => f.1 ≤ g.1) :=
    (List.perm_insertionSort _ _).trans (perm.trans (List.perm_insertionSort _ _).symm)
  refine sorted.eq_of_pairwise (fun f g mem mem' le ge => ?_)
    (List.pairwise_insertionSort _ _) (List.pairwise_insertionSort _ _)
  have here := (List.mem_insertionSort _).1 mem
  have there := perm.mem_iff.2 ((List.mem_insertionSort _).1 mem')
  exact List.inj_on_of_nodup_map distinct here there (Str.le_antisymm le ge)

theorem key_eq_of_name_eq {e f : Value × Value} (key : ∃ s, e.1 = .str s)
    (key' : ∃ s, f.1 = .str s) (same : e.1.keyName = f.1.keyName) : e.1 = f.1 := by
  obtain ⟨s, hs⟩ := key
  obtain ⟨t, ht⟩ := key'
  rw [hs, ht] at same ⊢
  exact congrArg Value.str same

/-! ## Trees up to order -/

theorem tree_eq_of_same {a b : Value} (same : a.SameUpToOrder b) (ha : a.IsJson number)
    (hb : b.IsJson number) : tree a = tree b := by
  induction same with
  | refl v => rfl
  | @list xs ys length _ ih =>
    cases ha with | list eachLeft =>
    cases hb with | list eachRight =>
    have related : List.Forall₂ (fun x y => tree x = tree y) xs ys := by
      refine List.forall₂_iff_zip.2 ⟨length, fun {x y} mem => ?_⟩
      obtain ⟨left, right⟩ := List.of_mem_zip mem
      exact ih (x, y) mem (eachLeft x left) (eachRight y right)
    have lists : xs.map tree = ys.map tree := by
      rw [← List.forall₂_eq_eq_eq, List.forall₂_map_left_iff, List.forall₂_map_right_iff]
      exact related
    rw [tree, tree, treeList_eq, treeList_eq, lists]
  | @map entries entries' keys _ ih =>
    cases ha with | map named distinct eachLeft =>
    cases hb with | map named' _ eachRight =>
    have names := nodup_names named distinct
    have subset : entries.map treeField ⊆ entries'.map treeField := by
      intro field mem
      obtain ⟨e, here, rfl⟩ := List.mem_map.1 mem
      obtain ⟨f, there, key⟩ := List.mem_map.1 (keys.mem_iff.1 (List.mem_map_of_mem here))
      have value := ih e here f there key.symm (eachLeft e here) (eachRight f there)
      refine List.mem_map.2 ⟨f, there, ?_⟩
      rw [treeField, treeField, key, value]
    have length : (entries'.map treeField).length ≤ (entries.map treeField).length := by
      simpa using keys.length_eq.ge
    have perm := (List.subperm_of_subset names.of_map subset).perm_of_length_le length
    rw [tree, tree, treeEntries_eq, treeEntries_eq, sorted_eq_of_perm names perm]

theorem same_of_tree_eq {a b : Value} (ha : a.IsJson number) (hb : b.IsJson number)
    (same : tree a = tree b) : a.SameUpToOrder b := by
  induction ha generalizing b with
  | null | bool _ | int _ | float _ | str _ =>
    cases hb <;> grind [tree, Text.spelling, Value.SameUpToOrder.refl]
  | @list xs _ ih =>
    cases hb with
    | @list ys eachRight =>
      have lists : xs.map tree = ys.map tree := by
        simpa only [tree, treeList_eq, Json.arr.injEq] using same
      have related : List.Forall₂ (fun x y => tree x = tree y) xs ys := by
        rwa [← List.forall₂_eq_eq_eq, List.forall₂_map_left_iff,
          List.forall₂_map_right_iff] at lists
      obtain ⟨length, pairs⟩ := List.forall₂_iff_zip.1 related
      refine .list length fun p mem => ?_
      obtain ⟨left, right⟩ := List.of_mem_zip mem
      exact ih p.1 left (eachRight p.2 right) (pairs mem)
    | _ => simp [tree] at same
  | @map entries named distinct _ ih =>
    cases hb with
    | @map entries' named' distinct' eachRight =>
      have perm : (entries.map treeField).Perm (entries'.map treeField) := by
        simp only [tree, treeEntries_eq, Json.obj.injEq] at same
        have sorted := List.perm_insertionSort (fun f g : Str × Json => f.1 ≤ g.1)
          (entries'.map treeField)
        rw [← same] at sorted
        exact (List.perm_insertionSort _ _).symm.trans sorted
      have keys := (perm.map Prod.fst).map Value.str
      rw [names_treeField named, names_treeField named'] at keys
      refine .map keys fun e here f there key => ?_
      obtain ⟨g, inside, field⟩ := List.mem_map.1 (perm.mem_iff.1 (List.mem_map_of_mem here))
      obtain ⟨name, value⟩ := Prod.mk.inj field
      have found := key_eq_of_name_eq (named' g inside) (named e here) name
      obtain rfl := List.inj_on_of_nodup_map distinct' inside there (found.trans key)
      exact ih e here (eachRight g inside) value.symm
    | _ => simp [tree] at same

/-- The trees of two values are equal when the values are, up to order. -/
theorem tree_eq_iff {a b : Value} (ha : a.IsJson number) (hb : b.IsJson number) :
    tree a = tree b ↔ a.SameUpToOrder b :=
  ⟨same_of_tree_eq ha hb, fun same => tree_eq_of_same same ha hb⟩

/-! ## Bytes -/

theorem isWhole_tree {v : Value} (h : v.IsJson fun _ => False) : (tree v).IsWhole := by
  induction h with
  | null => exact .null
  | bool b => exact .bool b
  | int i => exact .int i
  | float h => exact h.elim
  | str s => exact .str _
  | list _ ih =>
    rw [tree, treeList_eq]
    exact .arr fun x mem => by
      obtain ⟨y, inside, rfl⟩ := List.mem_map.1 mem
      exact ih y inside
  | map _ _ _ ih =>
    rw [tree, treeEntries_eq]
    refine .obj fun f mem => ?_
    obtain ⟨e, inside, rfl⟩ := List.mem_map.1 ((List.mem_insertionSort _).1 mem)
    exact ih e inside

/-- Both values have canonical bytes, and these are equal when the values are, up to order. -/
theorem exists_canonicalBytes {a b : Value} (ha : a.IsJson fun _ => False)
    (hb : b.IsJson fun _ => False) (properLeft : ¬a.HasSurrogate) (properRight : ¬b.HasSurrogate) :
    ∃ bytes bytes', canonicalBytes a = .ok bytes ∧ canonicalBytes b = .ok bytes' ∧
      (bytes = bytes' ↔ a.SameUpToOrder b) := by
  obtain ⟨s, left, bytes⟩ := canonicalBytes_eq ha properLeft
  obtain ⟨t, right, bytes'⟩ := canonicalBytes_eq hb properRight
  refine ⟨_, _, bytes, bytes', ?_⟩
  rw [← tree_eq_iff ha hb]
  constructor
  · intro same
    refine text_injective (isWhole_tree ha) (isWhole_tree hb) ?_
    rw [left, right, String.toByteArray_inj.1 same]
  · intro same
    rw [same, right, Str.of_inj] at left
    rw [left]

end Json
end BoundQuery
