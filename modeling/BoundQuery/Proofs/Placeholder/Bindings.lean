import BoundQuery.Parameters.Named
import Mathlib.Data.List.Nodup
import Mathlib.Data.Set.Function

/-!
# Named values

Putting entries into a list of named values keeps its names apart, and merging does so entry by
entry. Merging what has been merged before is merging the entries themselves, so that the values of
a piece can be gathered in any number of steps.

## Main statements

* `Bindings.merge_assoc` — values can be gathered in steps.
* `Bindings.rename_merge` — renaming commutes with merging when it keeps the names apart.
-/

namespace BoundQuery.Bindings

variable {a b c : Bindings} {m n : Str} {u v w : Value}

def keys (b : Bindings) : List Str :=
  b.map Prod.fst

@[simp] theorem keys_nil : keys [] = [] := rfl

@[simp] theorem keys_cons (entry : Str × Value) (b : Bindings) :
    keys (entry :: b) = entry.1 :: keys b := rfl

/-! ## One entry -/

theorem put_cons_self : put n v ((n, w) :: b) = (n, v) :: b := by
  simp [put]

theorem put_cons_of_ne (h : m ≠ n) : put n v ((m, w) :: b) = (m, w) :: put n v b := by
  simp [put, h]

theorem mem_keys_put : m ∈ keys (put n v b) ↔ m = n ∨ m ∈ keys b := by
  induction b with
  | nil => simp [put]
  | cons entry b ih =>
    obtain ⟨k, w⟩ := entry
    by_cases same : k = n
    · subst same
      simp [put_cons_self]
    · rw [put_cons_of_ne same, keys_cons, List.mem_cons, ih, keys_cons, List.mem_cons]
      exact or_left_comm

theorem nodup_keys_put (h : (keys b).Nodup) : (keys (put n v b)).Nodup := by
  induction b with
  | nil => simp [put]
  | cons entry b ih =>
    obtain ⟨k, w⟩ := entry
    rw [keys_cons, List.nodup_cons] at h
    by_cases same : k = n
    · subst same
      rw [put_cons_self, keys_cons, List.nodup_cons]
      exact h
    · rw [put_cons_of_ne same, keys_cons, List.nodup_cons, mem_keys_put]
      exact ⟨fun mem => mem.elim same h.1, ih h.2⟩

theorem mem_of_mem_put (h : (m, w) ∈ put n v b) : (m, w) = (n, v) ∨ (m, w) ∈ b := by
  induction b with
  | nil => exact Or.inl (List.mem_singleton.1 h)
  | cons entry b ih =>
    obtain ⟨k, u⟩ := entry
    by_cases same : k = n
    · subst same
      rw [put_cons_self, List.mem_cons] at h
      exact h.imp_right (List.mem_cons_of_mem _)
    · rw [put_cons_of_ne same, List.mem_cons] at h
      rcases h with here | later
      · exact Or.inr (here ▸ List.mem_cons_self)
      · exact (ih later).imp_right (List.mem_cons_of_mem _)

theorem put_put_self : put n v (put n w b) = put n v b := by
  induction b with
  | nil => simp [put]
  | cons entry b ih =>
    obtain ⟨k, u⟩ := entry
    by_cases same : k = n
    · subst same
      simp [put_cons_self]
    · simp [put_cons_of_ne same, ih]

theorem put_of_notMem (absent : n ∉ keys b) : put n v b = b ++ [(n, v)] := by
  induction b with
  | nil => rfl
  | cons entry b ih =>
    obtain ⟨k, w⟩ := entry
    rw [keys_cons, List.mem_cons, not_or] at absent
    rw [put_cons_of_ne (Ne.symm absent.1), ih absent.2, List.cons_append]

/-- A name that is there already keeps its place, whatever is put in before. -/
theorem put_put_of_mem (mem : n ∈ keys b) (apart : n ≠ m) :
    put n v (put m u b) = put m u (put n v b) := by
  induction b with
  | nil => cases mem
  | cons entry b ih =>
    obtain ⟨k, w⟩ := entry
    by_cases first : k = n
    · subst first
      rw [put_cons_of_ne apart, put_cons_self, put_cons_self, put_cons_of_ne apart]
    · have later : n ∈ keys b := by simpa [Ne.symm first] using mem
      by_cases second : k = m
      · subst second
        rw [put_cons_self, put_cons_of_ne first, put_cons_of_ne first, put_cons_self]
      · rw [put_cons_of_ne second, put_cons_of_ne first, put_cons_of_ne first,
          put_cons_of_ne second, ih later]

/-! ## Many entries -/

@[simp] theorem merge_nil : a.merge [] = a := rfl

theorem merge_cons : a.merge ((n, v) :: b) = (put n v a).merge b := rfl

theorem merge_append : a.merge (b ++ c) = (a.merge b).merge c := by
  simp [merge]

theorem mem_keys_merge : n ∈ keys (a.merge b) ↔ n ∈ keys a ∨ n ∈ keys b := by
  induction b generalizing a with
  | nil => simp
  | cons entry b ih =>
    obtain ⟨k, w⟩ := entry
    rw [merge_cons, ih, mem_keys_put, keys_cons, List.mem_cons, or_assoc, or_left_comm]

theorem nodup_keys_merge (h : (keys a).Nodup) : (keys (a.merge b)).Nodup := by
  induction b generalizing a with
  | nil => exact h
  | cons entry b ih => exact ih (nodup_keys_put h)

theorem mem_of_mem_merge (h : (n, v) ∈ a.merge b) : (n, v) ∈ a ∨ (n, v) ∈ b := by
  induction b generalizing a with
  | nil => exact Or.inl h
  | cons entry b ih =>
    obtain ⟨k, w⟩ := entry
    rcases ih h with inPut | inRest
    · rcases mem_of_mem_put inPut with here | before
      · exact Or.inr (here ▸ List.mem_cons_self)
      · exact Or.inl before
    · exact Or.inr (List.mem_cons_of_mem _ inRest)

theorem put_merge_of_notMem (mem : n ∈ keys a) (absent : n ∉ keys b) :
    put n v (a.merge b) = (put n v a).merge b := by
  induction b generalizing a with
  | nil => rfl
  | cons entry b ih =>
    obtain ⟨k, w⟩ := entry
    rw [keys_cons, List.mem_cons, not_or] at absent
    have there : n ∈ keys (put k w a) := mem_keys_put.2 (Or.inr mem)
    rw [merge_cons, ih there absent.2, put_put_of_mem mem absent.1, merge_cons]

theorem merge_put (h : (keys b).Nodup) : a.merge (put n v b) = put n v (a.merge b) := by
  induction b generalizing a with
  | nil => rfl
  | cons entry b ih =>
    obtain ⟨k, w⟩ := entry
    rw [keys_cons, List.nodup_cons] at h
    by_cases same : k = n
    · subst same
      have there : k ∈ keys (put k w a) := mem_keys_put.2 (Or.inl rfl)
      rw [put_cons_self, merge_cons, merge_cons, put_merge_of_notMem there h.1, put_put_self]
    · rw [put_cons_of_ne same, merge_cons, merge_cons, ih h.2]

/-- Merging in two steps is merging in one. -/
theorem merge_assoc (h : (keys b).Nodup) : a.merge (b.merge c) = (a.merge b).merge c := by
  induction c generalizing b with
  | nil => rfl
  | cons entry c ih =>
    obtain ⟨k, w⟩ := entry
    rw [merge_cons, ih (nodup_keys_put h), merge_put h, merge_cons]

/-- Entries that have been gathered in a list of their own are merged as they are. -/
theorem merge_gathered : a.merge (merge [] b) = a.merge b :=
  merge_assoc List.nodup_nil

/-- Entries under new names that all differ are put after those that are there. -/
theorem merge_of_disjoint (distinct : (keys b).Nodup) (absent : ∀ n ∈ keys b, n ∉ keys a) :
    a.merge b = a ++ b := by
  induction b generalizing a with
  | nil => simp
  | cons entry b ih =>
    obtain ⟨n, v⟩ := entry
    rw [keys_cons, List.nodup_cons] at distinct
    have here : n ∉ keys a := absent n (by simp)
    have others : ∀ m ∈ keys b, m ∉ keys (a ++ [(n, v)]) := by
      intro m mem inside
      rw [keys, List.map_append, List.mem_append] at inside
      rcases inside with before | same
      · exact absent m (by simp [mem]) before
      · exact distinct.1 (List.mem_singleton.1 same ▸ mem)
    rw [merge_cons, put_of_notMem here, ih distinct.2 others, List.append_assoc,
      List.singleton_append]

/-- Entries whose names all differ are put one after the other. -/
theorem merge_eq_append (h : (keys (a ++ b)).Nodup) : a.merge b = a ++ b := by
  rw [keys, List.map_append, List.nodup_append] at h
  exact merge_of_disjoint h.2.1 fun n new old => h.2.2 n old n new rfl

/-! ## Other names -/

/-- The same values under other names. -/
def rename (f : Str → Str) (b : Bindings) : Bindings :=
  b.map fun entry => (f entry.1, entry.2)

theorem keys_rename (f : Str → Str) : keys (rename f b) = (keys b).map f := by
  simp [rename, keys]

theorem rename_put {f : Str → Str} (apart : ∀ k ∈ keys b, f k = f n → k = n) :
    rename f (put n v b) = put (f n) v (rename f b) := by
  induction b with
  | nil => rfl
  | cons entry b ih =>
    obtain ⟨k, w⟩ := entry
    have rest := ih fun k mem => apart k (List.mem_cons_of_mem _ mem)
    by_cases same : k = n
    · subst same
      rw [put_cons_self]
      exact put_cons_self.symm
    · have other : f k ≠ f n := fun eq => same (apart k List.mem_cons_self eq)
      rw [put_cons_of_ne same]
      exact (congrArg ((f k, w) :: ·) rest).trans (put_cons_of_ne other).symm

/-- A name that is kept apart from the others is found under its new name. -/
theorem lookup_rename {f : Str → Str} (apart : Set.InjOn f {n | n ∈ keys b})
    (mem : n ∈ keys b) : (rename f b).lookup (f n) = b.lookup n := by
  induction b with
  | nil => cases mem
  | cons entry b ih =>
    obtain ⟨k, w⟩ := entry
    by_cases same : n = k
    · subst same
      simp [rename]
    · have later : n ∈ keys b := by simpa [same] using mem
      have other : f n ≠ f k := fun eq => same (apart mem List.mem_cons_self eq)
      have rest := ih (fun m inRest m' inRest' => apart (List.mem_cons_of_mem _ inRest)
        (List.mem_cons_of_mem _ inRest')) later
      rw [List.lookup_cons, beq_false_of_ne same, ← rest]
      simp [rename, List.lookup_cons, beq_false_of_ne other]

/-- Renaming commutes with merging when it keeps the names apart. -/
theorem rename_merge {f : Str → Str} (apart : Set.InjOn f {n | n ∈ keys (a.merge b)}) :
    rename f (a.merge b) = (rename f a).merge (rename f b) := by
  induction b generalizing a with
  | nil => rfl
  | cons entry b ih =>
    obtain ⟨k, w⟩ := entry
    have here : rename f (put k w a) = put (f k) w (rename f a) := by
      refine rename_put fun n mem same => apart ?_ ?_ same
      · exact mem_keys_merge.2 (Or.inl mem)
      · exact mem_keys_merge.2 (Or.inr List.mem_cons_self)
    rw [merge_cons] at apart ⊢
    rw [ih apart, here]
    rfl

end BoundQuery.Bindings
