import BoundQuery.GraphQuery.Pattern
import BoundQuery.Proofs.Placeholder.Bindings
import BoundQuery.Proofs.Result
import Mathlib.Data.List.Induction

/-!
# Paths of paths

A path gathers three things from its elements: their texts one after the other, the names they bind,
each once, and their parameters, of which a later one takes the place of an earlier one with the
same name. All three may be gathered in steps, so that a path whose elements are paths is the path
of all their elements.

## Main definitions

* `ListsFirsts` — the items of a list, each once and in the order in which they first come.
* `Pattern.IsUnion` — what a pattern has to be in order to gather some others.
* `Pattern.Nesting` — patterns put into paths, which are put into paths again.

## Main statements

* `Pattern.append_concat` — a path is appended by appending its elements.
* `Pattern.path_flattens` — a path is the union of its elements, however they are nested.
-/

namespace BoundQuery

/-- `firsts` has each item of `all` once, in the order in which they first come there. -/
structure ListsFirsts (firsts all : List Str) : Prop where
  nodup : firsts.Nodup
  mem_iff : ∀ s, s ∈ firsts ↔ s ∈ all
  ordered : firsts.Pairwise fun s t => all.idxOf s < all.idxOf t

namespace ListsFirsts

variable {firsts all : List Str} {s : Str}

theorem nil : ListsFirsts [] [] :=
  ⟨List.nodup_nil, fun _ => Iff.rfl, .nil⟩

/-- Items that follow leave the places of those that are there already. -/
theorem ordered_append (h : ListsFirsts firsts all) (later : List Str) :
    firsts.Pairwise fun s t => (all ++ later).idxOf s < (all ++ later).idxOf t := by
  refine List.Pairwise.imp_of_mem (fun {s t} inFirsts inFirsts' before => ?_) h.ordered
  rw [List.idxOf_append_of_mem ((h.mem_iff s).1 inFirsts),
    List.idxOf_append_of_mem ((h.mem_iff t).1 inFirsts')]
  exact before

theorem concat_of_mem (h : ListsFirsts firsts all) (mem : s ∈ all) :
    ListsFirsts firsts (all ++ [s]) where
  nodup := h.nodup
  mem_iff t := by
    rw [h.mem_iff, List.mem_append, List.mem_singleton]
    exact ⟨Or.inl, fun there => there.elim id fun same => same ▸ mem⟩
  ordered := h.ordered_append [s]

theorem concat_of_notMem (h : ListsFirsts firsts all) (absent : s ∉ all) :
    ListsFirsts (firsts ++ [s]) (all ++ [s]) where
  nodup := by
    have apart : ∀ t ∈ firsts, t ≠ s := fun t mem same => absent (same ▸ (h.mem_iff t).1 mem)
    simpa [List.nodup_append, h.nodup] using apart
  mem_iff t := by rw [List.mem_append, List.mem_append, h.mem_iff]
  ordered := by
    refine List.pairwise_append.2 ⟨h.ordered_append [s], List.pairwise_singleton _ _, ?_⟩
    rintro t mem _ (_ | ⟨_, ⟨⟩⟩)
    have before : t ∈ all := (h.mem_iff t).1 mem
    rw [List.idxOf_append_of_mem before, List.idxOf_append_of_notMem absent, List.idxOf_cons_self]
    exact List.idxOf_lt_length_of_mem before

end ListsFirsts

/-! ## Parameters -/

namespace Bindings

variable {a b : Bindings} {n : Str} {v : Value}

theorem keys_put_of_mem (mem : n ∈ keys b) : keys (put n v b) = keys b := by
  induction b with
  | nil => cases mem
  | cons entry b ih =>
    obtain ⟨k, w⟩ := entry
    by_cases same : k = n
    · subst same
      rw [put_cons_self, keys_cons, keys_cons]
    · have later : n ∈ keys b := by simpa [Ne.symm same] using mem
      rw [put_cons_of_ne same, keys_cons, keys_cons, ih later]

theorem lookup_put (m n : Str) :
    (put n v b).lookup m = if m = n then some v else b.lookup m := by
  induction b with
  | nil => by_cases same : m = n <;> simp [put, same, List.lookup_cons, beq_false_of_ne]
  | cons entry b ih =>
    obtain ⟨k, w⟩ := entry
    by_cases here : k = n
    · subst here
      rw [put_cons_self, List.lookup_cons, List.lookup_cons]
      by_cases same : m = k <;> simp [same, beq_false_of_ne]
    · rw [put_cons_of_ne here, List.lookup_cons, List.lookup_cons, ih]
      by_cases same : m = k
      · subst same
        simp [here]
      · simp [beq_false_of_ne same]

theorem merge_concat : a.merge (b ++ [(n, v)]) = put n v (a.merge b) := by
  rw [merge_append]
  rfl

/-- Gathered parameters keep the places of their names and have the values that come last. -/
theorem listsFirsts_merge (b : Bindings) :
    ListsFirsts (keys (merge [] b)) (keys b) ∧
      ∀ name, (merge [] b).lookup name = b.reverse.lookup name := by
  induction b using List.reverseRecOn with
  | nil => exact ⟨.nil, fun _ => rfl⟩
  | append_singleton b entry ih =>
    obtain ⟨n, v⟩ := entry
    obtain ⟨firsts, last⟩ := ih
    have split : keys (b ++ [(n, v)]) = keys b ++ [n] := by simp [keys]
    rw [merge_concat, split]
    constructor
    · by_cases mem : n ∈ keys b
      · rw [keys_put_of_mem ((firsts.mem_iff n).2 mem)]
        exact firsts.concat_of_mem mem
      · rw [put_of_notMem fun there => mem ((firsts.mem_iff n).1 there)]
        simpa [keys] using firsts.concat_of_notMem mem
    · intro name
      rw [lookup_put, List.reverse_append, last]
      by_cases same : name = n
      · simp [same]
      · simp [same, List.lookup_cons, beq_false_of_ne same]

end Bindings

namespace Pattern

/-! ## Names -/

variable {known names : List Text} {name : Text}

theorem addNames_append (known names others : List Text) :
    addNames known (names ++ others) = addNames (addNames known names) others := by
  simp only [addNames, List.foldl_append]

theorem addNames_singleton_of_mem (mem : name.spelling ∈ known.map Text.spelling) :
    addNames known [name] = known := by
  simpa [addNames] using mem

theorem addNames_singleton_of_notMem (absent : name.spelling ∉ known.map Text.spelling) :
    addNames known [name] = known ++ [name] := by
  simpa [addNames] using absent

theorem mem_spellings_addNames (s : Str) :
    s ∈ (addNames known names).map Text.spelling ↔
      s ∈ known.map Text.spelling ∨ s ∈ names.map Text.spelling := by
  induction names using List.reverseRecOn with
  | nil => simp [addNames]
  | append_singleton names name ih =>
    rw [addNames_append, List.map_append, List.mem_append, ← or_assoc, ← ih]
    by_cases there : name.spelling ∈ (addNames known names).map Text.spelling
    · rw [addNames_singleton_of_mem there]
      refine ⟨Or.inl, fun mem => mem.elim id fun same => ?_⟩
      rwa [List.mem_singleton.1 same]
    · rw [addNames_singleton_of_notMem there, List.map_append, List.mem_append]

/-- Names that have been gathered in a list of their own are added as they are. -/
theorem addNames_addNames (known names others : List Text) :
    addNames known (addNames names others) = addNames (addNames known names) others := by
  induction others using List.reverseRecOn with
  | nil => rfl
  | append_singleton others name ih =>
    rw [addNames_append, addNames_append _ others, ← ih]
    by_cases there : name.spelling ∈ (addNames names others).map Text.spelling
    · have before : name.spelling ∈ (addNames known (addNames names others)).map Text.spelling :=
        (mem_spellings_addNames _).2 (Or.inr there)
      rw [addNames_singleton_of_mem there, addNames_singleton_of_mem before]
    · rw [addNames_singleton_of_notMem there, addNames_append]

/-- Gathered names are the first ones of their spellings. -/
theorem listsFirsts_addNames (names : List Text) :
    ListsFirsts ((addNames [] names).map Text.spelling) (names.map Text.spelling) ∧
      ∀ t ∈ addNames [] names, names.find? (fun u => u.spelling == t.spelling) = some t := by
  induction names using List.reverseRecOn with
  | nil => exact ⟨.nil, by simp [addNames]⟩
  | append_singleton names name ih =>
    obtain ⟨firsts, found⟩ := ih
    have kept : ∀ t ∈ addNames [] names,
        (names ++ [name]).find? (fun u => u.spelling == t.spelling) = some t := by
      intro t mem
      rw [List.find?_append, found t mem, Option.some_or]
    rw [addNames_append, List.map_append, List.map_singleton]
    by_cases there : name.spelling ∈ (addNames [] names).map Text.spelling
    · rw [addNames_singleton_of_mem there]
      exact ⟨firsts.concat_of_mem ((firsts.mem_iff _).1 there), kept⟩
    · have new : name.spelling ∉ names.map Text.spelling := fun mem =>
        there ((firsts.mem_iff _).2 mem)
      have missing : names.find? (fun u => u.spelling == name.spelling) = none := by
        simpa using new
      rw [addNames_singleton_of_notMem there]
      refine ⟨by simpa using firsts.concat_of_notMem new, fun t mem => ?_⟩
      rcases List.mem_append.1 mem with before | here
      · exact kept t before
      · obtain rfl := List.mem_singleton.1 here
        simp [List.find?_append, missing]

/-! ## Appending -/

variable {p q r : Pattern}

theorem append_assoc (p q r : Pattern) (distinct : (Bindings.keys q.params).Nodup) :
    p.append (q.append r) = (p.append q).append r := by
  simp only [append, Str.append_assoc, addNames_addNames, Bindings.merge_assoc distinct]

theorem concat_concat (ps : List Pattern) (p : Pattern) :
    concat (ps ++ [p]) = (concat ps).append p := by
  simp [concat]

theorem append_empty (p : Pattern) : p.append empty = p := by
  simp [append, empty, addNames]

theorem concat_eq (ps : List Pattern) :
    concat ps =
      { text := Str.join (ps.map (·.text))
        identifiers := addNames [] (ps.flatMap (·.identifiers))
        params := Bindings.merge [] (ps.flatMap (·.params)) } := by
  induction ps using List.reverseRecOn with
  | nil => rfl
  | append_singleton ps p ih =>
    rw [concat_concat, ih]
    simp [append, addNames_append, Bindings.merge_append]

theorem nodup_keys_concat (ps : List Pattern) : (Bindings.keys (concat ps).params).Nodup := by
  rw [concat_eq]
  exact Bindings.nodup_keys_merge List.nodup_nil

/-- A path is appended by appending its elements. -/
theorem append_concat (q : Pattern) (ps : List Pattern) :
    q.append (concat ps) = ps.foldl append q := by
  induction ps using List.reverseRecOn with
  | nil => exact q.append_empty
  | append_singleton ps p ih =>
    rw [concat_concat, append_assoc _ _ _ (nodup_keys_concat ps), ih, List.foldl_append]
    rfl

/-! ## Unions -/

/-- The texts of some patterns one after the other, the names they bind, each as it first comes, and
their parameters, each at its first place with its last value. -/
structure IsUnion (p : Pattern) (ps : List Pattern) : Prop where
  text : p.text = Str.join (ps.map (·.text))
  identifiers : ListsFirsts (p.identifiers.map Text.spelling)
    ((ps.flatMap (·.identifiers)).map Text.spelling)
  firstOf : ∀ t ∈ p.identifiers,
    (ps.flatMap (·.identifiers)).find? (fun u => u.spelling == t.spelling) = some t
  names : ListsFirsts (Bindings.keys p.params) (Bindings.keys (ps.flatMap (·.params)))
  values : ∀ name, p.params.lookup name = (ps.flatMap (·.params)).reverse.lookup name

theorem isUnion_concat (ps : List Pattern) : (concat ps).IsUnion ps := by
  have bound := listsFirsts_addNames (ps.flatMap (·.identifiers))
  have gathered := Bindings.listsFirsts_merge (ps.flatMap (·.params))
  rw [concat_eq]
  exact ⟨rfl, bound.1, bound.2, gathered.1, gathered.2⟩

/-- A list of patterns as it is handed over. -/
def listed (ps : List Pattern) : Value :=
  .list (ps.map toValue)

theorem path_listed (ps : List Pattern) : path (listed ps) = .ok (concat ps) := by
  have each : (ps.map toValue).mapM ofPathElement = .ok ps := by
    have made : ps.mapM (ofPathElement ∘ toValue) = .ok (ps.map id) :=
      Result.mapM_of_ok fun _ _ => rfl
    rwa [List.map_id, ← List.mapM_map] at made
  change ((ps.map toValue).mapM ofPathElement >>= fun ps => .ok (concat ps)) = _
  rw [each]
  rfl

/-- Patterns, and paths of what has been made of others. -/
inductive Nesting where
  | element (p : Pattern)
  | path (parts : List Nesting)

namespace Nesting

/-- The patterns that have not been made of others, from left to right. -/
def elements : Nesting → List Pattern
  | element p => [p]
  | path parts => parts.flatMap elements

/-- Makes the paths from the inside out. -/
def make : Nesting → Result Pattern
  | element p => .ok p
  | path parts => do
    Pattern.path (listed (← parts.mapM make))

theorem make_path (parts : List Nesting) :
    (path parts).make = parts.mapM make >>= fun ps => Pattern.path (listed ps) := by
  rw [make]

/-- It is the same to append what is made of some patterns and to append the patterns. -/
def IsMadeOf (n : Nesting) : Prop :=
  ∃ p, n.make = .ok p ∧ ∀ q : Pattern, q.append p = n.elements.foldl append q

theorem exists_mapM_make {parts : List Nesting} (each : ∀ n ∈ parts, n.IsMadeOf) :
    ∃ ps, parts.mapM make = .ok ps ∧
      ∀ q : Pattern, ps.foldl append q = (parts.flatMap elements).foldl append q := by
  induction parts with
  | nil => exact ⟨[], rfl, fun _ => rfl⟩
  | cons n parts ih =>
    obtain ⟨⟨p, made, first⟩, others⟩ := List.forall_mem_cons.1 each
    obtain ⟨ps, rest, later⟩ := ih others
    refine ⟨p :: ps, ?_, fun q => ?_⟩
    · rw [List.mapM_cons, made, rest]
      rfl
    · rw [List.foldl_cons, first, later, List.flatMap_cons, List.foldl_append]

theorem isMadeOf (n : Nesting) : n.IsMadeOf := by
  match n with
  | element p => exact ⟨p, by rw [make], fun q => by rw [elements]; rfl⟩
  | path parts =>
    obtain ⟨ps, made, same⟩ := exists_mapM_make fun part (_ : part ∈ parts) => isMadeOf part
    refine ⟨concat ps, ?_, fun q => ?_⟩
    · rw [make_path, made]
      exact path_listed ps
    · rw [append_concat, same, elements]
termination_by sizeOf n

/-- However patterns are put into paths, what comes out is the path of all of them. -/
theorem make_path_eq (parts : List Nesting) :
    (path parts).make = .ok (concat (parts.flatMap elements)) := by
  obtain ⟨ps, made, same⟩ := exists_mapM_make fun part (_ : part ∈ parts) => isMadeOf part
  rw [make_path, made]
  exact (path_listed ps).trans (congrArg Except.ok (same empty))

end Nesting

/-- The path of two paths is the path of their elements, and so is every nesting of paths; and a
path is the union of its elements. -/
theorem path_flattens (xs ys : List Pattern) (parts : List Nesting) :
    (∃ p q r, path (listed xs) = .ok p ∧ path (listed ys) = .ok q ∧
      path (listed [p, q]) = .ok r ∧ path (listed (xs ++ ys)) = .ok r) ∧
    (∃ r, (Nesting.path parts).make = .ok r ∧
      path (listed (parts.flatMap Nesting.elements)) = .ok r) ∧
    ∃ r, path (listed xs) = .ok r ∧ r.IsUnion xs := by
  refine ⟨⟨concat xs, concat ys, concat (xs ++ ys), path_listed xs, path_listed ys, ?_,
    path_listed _⟩, ⟨_, Nesting.make_path_eq parts, path_listed _⟩, _, path_listed xs,
    isUnion_concat xs⟩
  have both : concat [concat xs, concat ys] = concat (xs ++ ys) := calc
    concat [concat xs, concat ys] = (empty.append (concat xs)).append (concat ys) := rfl
    _ = ys.foldl append (xs.foldl append empty) := by rw [append_concat, append_concat]
    _ = concat (xs ++ ys) := List.foldl_append.symm
  rw [path_listed, both]

/-- A name that comes again keeps its place and takes the later value. -/
example : (concat [⟨"(a)", [.plain "a"], [("p1", .int 1), ("p2", .int 2)]⟩,
    ⟨"(b)", [.plain "b", .plain "a"], [("p3", .int 3), ("p1", .int 4)]⟩]).params =
      ([("p1", .int 4), ("p2", .int 2), ("p3", .int 3)] : Bindings) := rfl

end Pattern
end BoundQuery
