import BoundQuery.Proofs.Placeholder.Bindings
import BoundQuery.Proofs.Placeholder.Template

/-!
# Other numbers

Giving the names of an inscription other numbers changes no text between them, so that a clean
inscription stays clean. Inscriptions are put together with a text between each two. A template
whose slots are numbered from further on has other numbers and nothing else.

## Main statements

* `Inscription.IsClean.renumber` — other numbers leave an inscription clean.
* `Inscription.written_join`, `Inscription.bindings_join` — what joined inscriptions say and bind.
* `Template.inscribe_add` — numbering the slots of a template from further on.
-/

namespace BoundQuery

/-- The same mark with another number. -/
def Mark.renumber (f : Nat → Nat) : Mark → Mark
  | text s => text s
  | name stem number value => name stem (f number) value

namespace Inscription

variable {d : Dialect} {I J : Inscription} {f g : Nat → Nat}

/-- The same inscription with other numbers. -/
def renumber (f : Nat → Nat) (I : Inscription) : Inscription :=
  I.map (Mark.renumber f)

@[simp] theorem renumber_nil : renumber f [] = [] := rfl

@[simp] theorem renumber_text (s : Str) : renumber f (.text s :: I) = .text s :: I.renumber f :=
  rfl

@[simp] theorem renumber_name (stem : Str) (number : Nat) (value : Value) :
    renumber f (.name stem number value :: I) = .name stem (f number) value :: I.renumber f := rfl

@[simp] theorem renumber_append : (I ++ J).renumber f = I.renumber f ++ J.renumber f := by
  simp [renumber]

theorem renumber_renumber : (I.renumber f).renumber g = I.renumber (g ∘ f) := by
  induction I with
  | nil => rfl
  | cons m I ih => cases m <;> simp [ih]

/-! ## What holds of all names -/

/-- Whether something holds of every name, with its number and its value. -/
def All (P : Str → Nat → Value → Prop) (I : Inscription) : Prop :=
  ∀ stem number value, .name stem number value ∈ I → P stem number value

variable {P Q : Str → Nat → Value → Prop}

theorem all_nil : All P [] :=
  fun _ _ _ mem => absurd mem List.not_mem_nil

theorem all_text {s : Str} : All P (.text s :: I) ↔ All P I := by
  simp [All]

theorem all_name {stem : Str} {number : Nat} {value : Value} :
    All P (.name stem number value :: I) ↔ P stem number value ∧ All P I := by
  constructor
  · intro h
    exact ⟨h _ _ _ List.mem_cons_self, fun _ _ _ mem => h _ _ _ (List.mem_cons_of_mem _ mem)⟩
  · rintro ⟨first, rest⟩ s n v mem
    rcases List.mem_cons.1 mem with same | mem
    · cases same
      exact first
    · exact rest s n v mem

theorem All.append (left : I.All P) (right : J.All P) : (I ++ J).All P := fun s n v mem =>
  (List.mem_append.1 mem).elim (left s n v) (right s n v)

theorem All.mono (h : I.All P)
    (le : ∀ stem number value, P stem number value → Q stem number value) :
    I.All Q := fun s n v mem => le s n v (h s n v mem)

theorem All.renumber (h : I.All fun stem number value => P stem (f number) value) :
    (I.renumber f).All P := by
  intro s n v mem
  obtain ⟨m, inI, same⟩ := List.mem_map.1 mem
  cases m with
  | text t => cases same
  | name stem number value =>
    cases same
    exact h _ _ _ inI

theorem renumber_congr (h : I.All fun _ number _ => f number = g number) :
    I.renumber f = I.renumber g := by
  induction I with
  | nil => rfl
  | cons m I ih =>
    cases m with
    | text s => rw [renumber_text, renumber_text, ih (all_text.1 h)]
    | name stem number value =>
      obtain ⟨first, rest⟩ := all_name.1 h
      rw [renumber_name, renumber_name, first, ih rest]

theorem mem_bindings {name : Str} {value : Value} :
    (name, value) ∈ I.bindings ↔
      ∃ stem number, .name stem number value ∈ I ∧ name = Mark.word stem number := by
  constructor
  · intro mem
    obtain ⟨m, inI, found⟩ := List.mem_filterMap.1 mem
    cases m with
    | text s => cases found
    | name stem number v =>
      cases found
      exact ⟨stem, number, inI, rfl⟩
  · rintro ⟨stem, number, mem, rfl⟩
    exact List.mem_filterMap.2 ⟨_, mem, rfl⟩

/-- The names of a renumbered inscription, when `rename` follows the numbers. -/
theorem bindings_renumber {rename : Str → Str}
    (follows : I.All fun stem number _ =>
      rename (Mark.word stem number) = Mark.word stem (f number)) :
    (I.renumber f).bindings = Bindings.rename rename I.bindings := by
  induction I with
  | nil => rfl
  | cons m I ih =>
    cases m with
    | text s => exact ih (all_text.1 follows)
    | name stem number value =>
      obtain ⟨first, rest⟩ := all_name.1 follows
      rw [renumber_name, bindings_name, bindings_name, ih rest, ← first]
      rfl

theorem written_renumber {rename : Str → Str}
    (follows : I.All fun stem number _ =>
      rename (Mark.word stem number) = Mark.word stem (f number)) :
    (I.renumber f).written = I.writtenWith fun word _ => "$" ++ rename word := by
  induction I with
  | nil => rfl
  | cons m I ih =>
    cases m with
    | text s =>
      rw [renumber_text, written_text, writtenWith_cons, ih (all_text.1 follows)]
      rfl
    | name stem number value =>
      obtain ⟨first, rest⟩ := all_name.1 follows
      rw [renumber_name, written_name, writtenWith_cons, ih rest, ← first]
      rfl

/-! ## Clean inscriptions -/

theorem opens_text {s : Str} :
    Opens d (.text s :: I) ↔
      (∀ c ∈ s.toList.head?, d.isWordChar c = false) ∧ (s.toList = [] → I.Opens d) := by
  unfold Opens
  rw [written_text, Str.toList_append]
  cases s.toList with
  | nil => simp
  | cons c cs => simp

theorem Opens.renumber (h : I.Opens d) : (I.renumber f).Opens d := by
  induction I with
  | nil => exact h
  | cons m I ih =>
    cases m with
    | text s =>
      obtain ⟨first, rest⟩ := opens_text.1 h
      exact opens_text.2 ⟨first, fun empty => ih (rest empty)⟩
    | name stem number value => exact opens_name d stem (f number) value (Inscription.renumber f I)

theorem IsClean.renumber (h : I.IsClean d) : (I.renumber f).IsClean d := by
  induction I with
  | nil => trivial
  | cons m I ih =>
    cases m with
    | text s => exact ⟨h.1, ih h.2⟩
    | name stem number value => exact ⟨h.1, h.2.1.renumber, ih h.2.2⟩

/-! ## Joined inscriptions -/

/-- Inscriptions with a text between each two. -/
def join (separator : Str) : List Inscription → Inscription
  | [] => []
  | [I] => I
  | I :: Is => I ++ .text separator :: join separator Is

theorem written_join (separator : Str) (Is : List Inscription) :
    (join separator Is).written = Str.intercalate separator (Is.map written) := by
  fun_induction join separator Is with
  | case1 => simp
  | case2 I => simp
  | case3 I Is nonempty ih =>
    have others : Is.map written ≠ [] := by simpa using nonempty
    simp [ih, Str.intercalate_cons_of_ne_nil others, Str.append_assoc]

theorem bindings_join (separator : Str) (Is : List Inscription) :
    (join separator Is).bindings = Is.flatMap bindings := by
  fun_induction join separator Is with
  | case1 => rfl
  | case2 I => simp
  | case3 I Is nonempty ih => simp [ih]

theorem renumber_join (separator : Str) (Is : List Inscription) :
    (join separator Is).renumber f = join separator (Is.map (renumber f)) := by
  fun_induction join separator Is with
  | case1 => rfl
  | case2 I => rfl
  | case3 I Is nonempty ih =>
    cases Is with
    | nil => exact absurd rfl nonempty
    | cons J Is => simp [ih, join]

theorem opens_separator {separator : Str} (h : Template.IsSeparator d separator)
    (I : Inscription) : Opens d (.text separator :: I) := by
  obtain ⟨c, mem, stop⟩ := h.head
  obtain ⟨cs, same⟩ := List.head?_eq_some_iff.1 mem
  exact opens_text.2 (by simp [same, stop])

theorem isClean_join {separator : Str} (h : Template.IsSeparator d separator)
    {Is : List Inscription} (clean : ∀ I ∈ Is, I.IsClean d) : (join separator Is).IsClean d := by
  fun_induction join separator Is with
  | case1 => trivial
  | case2 I => exact clean I (by simp)
  | case3 I Is _ ih =>
    have rest := ih fun I mem => clean I (by simp [mem])
    exact (clean I (by simp)).append ⟨h.dollar_notMem, rest⟩ (opens_separator h _)

theorem all_join {separator : Str} {Is : List Inscription} (h : ∀ I ∈ Is, I.All P) :
    (join separator Is).All P := by
  fun_induction join separator Is with
  | case1 => exact all_nil
  | case2 I => exact h I (by simp)
  | case3 I Is _ ih =>
    have rest := ih fun I mem => h I (by simp [mem])
    exact (h I (by simp)).append (all_text.2 rest)

end Inscription

/-! ## Numbered slots after a counter -/

namespace Template

theorem inscribe_add (stem : Str) (n m : Nat) (t : Template) :
    t.inscribe stem (n + m) = (t.inscribe stem m).renumber (n + ·) := by
  induction t generalizing m with
  | nil => rfl
  | cons piece t ih =>
    cases piece with
    | text s => simp [inscribe, ih m]
    | slot v =>
      simp [inscribe, Nat.add_assoc, ih (m + 1)]

theorem all_inscribe (stem : Str) (n : Nat) (t : Template) :
    (t.inscribe stem n).All fun s number v =>
      s = stem ∧ ∃ i, number = n + i + 1 ∧ t.values[i]? = some v := by
  induction t generalizing n with
  | nil => exact Inscription.all_nil
  | cons piece t ih =>
    cases piece with
    | text s => exact Inscription.all_text.2 (ih n)
    | slot v =>
      refine Inscription.all_name.2 ⟨⟨rfl, 0, rfl, rfl⟩, (ih (n + 1)).mono ?_⟩
      rintro s number w ⟨same, i, place, found⟩
      refine ⟨same, i + 1, by omega, ?_⟩
      simpa [values] using found

end Template
end BoundQuery
