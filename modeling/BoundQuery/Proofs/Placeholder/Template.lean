import BoundQuery.Proofs.Placeholder.Inscription
import BoundQuery.Parameters.Positional
import BoundQuery.Marker

/-!
# Templates and their inscriptions

Filling a template with the placeholders of a store numbers its slots from left to right. What comes
out is the text of an inscription, and the inscription is clean when the template is.

## Main statements

* `Positional.fill_eq`, `Named.fill_eq` — what filling a template gives, for both kinds of store.
* `Template.IsClean.inscribe` — the inscription of a clean template is clean.
-/

namespace BoundQuery
namespace Template

/-- The template with its slots numbered from `n + 1` on, behind a stem. -/
def inscribe (stem : Str) : Nat → Template → Inscription
  | _, [] => []
  | n, .text s :: rest => .text s :: inscribe stem n rest
  | n, .slot v :: rest => .name stem (n + 1) v :: inscribe stem (n + 1) rest

/-- Whether a template can follow a slot: it does not begin with a word character. -/
def Opens (d : Dialect) (t : Template) : Prop :=
  ∀ c ∈ (t.print fun _ => "$").toList.head?, d.isWordChar c = false

/-- Plain pieces hold no dollar sign, and no word character follows a slot. -/
def IsClean (d : Dialect) : Template → Prop
  | [] => True
  | .text s :: rest => .scalar '$' ∉ s.toList ∧ IsClean d rest
  | .slot _ :: rest => Opens d rest ∧ IsClean d rest

section
variable {d : Dialect} {s t : Template}

theorem opens_nil : Opens d [] := by
  simp [Opens, print]

theorem opens_slot (v : Value) (t : Template) : Opens d (.slot v :: t) := by
  simp [Opens, print]

theorem opens_text_of_head {c : Chr} {cs : List Chr} {text : Str} (h : text.toList = c :: cs)
    (stop : d.isWordChar c = false) (t : Template) : Opens d (.text text :: t) := by
  simp [Opens, print, h, stop]

theorem Opens.text {text : Str} (h : ∀ c ∈ text.toList.head?, d.isWordChar c = false)
    (rest : t.Opens d) : Opens d (.text text :: t) := by
  intro c mem
  rw [print, Str.toList_append, List.head?_append, Option.mem_def] at mem
  rcases Option.or_eq_some_iff.1 mem with mem | ⟨_, mem⟩
  · exact h c mem
  · exact rest c mem

theorem Opens.append (left : s.Opens d) (right : t.Opens d) : Opens d (s ++ t) := by
  intro c mem
  rw [print_append, Str.toList_append, List.head?_append, Option.mem_def] at mem
  rcases Option.or_eq_some_iff.1 mem with mem | ⟨_, mem⟩
  · exact left c mem
  · exact right c mem

theorem IsClean.append (left : s.IsClean d) (right : t.IsClean d) (opens : t.Opens d) :
    IsClean d (s ++ t) := by
  induction s with
  | nil => exact right
  | cons piece s ih =>
    cases piece with
    | text text => exact ⟨left.1, ih left.2⟩
    | slot v => exact ⟨left.1.append opens, ih left.2⟩

/-- A text between two others that holds no dollar sign and does not run on a name. -/
structure IsSeparator (d : Dialect) (separator : Str) : Prop where
  dollar_notMem : .scalar '$' ∉ separator.toList
  head : ∃ c ∈ separator.toList.head?, d.isWordChar c = false

theorem IsSeparator.opens {separator : Str} (h : IsSeparator d separator) (t : Template) :
    Opens d (.text separator :: t) := by
  obtain ⟨c, mem, stop⟩ := h.head
  obtain ⟨cs, same⟩ := List.head?_eq_some_iff.1 mem
  exact opens_text_of_head same stop t

theorem values_slots (separator : Str) (vs : List Value) : (slots separator vs).values = vs := by
  fun_induction slots separator vs with
  | case1 => rfl
  | case2 v => rfl
  | case3 v vs _ ih => simp [values, ih]

theorem values_join (separator : Str) (ts : List Template) :
    (join separator ts).values = ts.flatMap values := by
  fun_induction join separator ts with
  | case1 => rfl
  | case2 t => simp
  | case3 t ts _ ih => simp [values, ih]

theorem isClean_slots {separator : Str} (h : IsSeparator d separator) (vs : List Value) :
    IsClean d (slots separator vs) := by
  fun_induction slots separator vs with
  | case1 => trivial
  | case2 v => exact ⟨opens_nil, trivial⟩
  | case3 v vs _ ih => exact ⟨h.opens _, h.dollar_notMem, ih⟩

theorem isClean_join {separator : Str} (h : IsSeparator d separator) {ts : List Template}
    (clean : ∀ t ∈ ts, t.IsClean d) : IsClean d (join separator ts) := by
  fun_induction join separator ts with
  | case1 => trivial
  | case2 t => exact clean t (by simp)
  | case3 t ts _ ih =>
    have rest := ih fun t mem => clean t (by simp [mem])
    exact (clean t (by simp)).append ⟨h.dollar_notMem, rest⟩ (h.opens _)

theorem opens_weave {pieces : List (List Chr)} {vs : List Value}
    (h : ∀ piece ∈ pieces, ∀ c ∈ piece.head?, d.isWordChar c = false) :
    Opens d (weave pieces vs) := by
  fun_cases weave pieces vs with
  | case1 => exact opens_nil
  | case2 piece pieces v vs =>
    exact Opens.text (by simpa using h piece (by simp)) (opens_slot v _)
  | case3 piece pieces => exact Opens.text (by simpa using h piece (by simp)) opens_nil

/-- A raw fragment is clean when no piece holds a dollar sign and none but the first begins with a
word character. -/
theorem isClean_weave {pieces : List (List Chr)} {vs : List Value}
    (dollar : ∀ piece ∈ pieces, .scalar '$' ∉ piece)
    (heads : ∀ piece ∈ pieces.tail, ∀ c ∈ piece.head?, d.isWordChar c = false) :
    IsClean d (weave pieces vs) := by
  fun_induction weave pieces vs with
  | case1 => trivial
  | case2 piece pieces v vs ih =>
    refine ⟨by simpa using dollar piece (by simp), opens_weave heads, ih ?_ ?_⟩
    · exact fun piece mem => dollar piece (by simp [mem])
    · exact fun piece mem => heads piece (List.mem_of_mem_tail mem)
  | case3 piece pieces => exact ⟨by simpa using dollar piece (by simp), trivial⟩

theorem values_weave {pieces : List (List Chr)} {vs : List Value}
    (count : pieces.length = vs.length + 1) : (weave pieces vs).values = vs := by
  fun_induction weave pieces vs with
  | case1 => cases count
  | case2 piece pieces v vs ih => simpa [values] using ih (by simpa using count)
  | case3 piece pieces => rfl

/-! ## Numbered slots -/

theorem Opens.inscribe (stem : Str) (n : Nat) (h : t.Opens d) : (t.inscribe stem n).Opens d := by
  induction t with
  | nil => simp [Template.inscribe, Inscription.Opens]
  | cons piece t ih =>
    cases piece with
    | slot v => exact Inscription.opens_name d stem (n + 1) v _
    | text text =>
      intro c mem
      rw [Template.inscribe, Inscription.written_text, Str.toList_append, List.head?_append,
        Option.mem_def] at mem
      rcases Option.or_eq_some_iff.1 mem with mem | ⟨empty, mem⟩
      · exact h c (by simp [print, List.head?_append, mem])
      · refine ih (fun c head => h c ?_) c mem
        simpa [print, List.head?_append, empty] using head

theorem IsClean.inscribe {stem : Str} (word : ∀ c ∈ stem.toList, d.isWordChar c = true) (n : Nat)
    (h : t.IsClean d) : (t.inscribe stem n).IsClean d := by
  induction t generalizing n with
  | nil => trivial
  | cons piece t ih =>
    cases piece with
    | text text => exact ⟨h.1, ih n h.2⟩
    | slot v => exact ⟨word, h.1.inscribe stem (n + 1), ih (n + 1) h.2⟩

theorem inscribe_append (stem : Str) (n : Nat) (s t : Template) :
    (s ++ t).inscribe stem n = s.inscribe stem n ++ t.inscribe stem (n + s.values.length) := by
  induction s generalizing n with
  | nil => rfl
  | cons piece s ih =>
    cases piece with
    | text text => simp [inscribe, values, ih]
    | slot v =>
      simp only [List.cons_append, inscribe, values, ih, List.length_cons]
      rw [Nat.add_assoc, Nat.add_comm 1]

theorem names_inscribe (stem : Str) (n : Nat) (t : Template) :
    (t.inscribe stem n).bindings.map Prod.fst =
      (List.range' (n + 1) t.values.length).map (Mark.word stem) := by
  induction t generalizing n with
  | nil => rfl
  | cons piece t ih =>
    cases piece with
    | text text => exact ih n
    | slot v => simp [inscribe, values, ih, List.range'_succ]

theorem values_inscribe (stem : Str) (n : Nat) (t : Template) :
    (t.inscribe stem n).bindings.map Prod.snd = t.values := by
  induction t generalizing n with
  | nil => rfl
  | cons piece t ih =>
    cases piece with
    | text text => exact ih n
    | slot v => simp [inscribe, values, ih]

end
end Template

theorem Positional.fill_eq (t : Template) (p : Positional) :
    p.fill t = ((t.inscribe "" p.values.length).written, ⟨p.values ++ t.values⟩) := by
  unfold fill
  induction t generalizing p with
  | nil => simp [Template.fill, Template.inscribe, Template.values]
  | cons piece t ih =>
    cases piece with
    | text s => simp [Template.fill, Template.inscribe, Template.values, ih]
    | slot v =>
      simp [Template.fill, Template.inscribe, Template.values, ih, add, placeholder, Mark.word]

theorem Named.fill_eq (t : Template) (p : Named) :
    p.fill t = ((t.inscribe defaultStem p.counter).written,
      { counter := p.counter + t.values.length
        values := p.values.merge (t.inscribe defaultStem p.counter).bindings }) := by
  unfold fill
  induction t generalizing p with
  | nil => simp [Template.fill, Template.inscribe, Template.values, Bindings.merge]
  | cons piece t ih =>
    cases piece with
    | text s => simp [Template.fill, Template.inscribe, Template.values, ih]
    | slot v =>
      simp [Template.fill, Template.inscribe, Template.values, ih, Bindings.merge, add, addNamed,
        generateName, Mark.word]
      omega

end BoundQuery
