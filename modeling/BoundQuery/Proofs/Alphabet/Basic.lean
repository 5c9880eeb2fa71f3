import BoundQuery.Parameters.Named
import BoundQuery.Parameters.Positional
import BoundQuery.Proofs.Name.Characters
import BoundQuery.Proofs.Placeholder.Template
import BoundQuery.Proofs.Placeholder.Word
import BoundQuery.Proofs.Statement.Reached

/-!
# Alphabets

What a builder writes by itself is written in few characters: those of names, and the signs of the
grammar. A name that has passed its gate stays within them, and so does a placeholder, whatever the
value that it stands for.

## Main definitions

* `Dialect.Admits` — a text in the alphabet of a dialect.
* `Text.IsNameLike` — a text with the characters of names and of calls on names.
* `Template.IsAdmitted` — a template whose plain pieces are in the alphabet.

## Main statements

* `Template.admits_fill` — what is written from such a template is in the alphabet.
-/

namespace BoundQuery

namespace Dialect

/-- The signs that a dialect is written with, besides letters, digits and underscores. -/
def signs : Dialect → List Chr
  | relational => ['.', ',', '$', '(', ')', '*', '<', '>', '=', ' ']
  | graph =>
    ['.', ',', '$', '(', ')', '*', '<', '>', '=', ' ', ':', '\x7b', '\x7d', '[', ']', '-', '+']

def isOwnChar (d : Dialect) (c : Chr) : Bool :=
  Name.isNameChar c || d.signs.contains c

/-- A text in the alphabet of a dialect. -/
def Admits (d : Dialect) (s : Str) : Prop :=
  ∀ c ∈ s.toList, d.isOwnChar c = true

instance (d : Dialect) (s : Str) : Decidable (d.Admits s) :=
  decidable_of_iff (s.toList.all d.isOwnChar = true) List.all_eq_true

variable {d : Dialect} {s t : Str}

@[simp] theorem admits_empty : d.Admits "" := by
  simp [Admits]

@[simp] theorem admits_append : d.Admits (s ++ t) ↔ d.Admits s ∧ d.Admits t := by
  simp only [Admits, Str.toList_append, List.forall_mem_append]

theorem admits_join {texts : List Str} (h : ∀ s ∈ texts, d.Admits s) :
    d.Admits (Str.join texts) := by
  intro c mem
  rw [Str.toList_join, List.mem_flatMap] at mem
  obtain ⟨s, inTexts, inText⟩ := mem
  exact h s inTexts c inText

theorem admits_intercalate {separator : Str} {texts : List Str}
    (apart : d.Admits separator) (h : ∀ s ∈ texts, d.Admits s) :
    d.Admits (Str.intercalate separator texts) := by
  induction texts with
  | nil => simp
  | cons s rest ih =>
    have first := h s List.mem_cons_self
    have others := ih fun s mem => h s (List.mem_cons_of_mem _ mem)
    cases rest with
    | nil => simpa using first
    | cons s' rest =>
      rw [Str.intercalate_cons_cons, admits_append, admits_append]
      exact ⟨⟨first, apart⟩, others⟩

theorem isOwnChar_of_isNameChar (d : Dialect) {c : Chr} (h : Name.isNameChar c = true) :
    d.isOwnChar c = true := by
  simp [isOwnChar, h]

theorem isOwnChar_of_isDigit (d : Dialect) {c : Chr} (h : c.isDigit = true) :
    d.isOwnChar c = true :=
  d.isOwnChar_of_isNameChar (by simp [Name.isNameChar, Chr.isAlphanum_of_isDigit h])

end Dialect

/-! ## Names -/

namespace Text

/-- A text with no other characters than names, or calls on names, have. -/
def IsNameLike (t : Text) : Prop :=
  ∀ c ∈ t.chars, Name.isNameChar c = true ∨ c ∈ [('.' : Chr), '*', '(', ')']

variable {t : Text}

theorem isNameLike_of_isExpression (h : Name.isExpression t.chars = true) : t.IsNameLike :=
  Name.forall_mem_of_isExpression h

theorem isNameLike_of_isQualified (h : Name.isQualified t.chars = true) : t.IsNameLike :=
  isNameLike_of_isExpression (by simp [Name.isExpression, h])

theorem isNameLike_of_isPlain (h : Name.isPlain t.chars = true) : t.IsNameLike :=
  fun c mem => Or.inl (Name.isNameChar_of_isPlain h c mem)

theorem isNameLike_of_plain {context : Str} {v : Value} (h : Name.plain context v = .ok t) :
    t.IsNameLike :=
  isNameLike_of_isPlain (Name.gate_eq_ok h).2

theorem isNameLike_of_isReturned (h : IsReturned t) : t.IsNameLike := by
  rcases h with star | name
  · intro c mem
    have same : c = '*' := by simpa [chars, star] using mem
    simp [same]
  · exact isNameLike_of_isQualified name

theorem IsNameLike.admits_spelling (h : t.IsNameLike) (d : Dialect) : d.Admits t.spelling := by
  intro c mem
  rcases h c mem with name | sign
  · exact d.isOwnChar_of_isNameChar name
  · have all : [('.' : Chr), '*', '(', ')'].all d.isOwnChar = true := by cases d <;> decide
    exact List.all_eq_true.1 all c sign

/-- A member of a vocabulary is shown by its full name, which is a qualified one. -/
theorem IsNameLike.admits_shown (h : t.IsNameLike) (d : Dialect) : d.Admits t.shown := by
  cases t with
  | plain s => exact h.admits_spelling d
  | term t =>
    intro c mem
    rcases t.forall_mem_shown c mem with name | rfl
    · exact d.isOwnChar_of_isNameChar name
    · cases d <;> decide

end Text

theorem Dialect.admits_spellings {d : Dialect} {texts : List Text} (h : ∀ t ∈ texts, t.IsNameLike) :
    d.Admits (commaSeparated (texts.map Text.spelling)) := by
  refine d.admits_intercalate (by cases d <;> decide) fun s mem => ?_
  obtain ⟨t, inTexts, rfl⟩ := List.mem_map.1 mem
  exact (h t inTexts).admits_spelling d

/-! ## Templates -/

theorem Mark.admits_word {d : Dialect} {stem : Str} (h : d.Admits stem) (n : Nat) :
    d.Admits (word stem n) := by
  intro c mem
  rw [toList_word, List.mem_append] at mem
  rcases mem with inStem | digit
  · exact h c inStem
  · exact d.isOwnChar_of_isDigit (Chr.isDigit_of_mem_digits digit)

namespace Template

/-- The plain pieces of a template are in the alphabet; its values are not asked for anything. -/
def IsAdmitted (d : Dialect) (t : Template) : Prop :=
  ∀ s, Piece.text s ∈ t → d.Admits s

variable {d : Dialect} {s t : Template}

@[simp] theorem isAdmitted_nil : IsAdmitted d [] := by
  simp [IsAdmitted]

@[simp] theorem isAdmitted_text {text : Str} :
    IsAdmitted d (.text text :: t) ↔ d.Admits text ∧ t.IsAdmitted d := by
  simp [IsAdmitted]

@[simp] theorem isAdmitted_slot {v : Value} : IsAdmitted d (.slot v :: t) ↔ t.IsAdmitted d := by
  simp [IsAdmitted]

@[simp] theorem isAdmitted_append : IsAdmitted d (s ++ t) ↔ s.IsAdmitted d ∧ t.IsAdmitted d := by
  simp [IsAdmitted, or_imp, forall_and]

theorem isAdmitted_slots (separator : Str) (h : d.Admits separator) (vs : List Value) :
    IsAdmitted d (slots separator vs) := by
  fun_induction slots separator vs with
  | case1 => simp
  | case2 v => simp
  | case3 v vs _ ih => simp [h, ih]

theorem isAdmitted_join (separator : Str) (h : d.Admits separator) {ts : List Template}
    (each : ∀ t ∈ ts, t.IsAdmitted d) : IsAdmitted d (join separator ts) := by
  fun_induction join separator ts with
  | case1 => simp
  | case2 t => exact each t (by simp)
  | case3 t ts _ ih =>
    have rest := ih fun t mem => each t (by simp [mem])
    simp [h, rest, each t]

/-- Values only decide which placeholders are written. -/
theorem admits_fill {σ : Type} {mint : Value → σ → Str × σ}
    (minted : ∀ v store, d.Admits (mint v store).1) (h : t.IsAdmitted d) (store : σ) :
    d.Admits (t.fill mint store).1 := by
  induction t generalizing store with
  | nil => simp [fill]
  | cons piece t ih =>
    cases piece with
    | text s =>
      rw [isAdmitted_text] at h
      exact d.admits_append.2 ⟨h.1, ih h.2 store⟩
    | slot v =>
      rw [isAdmitted_slot] at h
      exact d.admits_append.2 ⟨minted v store, ih h (mint v store).2⟩

end Template

theorem SqlQuery.admits_ofTemplate {t : Template} (h : t.IsAdmitted .relational) :
    Dialect.relational.Admits (ofTemplate t).text := by
  refine Template.admits_fill (fun v store => ?_) h ({} : Positional)
  have word := Mark.admits_word (d := .relational) Dialect.admits_empty (store.values.length + 1)
  exact Dialect.admits_append.2 ⟨by decide, by simpa [Mark.word] using word⟩

end BoundQuery
