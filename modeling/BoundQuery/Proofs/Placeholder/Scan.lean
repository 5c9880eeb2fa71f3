import BoundQuery.Error.Basic
import BoundQuery.Name

/-!
# Placeholders in texts

A placeholder is a dollar sign and the longest run of word characters after it, if there is one. In
a relational statement the word characters are the digits, in a graph query letters, digits and the
underscore. A text is read once from left to right.

## Main definitions

* `Placeholder.names` — the names of the placeholders of a text, in the order of the text.
* `Placeholder.replace` — the text with something else in the place of each placeholder.
-/

namespace BoundQuery

/-- The characters of placeholder names. -/
def Dialect.isWordChar : Dialect → Chr → Bool
  | .relational => Chr.isDigit
  | .graph => Name.isNameChar

namespace Placeholder

/-- A part of a text: a character, or a placeholder by its name. -/
inductive Part where
  | char (c : Chr)
  | name (word : List Chr)
  deriving DecidableEq, Repr

/-- Reads a text; a dollar sign without a word character after it is an ordinary character. -/
def scan (d : Dialect) : List Chr → List Part
  | [] => []
  | c :: rest =>
    if c = '$' ∧ (rest.takeWhile d.isWordChar) ≠ [] then
      .name (rest.takeWhile d.isWordChar) :: scan d (rest.dropWhile d.isWordChar)
    else .char c :: scan d rest
termination_by cs => cs.length
decreasing_by
  · simpa using Nat.lt_succ_of_le (List.dropWhile_sublist _).length_le
  · simp

namespace Part

def name? : Part → Option Str
  | char _ => none
  | name word => some (Str.ofList word)

/-- The text of a part, where `write` says what stands for a placeholder. -/
def written (write : Str → Str) : Part → Str
  | char c => Str.singleton c
  | name word => write (Str.ofList word)

end Part

def names (d : Dialect) (s : Str) : List Str :=
  (scan d s.toList).filterMap Part.name?

def replace (d : Dialect) (write : Str → Str) (s : Str) : Str :=
  Str.join ((scan d s.toList).map (Part.written write))

/-! ## Reading what has been written -/

theorem isWordChar_of_all {d : Dialect} {s : Str} (h : s.toList.all d.isWordChar = true) :
    ∀ c ∈ s.toList, d.isWordChar c = true :=
  List.all_eq_true.1 h

theorem isWordChar_head_of_all {d : Dialect} {s : Str}
    (h : s.toList.head?.all (fun c => !d.isWordChar c) = true) :
    ∀ c ∈ s.toList.head?, d.isWordChar c = false := by
  intro c mem
  rw [mem] at h
  simpa using h

theorem isWordChar_of_isDigit {d : Dialect} {c : Chr} (h : c.isDigit = true) :
    d.isWordChar c = true := by
  cases d with
  | relational => exact h
  | graph => simp [Dialect.isWordChar, Name.isNameChar, Chr.isAlphanum_of_isDigit h]

/-- A dollar sign ends the name before it. -/
@[simp] theorem isWordChar_dollar (d : Dialect) : d.isWordChar '$' = false := by
  cases d <;> decide

@[simp] theorem scan_nil (d : Dialect) : scan d [] = [] := by
  simp [scan]

theorem scan_append_of_notMem (d : Dialect) {s rest : List Chr} (h : .scalar '$' ∉ s) :
    scan d (s ++ rest) = s.map .char ++ scan d rest := by
  induction s with
  | nil => rfl
  | cons c s ih =>
    rw [List.mem_cons, not_or] at h
    rw [List.cons_append, scan, if_neg fun both => h.1 both.1.symm, ih h.2]
    rfl

theorem takeWhile_isWordChar {d : Dialect} {word rest : List Chr}
    (all : ∀ c ∈ word, d.isWordChar c = true) (stop : ∀ c ∈ rest.head?, d.isWordChar c = false) :
    (word ++ rest).takeWhile d.isWordChar = word := by
  rw [List.takeWhile_append_of_pos all]
  cases rest with
  | nil => simp
  | cons c rest => simp [stop c rfl]

theorem dropWhile_isWordChar {d : Dialect} {word rest : List Chr}
    (all : ∀ c ∈ word, d.isWordChar c = true) (stop : ∀ c ∈ rest.head?, d.isWordChar c = false) :
    (word ++ rest).dropWhile d.isWordChar = rest := by
  rw [List.dropWhile_append_of_pos all]
  cases rest with
  | nil => rfl
  | cons c rest => simp [stop c rfl]

/-- A name is read whole when no word character follows it. -/
theorem scan_dollar_append {d : Dialect} {word rest : List Chr} (nonempty : word ≠ [])
    (all : ∀ c ∈ word, d.isWordChar c = true) (stop : ∀ c ∈ rest.head?, d.isWordChar c = false) :
    scan d (.scalar '$' :: (word ++ rest)) = .name word :: scan d rest := by
  have taken := takeWhile_isWordChar all stop
  rw [scan, if_pos ⟨rfl, by rwa [taken]⟩, taken, dropWhile_isWordChar all stop]

end Placeholder
end BoundQuery
