import BoundQuery.Proofs.Placeholder.Scan
import BoundQuery.Parameters.Named

/-!
# Inscriptions

An inscription is a text whose placeholders are still known apart: pieces of plain text and, between
them, names with the values that they stand for. A name is a stem and a number, and the same name
may stand in several places.

An inscription is clean when its plain pieces hold no dollar sign and no name runs on into the piece
after it. Reading the text of a clean inscription gives back exactly its names.

## Main statements

* `Inscription.names_written` — the placeholders read from the text are the names of the
  inscription.
* `Inscription.replace_written` — replacing placeholders in the text is writing other names.
-/

namespace BoundQuery

inductive Mark where
  | text (s : Str)
  | name (stem : Str) (number : Nat) (value : Value)

abbrev Inscription := List Mark

namespace Mark

/-- The name of a parameter. -/
def word (stem : Str) (number : Nat) : Str :=
  stem ++ Str.ofNat number

/-- The name that a mark is, with the value it stands for. -/
def binding? : Mark → Option (Str × Value)
  | text _ => none
  | name stem number value => some (word stem number, value)

/-- The text of a mark, where `write` says what stands for a name. -/
def written (write : Str → Value → Str) : Mark → Str
  | text s => s
  | name stem number value => write (word stem number) value

def parts : Mark → List Placeholder.Part
  | text s => s.toList.map .char
  | name stem number _ => [.name (word stem number).toList]

end Mark

namespace Inscription

/-- The text of an inscription, where `write` says what stands for a name. -/
def writtenWith (write : Str → Value → Str) (I : Inscription) : Str :=
  Str.join (I.map (Mark.written write))

/-- The text of an inscription. -/
def written (I : Inscription) : Str :=
  I.writtenWith fun word _ => "$" ++ word

/-- The names with their values, one for each place. -/
def bindings (I : Inscription) : List (Str × Value) :=
  I.filterMap Mark.binding?

/-- Whether an inscription can follow a name: its text does not begin with a word character. -/
def Opens (d : Dialect) (I : Inscription) : Prop :=
  ∀ c ∈ I.written.toList.head?, d.isWordChar c = false

/-- Plain pieces hold no dollar sign, names are words, and no name runs on. -/
def IsClean (d : Dialect) : Inscription → Prop
  | [] => True
  | .text s :: rest => .scalar '$' ∉ s.toList ∧ IsClean d rest
  | .name stem _ _ :: rest =>
    (∀ c ∈ stem.toList, d.isWordChar c = true) ∧ Opens d rest ∧ IsClean d rest

section
variable (write : Str → Value → Str) (s stem : Str) (number : Nat) (value : Value)
variable (I J : Inscription)

@[simp] theorem writtenWith_nil : writtenWith write [] = "" := rfl

@[simp] theorem writtenWith_cons (m : Mark) :
    writtenWith write (m :: I) = m.written write ++ I.writtenWith write := by
  simp [writtenWith]

@[simp] theorem writtenWith_append :
    (I ++ J).writtenWith write = I.writtenWith write ++ J.writtenWith write := by
  simp [writtenWith]

@[simp] theorem written_nil : written [] = "" := rfl

@[simp] theorem written_text : written (.text s :: I) = s ++ I.written := by
  simp [written, Mark.written]

@[simp] theorem written_name :
    written (.name stem number value :: I) = "$" ++ Mark.word stem number ++ I.written := by
  simp [written, Mark.written]

@[simp] theorem written_append : (I ++ J).written = I.written ++ J.written := by
  simp [written]

@[simp] theorem bindings_nil : bindings [] = [] := rfl

@[simp] theorem bindings_text : bindings (.text s :: I) = I.bindings := rfl

@[simp] theorem bindings_name :
    bindings (.name stem number value :: I) = (Mark.word stem number, value) :: I.bindings := rfl

@[simp] theorem bindings_append : (I ++ J).bindings = I.bindings ++ J.bindings := by
  simp [bindings]

end

/-! ## Clean inscriptions -/

theorem Opens.append {d : Dialect} {I J : Inscription} (left : I.Opens d) (right : J.Opens d) :
    (I ++ J).Opens d := by
  intro c mem
  rw [written_append, Str.toList_append, List.head?_append, Option.mem_def] at mem
  rcases Option.or_eq_some_iff.1 mem with mem | ⟨_, mem⟩
  · exact left c mem
  · exact right c mem

theorem opens_name (d : Dialect) (stem : Str) (number : Nat) (value : Value) (I : Inscription) :
    Opens d (.name stem number value :: I) := by
  simp [Opens]

theorem IsClean.append {d : Dialect} {I J : Inscription} (left : I.IsClean d) (right : J.IsClean d)
    (opens : J.Opens d) : (I ++ J).IsClean d := by
  induction I with
  | nil => exact right
  | cons m I ih =>
    cases m with
    | text s => exact ⟨left.1, ih left.2⟩
    | name stem number value => exact ⟨left.1, left.2.1.append opens, ih left.2.2⟩

/-! ## Reading the text of an inscription -/

theorem isWordChar_of_mem_word {d : Dialect} {stem : Str} {number : Nat}
    (h : ∀ c ∈ stem.toList, d.isWordChar c = true) :
    ∀ c ∈ (Mark.word stem number).toList, d.isWordChar c = true := by
  intro c mem
  rw [Mark.word, Str.toList_append, List.mem_append] at mem
  rcases mem with mem | mem
  · exact h c mem
  · exact Placeholder.isWordChar_of_isDigit (Chr.isDigit_of_mem_digits mem)

theorem toList_word_ne_nil (stem : Str) (number : Nat) :
    (Mark.word stem number).toList ≠ [] := by
  simp [Mark.word]

theorem scan_written {d : Dialect} {I : Inscription} (h : I.IsClean d) :
    Placeholder.scan d I.written.toList = I.flatMap Mark.parts := by
  induction I with
  | nil => simp
  | cons m I ih =>
    cases m with
    | text s =>
      rw [written_text, Str.toList_append, Placeholder.scan_append_of_notMem d h.1, ih h.2]
      rfl
    | name stem number value =>
      have read := Placeholder.scan_dollar_append (toList_word_ne_nil stem number)
        (isWordChar_of_mem_word h.1) h.2.1
      rw [ih h.2.2] at read
      simpa [Mark.parts, Str.append_assoc] using read

theorem names_written {d : Dialect} {I : Inscription} (h : I.IsClean d) :
    Placeholder.names d I.written = I.bindings.map Prod.fst := by
  rw [Placeholder.names, scan_written h]
  clear h
  induction I with
  | nil => rfl
  | cons m I ih =>
    rw [List.flatMap_cons, List.filterMap_append, ih]
    cases m with
    | text s => simp [Mark.parts, Placeholder.Part.name?, Function.comp_def]
    | name stem number value => simp [Mark.parts, Placeholder.Part.name?]

theorem join_map_singleton (cs : List Chr) :
    Str.join (cs.map Str.singleton) = Str.ofList cs := by
  induction cs with
  | nil => rfl
  | cons c cs ih => simp [ih, ← Str.toList_inj]

theorem replace_written {d : Dialect} {I : Inscription} (h : I.IsClean d)
    (write : Str → Str) :
    Placeholder.replace d write I.written = I.writtenWith fun word _ => write word := by
  rw [Placeholder.replace, scan_written h]
  clear h
  induction I with
  | nil => rfl
  | cons m I ih =>
    rw [List.flatMap_cons, List.map_append, Str.join_append, ih, writtenWith_cons]
    cases m with
    | text s =>
      have chars : s.toList.map (Placeholder.Part.written write ∘ Placeholder.Part.char) =
          s.toList.map Str.singleton := rfl
      simp [Mark.parts, Mark.written, chars, join_map_singleton]
    | name stem number value => simp [Mark.parts, Mark.written, Placeholder.Part.written]

end Inscription
end BoundQuery
