import BoundQuery.Proofs.Json.Reading
import BoundQuery.Proofs.Number.Decimal
import Mathlib.Data.List.Forall2

/-!
# The grammar of JSON

What a JSON text is, and which tree it spells, as the grammar has it: spaces may stand
around every value, and a character of a string may be escaped. A tree is written as a text of this
grammar, in every layout, as long as its numbers are finite; for the others the grammar has no text.

## Main definitions

* `Json.Spells` — the trees and the texts that spell them.
* `Json.IsFinite` — trees whose numbers are finite.

## Main statements

* `Json.isFinite_of_spells` — the trees that have a text.
* `Json.spells_text` — what is written is a JSON text for the tree.
-/

namespace BoundQuery.Json

open Number

/-- Trees whose numbers are finite. -/
inductive IsFinite : Json → Prop
  | null : IsFinite .null
  | bool (b : Bool) : IsFinite (.bool b)
  | int (i : Int) : IsFinite (.int i)
  | float {x : Binary64} (finite : x.IsFinite) : IsFinite (.float x)
  | str (s : Str) : IsFinite (.str s)
  | arr {xs : List Json} (each : ∀ x ∈ xs, IsFinite x) : IsFinite (.arr xs)
  | obj {fields : List (Str × Json)} (each : ∀ f ∈ fields, IsFinite f.2) : IsFinite (.obj fields)

def IsSpaces (cs : List Chr) : Prop :=
  ∀ c ∈ cs, c = ' ' ∨ c = '\t' ∨ c = '\n' ∨ c = '\r'

/-- A string between quotes, each of its characters as it is or escaped. -/
def SpellsString (s : Str) (cs : List Chr) : Prop :=
  ∃ parts, List.Forall₂ Escaped s.toList parts ∧
    cs = .scalar '"' :: (parts.flatten ++ [('"' : Chr)])

mutual

/-- The texts that spell a tree. -/
inductive Spells : Json → List Chr → Prop
  | null : Spells .null ['n', 'u', 'l', 'l']
  | yes : Spells (.bool true) ['t', 'r', 'u', 'e']
  | no : Spells (.bool false) ['f', 'a', 'l', 's', 'e']
  | int {negative : Bool} {digits : List Char} (whole : Number.IsWhole digits) :
      Spells (.int (Binary64.signed negative (Literal.digitsValue (digits.map .scalar))))
        (((if negative then ['-'] else []) ++ digits).map .scalar)
  | float {x : Binary64} (number : IsNumber (DecimalFormat.json.text x).toList) :
      Spells (.float x) (Str.of (DecimalFormat.json.text x)).toList
  | str {s : Str} {cs : List Chr} (spelled : SpellsString s cs) : Spells (.str s) cs
  | nothing {spaces : List Chr} (blank : IsSpaces spaces) :
      Spells (.arr []) (.scalar '[' :: (spaces ++ [(']' : Chr)]))
  | arr {xs : List Json} {cs : List Chr} (items : SpellsItems xs cs) :
      Spells (.arr xs) (.scalar '[' :: (cs ++ [(']' : Chr)]))
  | empty {spaces : List Chr} (blank : IsSpaces spaces) :
      Spells (.obj []) (.scalar '\x7b' :: (spaces ++ [.scalar '\x7d']))
  | obj {fields : List (Str × Json)} {cs : List Chr} (items : SpellsFields fields cs) :
      Spells (.obj fields) (.scalar '\x7b' :: (cs ++ [.scalar '\x7d']))

/-- Values with commas between them and spaces around each. -/
inductive SpellsItems : List Json → List Chr → Prop
  | last {x : Json} {before cs after : List Chr} (left : IsSpaces before) (item : Spells x cs)
      (right : IsSpaces after) : SpellsItems [x] (before ++ cs ++ after)
  | more {x : Json} {xs : List Json} {before cs after rest : List Chr} (left : IsSpaces before)
      (item : Spells x cs) (right : IsSpaces after) (items : SpellsItems xs rest) :
      SpellsItems (x :: xs) (before ++ cs ++ after ++ .scalar ',' :: rest)

/-- Keys and values with commas between them and spaces around each. -/
inductive SpellsFields : List (Str × Json) → List Chr → Prop
  | last {key : Str} {x : Json} {before name between gap cs after : List Chr}
      (left : IsSpaces before) (named : SpellsString key name) (toColon : IsSpaces between)
      (fromColon : IsSpaces gap) (item : Spells x cs) (right : IsSpaces after) :
      SpellsFields [(key, x)] (before ++ name ++ between ++ .scalar ':' :: gap ++ cs ++ after)
  | more {key : Str} {x : Json} {fields : List (Str × Json)}
      {before name between gap cs after rest : List Chr}
      (left : IsSpaces before) (named : SpellsString key name) (toColon : IsSpaces between)
      (fromColon : IsSpaces gap) (item : Spells x cs) (right : IsSpaces after)
      (items : SpellsFields fields rest) :
      SpellsFields ((key, x) :: fields)
        (before ++ name ++ between ++ .scalar ':' :: gap ++ cs ++ after ++ .scalar ',' :: rest)

end

/-! ## Leaves -/

theorem isSpaces_nil : IsSpaces [] := by
  simp [IsSpaces]

theorem spellsString_stringText (s : Str) : SpellsString s (stringText s).toList := by
  refine ⟨s.toList.map escapeChar, ?_, ?_⟩
  · rw [List.forall₂_map_right_iff]
    exact List.forall₂_same.2 fun c _ => escaped_escapeChar c
  · rw [toList_stringText, List.flatMap_def]

theorem spells_int (i : Int) : Spells (.int i) (Str.ofInt i).toList := by
  have value : Binary64.signed (decide (i < 0))
      (Literal.digitsValue (Chr.digits i.natAbs)) = i := by
    rw [digitsValue_digits, Binary64.signed]
    grind
  have written := @Spells.int (decide (i < 0)) _ (isWhole_toDigits i.natAbs)
  rw [← Chr.digits, value] at written
  rw [toList_ofInt]
  split <;> simp_all [Chr.digits]

/-! ## Layouts -/

section
variable {l : Layout} {before gap after : Str}

theorem isSpaces_lineBreak (depth : Nat) : IsSpaces (Layout.lineBreak depth).toList := by
  intro c mem
  rw [Layout.lineBreak] at mem
  rcases List.mem_cons.1 mem with rfl | mem
  · exact .inr (.inr (.inl rfl))
  · exact .inl (List.eq_of_mem_replicate mem)

/-- What a layout puts before, between and after items is spaces. -/
theorem exists_enclose (l : Layout) (depth : Nat) : ∃ before gap after : Str,
    IsSpaces before.toList ∧ IsSpaces gap.toList ∧ IsSpaces after.toList ∧
      ∀ (left right : Str) (items : List Str), items ≠ [] →
        l.enclose left right depth items =
          left ++ before ++ Str.intercalate ("," ++ gap) items ++ after ++ right := by
  have nothing : IsSpaces (Str.toList "") := isSpaces_nil
  have lines := isSpaces_lineBreak
  cases l with
  | compact =>
    exact ⟨"", "", "", nothing, nothing, nothing, fun _ _ items some => by
      simp [Layout.enclose, some]⟩
  | spaced =>
    refine ⟨"", " ", "", nothing, by simp [IsSpaces], nothing, fun _ _ items some => ?_⟩
    simp only [Layout.enclose, List.isEmpty_iff, some, if_false, Str.append_empty]
    rfl
  | indented =>
    exact ⟨_, _, _, lines (depth + 1), lines (depth + 1), lines depth, fun _ _ items some => by
      simp [Layout.enclose, some]⟩

theorem exists_colon (l : Layout) : ∃ gap : Str, IsSpaces gap.toList ∧ l.colon = ":" ++ gap := by
  cases l with
  | compact => exact ⟨"", isSpaces_nil, rfl⟩
  | spaced | indented => exact ⟨" ", by simp [IsSpaces], rfl⟩

end

/-! ## Trees -/

section
variable {l : Layout} {depth : Nat} {before gap after : Str}

/-- Items that are spelled one by one are spelled as a list; the gap after a comma belongs to the
item that follows. -/
theorem spellsItems_writeList {xs : List Json} (nonempty : xs ≠ [])
    (each : ∀ x ∈ xs, Spells x (x.write l depth).toList) (blank : IsSpaces before.toList)
    (between : IsSpaces gap.toList) (blank' : IsSpaces after.toList) :
    SpellsItems xs
      (before ++ Str.intercalate ("," ++ gap) (writeList l depth xs) ++ after).toList := by
  induction xs generalizing before with
  | nil => exact absurd rfl nonempty
  | cons x xs ih =>
    obtain ⟨first, rest⟩ := List.forall_mem_cons.1 each
    cases xs with
    | nil => simpa [writeList] using SpellsItems.last blank first blank'
    | cons y ys =>
      have more := SpellsItems.more blank first isSpaces_nil (ih (by simp) rest between)
      simpa [writeList] using more

theorem spellsFields_writeFields {fields : List (Str × Json)} (nonempty : fields ≠ [])
    (each : ∀ f ∈ fields, Spells f.2 (f.2.write l depth).toList) (blank : IsSpaces before.toList)
    (between : IsSpaces gap.toList) (blank' : IsSpaces after.toList) :
    SpellsFields fields
      (before ++ Str.intercalate ("," ++ gap) (writeFields l depth fields) ++ after).toList := by
  obtain ⟨space, blank'', colon⟩ := exists_colon l
  induction fields generalizing before with
  | nil => exact absurd rfl nonempty
  | cons f fields ih =>
    obtain ⟨key, x⟩ := f
    obtain ⟨first, rest⟩ := List.forall_mem_cons.1 each
    have named := spellsString_stringText key
    cases fields with
    | nil =>
      have last := SpellsFields.last blank named isSpaces_nil blank'' first blank'
      simpa [writeFields, colon] using last
    | cons g gs =>
      have more := SpellsFields.more blank named isSpaces_nil blank'' first isSpaces_nil
        (ih (by simp) rest between)
      simpa [writeFields, colon] using more

end

theorem spells_arr (l : Layout) (depth : Nat) {xs : List Json}
    (each : ∀ x ∈ xs, ∀ depth, Spells x (x.write l depth).toList) :
    Spells (.arr xs) ((Json.arr xs).write l depth).toList := by
  rw [write]
  by_cases none : xs = []
  · subst none
    simpa [writeList, Layout.enclose] using Spells.nothing isSpaces_nil
  · obtain ⟨before, gap, after, blank, between, blank', enclosed⟩ := exists_enclose l depth
    have items := spellsItems_writeList none (fun x mem => each x mem (depth + 1)) blank between
      blank'
    have some : writeList l (depth + 1) xs ≠ [] := by cases xs <;> simp_all [writeList]
    rw [enclosed _ _ _ some]
    simpa using Spells.arr items

theorem spells_obj (l : Layout) (depth : Nat) {fields : List (Str × Json)}
    (each : ∀ f ∈ fields, ∀ depth, Spells f.2 (f.2.write l depth).toList) :
    Spells (.obj fields) ((Json.obj fields).write l depth).toList := by
  rw [write]
  by_cases none : fields = []
  · subst none
    simpa [writeFields, Layout.enclose] using Spells.empty isSpaces_nil
  · obtain ⟨before, gap, after, blank, between, blank', enclosed⟩ := exists_enclose l depth
    have items := spellsFields_writeFields none (fun f mem => each f mem (depth + 1)) blank between
      blank'
    have some : writeFields l (depth + 1) fields ≠ [] := by cases fields <;> simp_all [writeFields]
    rw [enclosed _ _ _ some]
    simpa using Spells.obj items

theorem spells_write (l : Layout) {j : Json} (finite : j.IsFinite) (depth : Nat) :
    Spells j (j.write l depth).toList := by
  induction finite generalizing depth with
  | null => simpa [write] using Spells.null
  | bool b =>
    cases b with
    | true => simpa [write] using Spells.yes
    | false => simpa [write] using Spells.no
  | int i => simpa [write] using spells_int i
  | float finite => simpa [write] using Spells.float (isNumber_text finite)
  | str s => simpa [write] using Spells.str (spellsString_stringText s)
  | arr _ each => exact spells_arr l depth each
  | obj _ each => exact spells_obj l depth each

/-- What is written is a JSON text for the tree. -/
theorem spells_text (l : Layout) {j : Json} (finite : j.IsFinite) : Spells j (j.text l).toList :=
  spells_write l finite 0

/-! ## Numbers that are not finite -/

/-- What a number is written with. -/
def IsNumberChar (c : Char) : Prop :=
  c.isDigit = true ∨ c = '-' ∨ c = '+' ∨ c = '.' ∨ c = 'e' ∨ c = 'E'

theorem isNumberChar_of_mem {cs : List Char} (number : IsNumber cs) : ∀ c ∈ cs, IsNumberChar c := by
  obtain ⟨signed, whole, fraction, exponent⟩ := number
  intro c mem
  simp only [List.mem_append] at mem
  rcases mem with ((mem | mem) | mem) | mem
  · rcases signed with rfl | rfl
    · cases mem
    · exact .inr (.inl (List.mem_singleton.1 mem))
  · exact .inl (whole.1.2 c mem)
  · cases fraction with
    | none => cases mem
    | point digits =>
      rcases List.mem_cons.1 mem with rfl | mem
      · simp [IsNumberChar]
      · exact .inl (digits.2 c mem)
  · cases exponent with
    | none => cases mem
    | mark letter signed digits =>
      simp only [List.cons_append, List.mem_cons, List.mem_append] at mem
      rcases mem with rfl | mem | mem
      · rcases letter with rfl | rfl <;> simp [IsNumberChar]
      · rcases signed with rfl | rfl | rfl <;> simp_all [IsNumberChar]
      · exact .inl (digits.2 c mem)

theorem isFinite_of_isNumber {x : Binary64} (number : IsNumber (DecimalFormat.json.text x).toList) :
    x.IsFinite := by
  have chars := isNumberChar_of_mem number
  unfold DecimalFormat.text at chars
  cases known : x.read with
  | nan =>
    rw [known] at chars
    have letter := chars 'N' (by simp [DecimalFormat.json])
    revert letter
    simp [IsNumberChar]
  | infinite negative =>
    rw [known] at chars
    have letter := chars 'I' (by simp [DecimalFormat.json])
    revert letter
    simp [IsNumberChar]
  | finite negative significand exponent => exact ⟨negative, significand, exponent, known⟩

mutual

/-- There is no text for a tree with a number that is not finite. -/
theorem isFinite_of_spells : ∀ {j : Json} {cs : List Chr}, Spells j cs → j.IsFinite
  | _, _, .null => .null
  | _, _, .yes => .bool true
  | _, _, .no => .bool false
  | _, _, .int _ => .int _
  | _, _, .float number => .float (isFinite_of_isNumber number)
  | _, _, .str _ => .str _
  | _, _, .nothing _ => .arr nofun
  | _, _, .arr items => .arr (isFinite_of_spellsItems items)
  | _, _, .empty _ => .obj nofun
  | _, _, .obj items => .obj (isFinite_of_spellsFields items)

theorem isFinite_of_spellsItems : ∀ {xs : List Json} {cs : List Chr}, SpellsItems xs cs →
    ∀ x ∈ xs, x.IsFinite
  | _, _, .last _ item _ => List.forall_mem_singleton.2 (isFinite_of_spells item)
  | _, _, .more _ item _ items =>
    List.forall_mem_cons.2 ⟨isFinite_of_spells item, isFinite_of_spellsItems items⟩

theorem isFinite_of_spellsFields : ∀ {fields : List (Str × Json)} {cs : List Chr},
    SpellsFields fields cs → ∀ f ∈ fields, f.2.IsFinite
  | _, _, .last _ _ _ _ item _ => List.forall_mem_singleton.2 (isFinite_of_spells item)
  | _, _, .more _ _ _ _ item _ items =>
    List.forall_mem_cons.2 ⟨isFinite_of_spells item, isFinite_of_spellsFields items⟩

end

end BoundQuery.Json
