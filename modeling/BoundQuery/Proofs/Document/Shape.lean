import BoundQuery.Document.Section
import BoundQuery.Proofs.Answer
import BoundQuery.Proofs.Condition.Answers

/-!
# Shapes of sections

A section that counts as given has the shape that its use expects; entries of a section may be data
of any kind, for they are taken apart by checks that refuse what they cannot use.

## Main definitions

* `Document.IfGiven` — a shape, of a section that counts as given.

## Main statements

* `Document.answers_require`, `Document.answers_sortEntry` — mandatory keys of any data.
-/

namespace BoundQuery

open Result

/-! ## Kinds of values -/

namespace Value

def IsString (v : Value) : Prop :=
  ∃ s, v = .str s

def IsList (v : Value) : Prop :=
  ∃ xs, v = .list xs

def IsListOf (P : Value → Prop) (v : Value) : Prop :=
  ∃ xs, v = .list xs ∧ ∀ x ∈ xs, P x

def IsMapping (v : Value) : Prop :=
  ∃ entries, v = .map entries

def IsMappingOf (P : Value × Value → Prop) (v : Value) : Prop :=
  ∃ entries, v = .map entries ∧ ∀ e ∈ entries, P e

/-- What has elements, each of which is data again. -/
theorem IsData.answers_elements {v : Value} (data : v.IsData)
    (shape : v.IsString ∨ v.IsList ∨ v.IsMapping) :
    v.elements.Answers fun xs => ∀ x ∈ xs, x.IsData := by
  have found : ∃ xs, v.elements = .ok xs := by
    rcases shape with ⟨s, rfl⟩ | ⟨xs, rfl⟩ | ⟨entries, rfl⟩ <;> exact ⟨_, rfl⟩
  obtain ⟨xs, found⟩ := found
  rw [found]
  exact .ok (data.elements found)

/-- A text is a list of one text, and a list is itself. -/
theorem answers_asList {v : Value} (shape : v.IsString ∨ v.IsList) :
    v.asList.Answers fun _ => True := by
  rcases shape with ⟨s, rfl⟩ | ⟨xs, rfl⟩ <;> exact .ok trivial

theorem answers_asList_strings {v : Value} (shape : v.IsString ∨ v.IsListOf IsString) :
    v.asList.Answers fun xs => ∀ x ∈ xs, x.IsString := by
  rcases shape with ⟨s, rfl⟩ | ⟨xs, rfl, texts⟩
  · exact .ok (by simp [IsString])
  · exact .ok texts

theorem IsData.field? {entries : List (Value × Value)} {key : Str} {v : Value}
    (data : (Value.map entries).IsData) (h : Value.field? entries key = some v) : v.IsData := by
  cases data with | map _ _ each =>
  obtain ⟨e, found, rfl⟩ := Option.map_eq_some_iff.1 h
  exact each e (List.mem_of_find?_eq_some found)

theorem IsData.field {entries : List (Value × Value)} (data : (Value.map entries).IsData)
    (key : Str) : (Value.field entries key).IsData := by
  unfold Value.field
  cases found : Value.field? entries key with
  | none => exact .null
  | some v => exact data.field? found

end Value

/-- Texts have spellings. -/
theorem answers_spellings {vs : List Value} (texts : ∀ v ∈ vs, v.IsString) (index : Nat) :
    (spellings index vs).Answers fun _ => True := by
  induction vs generalizing index with
  | nil => exact .ok trivial
  | cons v vs ih =>
    obtain ⟨⟨s, rfl⟩, others⟩ := List.forall_mem_cons.1 texts
    exact (ih others (index + 1)).map fun _ _ => trivial

/-! ## Sections -/

namespace Document

/-- A section of the given shape, or one that does not count as given. -/
def IfGiven (shape : Value → Prop) (v : Value) : Prop :=
  v.isTruthy = false ∨ shape v

theorem IfGiven.shape {shape : Value → Prop} {v : Value} (h : IfGiven shape v)
    (given : v.isTruthy = true) : shape v := by
  rcases h with absent | shaped
  · rw [absent] at given
    cases given
  · exact shaped

/-- The elements of a section that is a list if it is given. -/
theorem answers_elementsOrNone {P : Value → Prop} {v : Value} (h : IfGiven (Value.IsListOf P) v) :
    v.elementsOrNone.Answers fun xs => ∀ x ∈ xs, P x := by
  unfold Value.elementsOrNone
  split
  · next given =>
    obtain ⟨xs, rfl, each⟩ := h.shape given
    exact .ok each
  · exact .ok (by simp)

theorem ifGiven_of_isList {v : Value} (data : v.IsData) (h : IfGiven Value.IsList v) :
    IfGiven (Value.IsListOf Value.IsData) v := by
  refine h.imp_right ?_
  rintro ⟨xs, rfl⟩
  exact ⟨xs, rfl, data.elements rfl⟩

theorem ifGiven_of_isListOf {v : Value} {P : Value → Prop} (data : v.IsData)
    (h : IfGiven (Value.IsListOf P) v) : IfGiven (Value.IsListOf fun x => x.IsData ∧ P x) v := by
  refine h.imp_right ?_
  rintro ⟨xs, rfl, each⟩
  exact ⟨xs, rfl, fun x mem => ⟨data.elements rfl x mem, each x mem⟩⟩

theorem ifGiven_of_isMapping {v : Value} (data : v.IsData) (h : IfGiven Value.IsMapping v) :
    IfGiven (Value.IsMappingOf fun e => e.2.IsData) v := by
  refine h.imp_right ?_
  rintro ⟨entries, rfl⟩
  cases data with
  | map _ _ each => exact ⟨entries, rfl, each⟩

theorem ifGiven_of_isMappingOf {v : Value} {P : Value × Value → Prop} (data : v.IsData)
    (h : IfGiven (Value.IsMappingOf P) v) :
    IfGiven (Value.IsMappingOf fun e => e.1.IsString ∧ e.2.IsData ∧ P e) v := by
  refine h.imp_right ?_
  rintro ⟨entries, rfl, holds⟩
  cases data with
  | map keys _ each => exact ⟨entries, rfl, fun e mem => ⟨keys e mem, each e mem, holds e mem⟩⟩

theorem isData_entriesOf {v : Value} (data : v.IsData) : (Value.map (entriesOf v)).IsData := by
  unfold entriesOf
  split
  · exact data
  · exact .map (by simp) (by simp) (by simp)

theorem answers_require_map (entries : Entries) (key place : Str) :
    (require (.map entries) key place).Answers fun v => Value.field? entries key = some v := by
  unfold require
  dsimp only
  split
  · next found => exact .ok found
  · exact .refused rfl

/-- A mandatory key of any data is found or asked for. -/
theorem answers_require {part : Value} (data : part.IsData) (key place : Str) :
    (require part key place).Answers fun v => v.IsData := by
  cases part with
  | map entries =>
    exact (answers_require_map entries key place).imp fun v found => data.field? found
  | _ => exact .refused rfl

theorem answers_sortEntry {entry : Value} (data : entry.IsData) :
    (sortEntry entry).Answers fun _ => True := by
  unfold sortEntry
  split
  · exact .ok trivial
  · exact (answers_require data _ _).bind fun _ _ => .ok trivial

end Document
end BoundQuery
