import BoundQuery.Document.Section
import BoundQuery.Proofs.Result
import BoundQuery.Proofs.Statement.Rows

/-!
# Documents with their keys in another order

Two documents are the same but for the order of keys: of their sections, and inside the mappings
that joins, conditions on groups, sort entries, nodes and relationships are given by. Filters, rows,
assignments and properties are left as they are, for there the order of keys is one of columns, of
conditions or of parameters.

A document is read key by key, and under each key both documents hold the same value or values that
again differ in the order of keys.

## Main definitions

* `Document.Rearranged` — mappings with the same keys in any order, and related values.
* `Document.Reordered` — the same value, or such mappings.
* `Document.sectionOrder` — where the order of keys may differ below a section of a document.

## Main statements

* `Document.Rearranged.field?` — what both mappings hold under a key.
-/

namespace BoundQuery.Document

/-- What may differ between the values of each key. -/
abbrev KeyRelation := Str → Value → Value → Prop

/-- The relation of a key; the values of a key that is no text are equal. -/
def KeyRelation.at (R : KeyRelation) : Value → Value → Value → Prop
  | .text t => R t.spelling
  | _ => Eq

/-- The second mapping has the keys of the first one, in any order, and under each key a value that
is related to the first one's. -/
structure Rearranged (R : KeyRelation) (entries entries' : Entries) : Prop where
  mapping : Row.IsMapping entries
  permuted : ∃ permuted, entries.Perm permuted ∧
    List.Forall₂ (fun e e' => e.1 = e'.1 ∧ R.at e.1 e.2 e'.2) permuted entries'

/-- The same value, or a mapping that has been rearranged. -/
inductive Reordered (R : KeyRelation) : Value → Value → Prop
  | same (v : Value) : Reordered R v v
  | map {entries entries' : Entries} (rearranged : Rearranged R entries entries') :
      Reordered R (.map entries) (.map entries')

/-- The same value, or a list of related elements. -/
inductive Elementwise (S : Value → Value → Prop) : Value → Value → Prop
  | same (v : Value) : Elementwise S v v
  | list {xs ys : List Value} (each : List.Forall₂ S xs ys) : Elementwise S (.list xs) (.list ys)
  | tuple {xs ys : List Value} (each : List.Forall₂ S xs ys) :
      Elementwise S (.tuple xs) (.tuple ys)

/-! ## What may differ in a document -/

/-- A mapping with its keys in another order. -/
def entryOrder : Value → Value → Prop :=
  Reordered fun _ => Eq

/-- What may differ in a node or relationship. -/
def elementKeys : KeyRelation := fun key =>
  match key.string? with
  | some "node" | some "rel" => entryOrder
  | _ => Eq

/-- A node or relationship with its keys, or those of its fields, in another order. -/
def elementOrder : Value → Value → Prop :=
  Reordered elementKeys

/-- A pattern whose nodes and relationships have their keys in another order. -/
inductive PatternOrder : Value → Value → Prop
  | element {v w : Value} (h : elementOrder v w) : PatternOrder v w
  | path {xs ys : List Value} (each : List.Forall₂ elementOrder xs ys) :
      PatternOrder (.list xs) (.list ys)

/-- What may differ below a section of a document. -/
def sectionOrder : KeyRelation := fun key =>
  match key.string? with
  | some "joins" | some "having" | some "order_by" => Elementwise entryOrder
  | some "unwind" => entryOrder
  | some "match" | some "optional_match" | some "create" | some "merge" => Elementwise PatternOrder
  | _ => Eq

theorem sectionOrder_refl (key : Str) (v : Value) : sectionOrder key v v := by
  unfold sectionOrder
  generalize key.string? = name
  revert v
  split <;> intro v
  all_goals first | exact .same v | rfl

/-! ## Reading a mapping -/

section
variable {R : KeyRelation} {entries entries' : Entries}

theorem rel_field?_of_forall₂ {key : Str}
    (each : List.Forall₂ (fun e e' => e.1 = e'.1 ∧ R.at e.1 e.2 e'.2) entries entries') :
    Option.Rel (R key) (Value.field? entries key) (Value.field? entries' key) := by
  unfold Value.field?
  induction each with
  | nil => exact .none
  | @cons e e' _ _ first _ ih =>
    obtain ⟨same, related⟩ := first
    rw [List.find?_cons, List.find?_cons, ← same]
    cases there : e.1.isText key with
    | false => exact ih
    | true =>
      obtain ⟨k, v⟩ := e
      cases k with
      | text t =>
        obtain rfl : t.spelling = key := by simpa [Value.isText] using there
        exact .some related
      | _ => cases there

/-- Both mappings have the key or neither has, and they hold related values under it. -/
theorem Rearranged.field? (h : Rearranged R entries entries') (key : Str) :
    Option.Rel (R key) (Value.field? entries key) (Value.field? entries' key) := by
  obtain ⟨permuted, perm, each⟩ := h.permuted
  rw [Insert.field?_eq_of_perm h.mapping perm]
  exact rel_field?_of_forall₂ each

theorem Rearranged.field?_eq (h : Rearranged R entries entries') (key : Str)
    (plain : R key = Eq) :
    Value.field? entries key = Value.field? entries' key := by
  have related := h.field? key
  rw [plain] at related
  generalize Value.field? entries key = v, Value.field? entries' key = w at related ⊢
  cases related with
  | some same => rw [same]
  | none => rfl

theorem Rearranged.field (h : Rearranged R entries entries') (key : Str)
    (refl : ∀ v, R key v v) :
    R key (Value.field entries key) (Value.field entries' key) := by
  have related := h.field? key
  unfold Value.field
  generalize Value.field? entries key = v, Value.field? entries' key = w at related ⊢
  cases related with
  | some both => exact both
  | none => exact refl .null

theorem Rearranged.field_eq (h : Rearranged R entries entries') (key : Str)
    (plain : R key = Eq) :
    Value.field entries key = Value.field entries' key :=
  congrArg (·.getD .null) (h.field?_eq key plain)

theorem Rearranged.isEmpty_eq (h : Rearranged R entries entries') :
    entries.isEmpty = entries'.isEmpty := by
  obtain ⟨permuted, perm, each⟩ := h.permuted
  rw [perm.isEmpty_eq]
  cases each <;> rfl

end

variable {R : KeyRelation} {v w : Value}

/-- A mapping with its entries in another order. -/
theorem Reordered.of_perm {entries entries' : Entries} (refl : ∀ key v, R key v v)
    (mapping : Row.IsMapping entries) (perm : entries.Perm entries') :
    Reordered R (.map entries) (.map entries') := by
  have related : ∀ e ∈ entries', e.1 = e.1 ∧ R.at e.1 e.2 e.2 := by
    rintro ⟨k, v⟩ -
    cases k with
    | text t => exact ⟨rfl, refl t.spelling v⟩
    | _ => exact ⟨rfl, rfl⟩
  exact .map ⟨mapping, entries', perm, List.forall₂_same.2 related⟩

theorem Reordered.isTruthy_eq (h : Reordered R v w) : v.isTruthy = w.isTruthy := by
  cases h with
  | same => rfl
  | map rearranged => exact congrArg not rearranged.isEmpty_eq

/-- Each key is read alike in an entry and in one with its keys in another order. -/
theorem field?_entriesOf_eq (h : entryOrder v w) :
    Value.field? (entriesOf v) = Value.field? (entriesOf w) := by
  cases h with
  | same => rfl
  | map rearranged => exact funext fun key => rearranged.field?_eq key rfl

theorem require_eq (h : entryOrder v w) (key place : Str) :
    require v key place = require w key place := by
  cases h with
  | same => rfl
  | map rearranged => simp only [require, rearranged.field?_eq key rfl]

theorem sortEntry_eq (h : entryOrder v w) : sortEntry v = sortEntry w := by
  cases h with
  | same => rfl
  | map rearranged =>
    have h : entryOrder _ _ := .map rearranged
    simp only [sortEntry, require_eq h, fieldOr, field?_entriesOf_eq h]

/-- The elements of lists whose elements are related. -/
theorem Elementwise.elementsOrNone {S : Value → Value → Prop} (refl : ∀ v, S v v)
    (h : Elementwise S v w) :
    Result.Agree (List.Forall₂ S) v.elementsOrNone w.elementsOrNone := by
  cases h with
  | same =>
    refine (Result.agree_eq _).imp ?_
    rintro xs _ rfl
    exact List.forall₂_same.2 fun x _ => refl x
  | list each | tuple each =>
    cases each with
    | nil => exact .ok .nil
    | cons first rest => exact .ok (.cons first rest)

end BoundQuery.Document
