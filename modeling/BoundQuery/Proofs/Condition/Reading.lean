import BoundQuery.Condition.Filter
import BoundQuery.Proofs.Condition.Membership
import BoundQuery.Proofs.Result

/-!
# Reading filters

A filter is read field by field. The only thing that cannot be read is a mapping of `$` keys of
which one has no meaning; a mapping that has other keys too is a value to be equal to. What is read
of a field is at least one comparison.

## Main definitions

* `Comparator.HasUnknownKey` — what cannot be read.

## Main statements

* `Comparator.isRefused_ofSpec_iff`, `Filter.isRefused_ofEntries_iff` — when reading fails.
* `Filter.agree_ofEntries_mapM` — what is made of each comparison of a filter can be made field by
  field.
-/

namespace BoundQuery

open Result (Agree IsRefused)

namespace Comparator

/-- The `$` keys that have a meaning. -/
def keys : List Str :=
  ["$null", "$eq", "$ne", "$lt", "$lte", "$gt", "$gte", "$like", "$ilike", "$in", "$nin",
    "$contains", "$startsWith", "$endsWith"]

/-- Whether a value is a text that starts with `$`. -/
def IsNamed (key : Value) : Prop :=
  ∃ t : Text, key = .text t ∧ t.chars.head? = some (.scalar '$')

/-- A mapping of `$` keys alone, of which one has no meaning. -/
def HasUnknownKey (spec : Value) : Prop :=
  ∃ entries, spec = .map entries ∧ (∀ e ∈ entries, IsNamed e.1) ∧
    ∃ key operand, (.text key, operand) ∈ entries ∧ key.spelling ∉ keys

theorem ofKey?_eq_none_iff {key : Str} (named : key ≠ "$null") :
    ofKey? key = none ↔ key ∉ keys := by
  fun_cases ofKey? key <;> simp_all [keys, Str.string?_eq_some_iff]

theorem isRefused_ofEntry_iff {key : Text} {operand : Value} :
    (ofEntry key operand).IsRefused ↔ key.spelling ∉ keys := by
  unfold ofEntry
  by_cases null : key.spelling = "$null"
  · simp [null, keys, IsRefused]
  · rw [← ofKey?_eq_none_iff null]
    cases ofKey? key.spelling <;> simp [null, IsRefused]

/-! ## Lists and mappings -/

theorem ofSpec_of_listed? {v : Value} {xs : List Value} (h : v.listed? = some xs) :
    ofSpec v = .ok [⟨.oneOf, .list xs⟩] := by
  cases v <;> cases h <;> rfl

theorem eq_of_namedEntries? {entries : List (Value × Value)} {named : List (Text × Value)}
    (h : namedEntries? entries = some named) :
    entries = named.map (fun e => (.text e.1, e.2)) ∧
      ∀ e ∈ named, e.1.chars.head? = some (.scalar '$') := by
  fun_induction namedEntries? entries generalizing named with
  | case1 =>
    cases h
    simp
  | case2 key operand rest dollar ih =>
    obtain ⟨others, read, rfl⟩ := Option.map_eq_some_iff.1 h
    obtain ⟨rfl, each⟩ := ih read
    exact ⟨rfl, List.forall_mem_cons.2 ⟨by simpa using dollar, each⟩⟩
  | case3 => cases h
  | case4 => cases h

theorem exists_namedEntries?_iff {entries : List (Value × Value)} :
    (∃ named, namedEntries? entries = some named) ↔ ∀ e ∈ entries, IsNamed e.1 := by
  constructor
  · rintro ⟨named, read⟩ e mem
    obtain ⟨rfl, dollar⟩ := eq_of_namedEntries? read
    obtain ⟨n, inside, rfl⟩ := List.mem_map.1 mem
    exact ⟨n.1, rfl, dollar n inside⟩
  · intro each
    induction entries with
    | nil => exact ⟨[], rfl⟩
    | cons e rest ih =>
      obtain ⟨key, operand⟩ := e
      obtain ⟨⟨t, rfl, dollar⟩, others⟩ := List.forall_mem_cons.1 each
      obtain ⟨named, read⟩ := ih others
      exact ⟨(t, operand) :: named, by simp [namedEntries?, dollar, read]⟩

theorem ofSpec_of_named {es : List (Value × Value)} {ns : List (Text × Value)} (nonempty : es ≠ [])
    (h : namedEntries? es = some ns) :
    ofSpec (.map es) = ns.mapM fun (key, operand) => ofEntry key operand := by
  obtain ⟨e, es, rfl⟩ := List.exists_cons_of_ne_nil nonempty
  simp only [ofSpec, h]

theorem ofSpec_of_unnamed {es : List (Value × Value)} (h : namedEntries? es = none) :
    ofSpec (.map es) = .ok [⟨.eq, .map es⟩] := by
  cases es with
  | nil => rfl
  | cons e es => simp only [ofSpec, h]

theorem not_hasUnknownKey_empty : ¬ HasUnknownKey (.map []) := by
  rintro ⟨entries, same, _, key, operand, mem, _⟩
  cases same
  cases mem

/-- Reading fails for nothing but a `$` key without a meaning. -/
theorem isRefused_ofSpec_iff {spec : Value} : (ofSpec spec).IsRefused ↔ HasUnknownKey spec := by
  cases spec with
  | map entries =>
    cases read : namedEntries? entries with
    | none =>
      rw [ofSpec_of_unnamed read]
      refine iff_of_false (Result.not_isRefused_ok _) ?_
      rintro ⟨_, ⟨⟩, named, _⟩
      obtain ⟨found, read'⟩ := exists_namedEntries?_iff.2 named
      rw [read] at read'
      cases read'
    | some named =>
      by_cases nonempty : entries = []
      · subst nonempty
        exact iff_of_false (Result.not_isRefused_ok _) not_hasUnknownKey_empty
      · have dollar := exists_namedEntries?_iff.1 ⟨named, read⟩
        obtain ⟨same, _⟩ := eq_of_namedEntries? read
        rw [ofSpec_of_named nonempty read, Result.isRefused_mapM_iff]
        constructor
        · rintro ⟨⟨key, operand⟩, mem, unknown⟩
          refine ⟨entries, rfl, dollar, key, operand, ?_, isRefused_ofEntry_iff.1 unknown⟩
          rw [same]
          exact List.mem_map.2 ⟨(key, operand), mem, rfl⟩
        · rintro ⟨_, ⟨⟩, _, key, operand, mem, unknown⟩
          rw [same] at mem
          obtain ⟨⟨key', operand'⟩, inside, ⟨⟩⟩ := List.mem_map.1 mem
          exact ⟨_, inside, isRefused_ofEntry_iff.2 unknown⟩
  | _ =>
    refine iff_of_false (Result.not_isRefused_ok _) ?_
    rintro ⟨_, ⟨⟩, _⟩

/-- What is read of a field is at least one comparison. -/
theorem ne_nil_of_ofSpec {spec : Value} {cs : List Comparator} (h : ofSpec spec = .ok cs) :
    cs ≠ [] := by
  rintro rfl
  cases spec with
  | map entries =>
    cases read : namedEntries? entries with
    | none =>
      rw [ofSpec_of_unnamed read] at h
      cases h
    | some named =>
      cases entries with
      | nil => cases h
      | cons e rest =>
        rw [ofSpec_of_named (List.cons_ne_nil e rest) read] at h
        obtain ⟨same, _⟩ := eq_of_namedEntries? read
        rw [List.forall₂_nil_right_iff.1 (Result.mapM_eq_ok.1 h)] at same
        cases same
  | _ => cases h

end Comparator

/-! ## Filters -/

namespace Filter

variable {κ : Type}

theorem isRefused_ofEntries_iff {entries : List (Value × Value)} :
    (ofEntries entries).IsRefused ↔ ∃ e ∈ entries, Comparator.HasUnknownKey e.2 := by
  induction entries with
  | nil => simp [ofEntries, IsRefused]
  | cons e entries ih =>
    obtain ⟨field, spec⟩ := e
    rw [List.exists_mem_cons_iff, ← ih, ← Comparator.isRefused_ofSpec_iff, ofEntries]
    cases Comparator.ofSpec spec with
    | error fault => simp [bind, Except.bind, IsRefused]
    | ok cs => cases ofEntries entries <;> simp [bind, Except.bind, pure, Except.pure, IsRefused]

/-- What is made of the comparisons of one field. -/
def madeOf (make : Value × Comparator → Result κ) (entry : Value × Value) : Result (List κ) := do
  (← Comparator.ofSpec entry.2).mapM fun c => make (entry.1, c)

/-- What is made of all comparisons after the whole filter has been read can be made field by
field. -/
theorem agree_ofEntries_mapM (make : Value × Comparator → Result κ)
    (entries : List (Value × Value)) :
    Agree Eq (ofEntries entries >>= (·.mapM make))
      ((entries.mapM (madeOf make)).map List.flatten) := by
  rw [Result.agree_eq_iff]
  induction entries with
  | nil => exact fun _ => Iff.rfl
  | cons e entries ih =>
    intro made
    simp only [ofEntries, Result.bind_eq_ok, Result.map_eq_ok, List.mapM_cons] at ih ⊢
    constructor
    · rintro ⟨pairs, ⟨cs, read, others, readOthers, ⟨⟩⟩, each⟩
      obtain ⟨here, rest, first, last, rfl⟩ := Result.mapM_append_eq_ok.1 each
      obtain ⟨groups, grouped, rfl⟩ := (ih rest).1 ⟨others, readOthers, last⟩
      rw [List.mapM_map] at first
      refine ⟨here :: groups, ⟨here, ?_, groups, grouped, rfl⟩, rfl⟩
      exact Result.bind_eq_ok.2 ⟨cs, read, first⟩
    · rintro ⟨_, ⟨here, first, groups, grouped, ⟨⟩⟩, rfl⟩
      obtain ⟨cs, read, first⟩ := Result.bind_eq_ok.1 first
      obtain ⟨others, readOthers, last⟩ := (ih groups.flatten).2 ⟨groups, grouped, rfl⟩
      refine ⟨_, ⟨cs, read, others, readOthers, rfl⟩, ?_⟩
      refine Result.mapM_append_eq_ok.2 ⟨here, groups.flatten, ?_, last, rfl⟩
      rw [List.mapM_map]
      exact first

end Filter
end BoundQuery
