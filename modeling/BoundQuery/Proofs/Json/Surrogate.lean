import BoundQuery.Json.Text
import BoundQuery.Proofs.Json.Tree

/-!
# Surrogates

A text has bytes unless a surrogate stands in it. What is written of a value repeats the code points
of its texts, of keys as of values, so the canonical text of a value has bytes unless a surrogate
stands somewhere in the value.

## Main definitions

* `Str.HasSurrogate`, `Value.HasSurrogate` — texts and values in which a surrogate stands.

## Main statements

* `Json.hasSurrogate_canonical_iff` — the canonical text has the surrogates of the value.
* `Json.canonicalBytes_eq` — the canonical bytes of a value, unless it has a surrogate.
-/

namespace BoundQuery

namespace Str

variable {s t : Str} {l : List Str}

def HasSurrogate (s : Str) : Prop :=
  ∃ unit, .lone unit ∈ s.toList

@[simp] theorem hasSurrogate_append :
    (s ++ t).HasSurrogate ↔ s.HasSurrogate ∨ t.HasSurrogate := by
  simp [HasSurrogate, exists_or]

@[simp] theorem not_hasSurrogate_of (s : String) : ¬(of s).HasSurrogate := by
  simp [HasSurrogate]

@[simp] theorem not_hasSurrogate_ofInt (i : Int) : ¬(ofInt i).HasSurrogate := by
  rw [ofInt, hasSurrogate_append]
  split <;> simp [HasSurrogate, Chr.digits]

theorem hasSurrogate_intercalate (separator : String) :
    (intercalate separator l).HasSurrogate ↔ ∃ s ∈ l, s.HasSurrogate := by
  induction l with
  | nil => simp
  | cons s l ih =>
    cases l with
    | nil => simp
    | cons t l => simp [ih]

/-- A text is a string of characters unless it has a surrogate. -/
theorem string?_eq_none_iff : s.string? = none ↔ s.HasSurrogate := by
  rw [string?, Option.map_eq_none_iff, HasSurrogate]
  induction s.toList with
  | nil => simp
  | cons c cs ih =>
    cases c with
    | scalar c =>
      cases rest : cs.mapM Chr.char? <;> simp_all
    | lone unit => simp [Chr.char?]

theorem exists_string?_of_not_hasSurrogate (proper : ¬s.HasSurrogate) :
    ∃ t : String, s = t ∧ s.string? = some t := by
  obtain ⟨t, there⟩ := Option.ne_none_iff_exists'.1 (mt string?_eq_none_iff.1 proper)
  exact ⟨t, string?_eq_some_iff.1 there, there⟩

end Str

/-- A surrogate stands in a text of the value, be it a key. -/
inductive Value.HasSurrogate : Value → Prop
  | str {s : Str} (here : s.HasSurrogate) : HasSurrogate (.str s)
  | list {xs : List Value} {x : Value} (mem : x ∈ xs) (here : HasSurrogate x) :
      HasSurrogate (.list xs)
  | key {entries : List (Value × Value)} {e : Value × Value} (mem : e ∈ entries)
      (here : HasSurrogate e.1) : HasSurrogate (.map entries)
  | value {entries : List (Value × Value)} {e : Value × Value} (mem : e ∈ entries)
      (here : HasSurrogate e.2) : HasSurrogate (.map entries)

namespace Value

variable {entries : List (Value × Value)} {fields : List (Str × Value)}

@[simp] theorem not_hasSurrogate_bool (b : Bool) : ¬(bool b).HasSurrogate :=
  nofun

@[simp] theorem not_hasSurrogate_int (i : Int) : ¬(int i).HasSurrogate :=
  nofun

@[simp] theorem hasSurrogate_str_iff {s : Str} : (str s).HasSurrogate ↔ s.HasSurrogate := by
  constructor
  · rintro ⟨here⟩
    exact here
  · exact .str

@[simp] theorem hasSurrogate_list_iff {xs : List Value} :
    (list xs).HasSurrogate ↔ ∃ x ∈ xs, x.HasSurrogate := by
  constructor
  · rintro (_ | ⟨mem, here⟩)
    exact ⟨_, mem, here⟩
  · rintro ⟨x, mem, here⟩
    exact .list mem here

@[simp] theorem hasSurrogate_map_iff :
    (map entries).HasSurrogate ↔ ∃ e ∈ entries, e.1.HasSurrogate ∨ e.2.HasSurrogate := by
  constructor
  · rintro (_ | _ | ⟨mem, here⟩ | ⟨mem, here⟩)
    · exact ⟨_, mem, .inl here⟩
    · exact ⟨_, mem, .inr here⟩
  · rintro ⟨e, mem, here | here⟩
    · exact .key mem here
    · exact .value mem here

@[simp] theorem hasSurrogate_record_iff :
    (record fields).HasSurrogate ↔ ∃ f ∈ fields, f.1.HasSurrogate ∨ f.2.HasSurrogate := by
  simp only [record, hasSurrogate_map_iff, List.mem_map, exists_exists_and_eq_and,
    hasSurrogate_str_iff]

end Value

namespace Json

variable {number : Binary64 → Prop} {v : Value}

theorem lone_mem_escapeChar_iff {unit : Fin 0x800} {c : Chr} :
    .lone unit ∈ escapeChar c ↔ c = .lone unit := by
  cases c with
  | scalar c =>
    unfold escapeChar
    split_ifs <;> simp [Chars.hex]
  | lone unit' =>
    have high : 0xd800 ≤ (Chr.lone unit').toNat := Nat.le_add_right ..
    have plain : escapeChar (.lone unit') = [.lone unit'] := by
      unfold escapeChar
      split_ifs <;> simp_all
      all_goals omega
    simp [plain, eq_comm]

theorem hasSurrogate_stringText_iff {s : Str} : (stringText s).HasSurrogate ↔ s.HasSurrogate := by
  simp [stringText, Str.HasSurrogate, lone_mem_escapeChar_iff]

theorem hasSurrogate_enclose_iff (left right : String) (depth : Nat) (items : List Str) :
    (Layout.compact.enclose left right depth items).HasSurrogate ↔ ∃ s ∈ items, s.HasSurrogate := by
  unfold Layout.enclose
  split
  · next none => simp_all
  · simp [Str.hasSurrogate_intercalate]

theorem writeList_eq (l : Layout) (depth : Nat) (xs : List Json) :
    writeList l depth xs = xs.map (write l depth) := by
  induction xs with
  | nil => rfl
  | cons x xs ih => rw [writeList, ih, List.map_cons]

theorem writeFields_eq (l : Layout) (depth : Nat) (fields : List (Str × Json)) :
    writeFields l depth fields =
      fields.map fun f => stringText f.1 ++ l.colon ++ write l depth f.2 := by
  induction fields with
  | nil => rfl
  | cons f fields ih => rw [writeFields, ih, List.map_cons]

/-- What is written of a value has its surrogates. -/
theorem hasSurrogate_write_iff (h : v.IsJson number) (depth : Nat) :
    ((tree v).write .compact depth).HasSurrogate ↔ v.HasSurrogate := by
  induction h generalizing depth with
  | null | float _ => exact iff_of_false (Str.not_hasSurrogate_of _) nofun
  | bool b => cases b <;> exact iff_of_false (Str.not_hasSurrogate_of _) (by simp)
  | int i => exact iff_of_false (Str.not_hasSurrogate_ofInt i) (by simp)
  | str s => exact hasSurrogate_stringText_iff.trans Value.hasSurrogate_str_iff.symm
  | @list xs _ ih =>
    rw [tree, treeList_eq, write, hasSurrogate_enclose_iff, writeList_eq, List.map_map,
      Value.hasSurrogate_list_iff]
    simp only [List.mem_map, exists_exists_and_eq_and]
    exact exists_congr fun x => and_congr_right fun mem => ih x mem _
  | @map entries keys _ _ ih =>
    rw [tree, treeEntries_eq, write, hasSurrogate_enclose_iff, writeFields_eq,
      Value.hasSurrogate_map_iff]
    simp only [List.mem_map, List.mem_insertionSort, exists_exists_and_eq_and]
    refine exists_congr fun e => and_congr_right fun mem => ?_
    obtain ⟨s, key⟩ := keys e mem
    rw [Str.hasSurrogate_append, Str.hasSurrogate_append, hasSurrogate_stringText_iff, treeField,
      ih e mem, key]
    simp [Layout.colon, Value.keyName, Text.spelling]

theorem canonical_eq (h : v.IsJson number) : canonical v = .ok ((tree v).text .compact) := by
  rw [canonical, ofValue_eq_tree h]
  rfl

/-- A value without surrogates has canonical bytes, those of its text. -/
theorem canonicalBytes_eq (h : v.IsJson number) (proper : ¬v.HasSurrogate) :
    ∃ t : String, (tree v).text .compact = t ∧ canonicalBytes v = .ok t.toUTF8 := by
  obtain ⟨t, same, there⟩ := Str.exists_string?_of_not_hasSurrogate
    (mt (hasSurrogate_write_iff h 0).1 proper)
  refine ⟨t, same, ?_⟩
  rw [canonicalBytes, canonical_eq h]
  change bytes ((tree v).write .compact 0) = _
  rw [bytes, there]

/-- A value with a surrogate has none. -/
theorem canonicalBytes_eq_error (h : v.IsJson number) (surrogate : v.HasSurrogate) :
    canonicalBytes v = .error (.encoding ((tree v).text .compact)) := by
  have missing := Str.string?_eq_none_iff.2 ((hasSurrogate_write_iff h 0).2 surrogate)
  rw [canonicalBytes, canonical_eq h]
  change bytes ((tree v).write .compact 0) = _
  rw [bytes, missing]
  rfl

end Json
end BoundQuery
