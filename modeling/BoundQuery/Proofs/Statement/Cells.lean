import BoundQuery.Proofs.Run
import BoundQuery.Proofs.Statement.Direct

/-!
# The cells of an insertion

An insertion takes its cells out of the rows when it is made, after it has found each row to have
all columns. So it could as well wait until it is built: no cell would be missing then.

## Main definitions

* `Insert.builtFrom?` — an insertion that looks its cells up only when it is built.

## Main statements

* `Insert.builtFrom?_after` — looking the cells up late never fails, and gives the same statement.
-/

namespace BoundQuery.Insert

variable {columns : List Text} {es : List (Value × Value)}

theorem found_of_hasColumns (h : hasColumns columns es = true) :
    ∀ column ∈ columns, (Value.field? es column.spelling).isSome = true :=
  List.all_eq_true.1 (Bool.and_eq_true_iff.1 h).2

/-- The first row has the columns that it gives. -/
theorem found_of_columns (h : es.mapM (fun e => Name.plain "column name" e.1) = .ok columns) :
    ∀ column ∈ columns, (Value.field? es column.spelling).isSome = true := by
  intro column mem
  obtain ⟨e, inEntries, gate⟩ := Result.exists_of_mem_mapM h mem
  have key := (Name.gate_eq_ok gate).1
  rw [Value.field?, Option.isSome_map, List.find?_isSome]
  exact ⟨e, inEntries, by simp [key, Value.isText]⟩

theorem found_of_laterRows {index : Nat} {rows : List Value} {later : List (List Value)}
    (h : laterRows columns index rows = .ok later) :
    ∀ row ∈ rows, ∀ column ∈ columns, (Value.field? row.entries column.spelling).isSome = true := by
  induction rows generalizing index later with
  | nil => simp
  | cons row rows ih =>
    obtain ⟨entries, read, h⟩ := Result.bind_eq_ok.1 h
    split at h
    · next columned =>
      obtain ⟨rest, others, _⟩ := Result.bind_eq_ok.1 h
      cases row with
      | map entries =>
        cases read
        exact List.forall_mem_cons.2 ⟨found_of_hasColumns columned, ih others⟩
      | _ => cases read
    · cases h

/-- Each row that an insertion is made of has all columns. -/
theorem found_of_make {table data : Value} {s : Insert} (made : make table data = .ok s) :
    ∀ row ∈ rowsGiven data, ∀ column ∈ s.columns,
      (Value.field? row column.spelling).isSome = true := by
  obtain ⟨name, _, made⟩ := Result.bind_eq_ok.1 made
  obtain ⟨rows, listed, made⟩ := Result.bind_eq_ok.1 made
  split at made
  · cases made
  · next first rest =>
    obtain ⟨entries, read, made⟩ := Result.bind_eq_ok.1 made
    obtain ⟨columns, gates, made⟩ := Result.bind_eq_ok.1 made
    dsimp only at made
    split at made
    · cases made
    · obtain ⟨later, others, same⟩ := Result.bind_eq_ok.1 made
      cases same
      rw [rowsGiven_of_rowsOf listed read]
      refine List.forall_mem_cons.2 ⟨found_of_columns gates, fun row mem => ?_⟩
      obtain ⟨v, inRest, rfl⟩ := List.mem_map.1 mem
      exact found_of_laterRows others v inRest

/-! ## Looking cells up late -/

/-- The cells of a row, unless a column is missing in it. -/
def lookedUp? (columns : List Text) (row : List (Value × Value)) : Option (List Value) :=
  columns.mapM fun column => Value.field? row column.spelling

/-- What is built when the cells are looked up in the rows only then. -/
def builtFrom? (s : Insert) (rows : List (List (Value × Value))) : Option SqlQuery :=
  (rows.mapM (lookedUp? s.columns)).map fun rows => build { s with rows }

theorem lookedUp?_of_found
    (found : ∀ column ∈ columns, (Value.field? es column.spelling).isSome = true) :
    lookedUp? columns es = some (cells columns es) := by
  refine Result.mapM_of_some fun column mem => ?_
  obtain ⟨v, there⟩ := Option.isSome_iff_exists.1 (found column mem)
  rw [Value.field, there]
  rfl

/-- Calls on an insertion change only the fields that it returns. -/
theorem after_eq (s : Insert) (calls : List Call) :
    Run.after step s calls = { s with returning := (Run.after step s calls).returning } := by
  induction calls generalizing s with
  | nil => rfl
  | cons call calls ih => exact ih (s.step call).1

/-- No cell is missing when an insertion is built, whatever has been called before. -/
theorem builtFrom?_after {table data : Value} {s : Insert} (made : make table data = .ok s)
    (calls : List Call) :
    (Run.after step s calls).builtFrom? (rowsGiven data) = some (Run.after step s calls).build := by
  have found : (rowsGiven data).mapM (lookedUp? s.columns) = some s.rows := by
    rw [rows_of_make made]
    exact Result.mapM_of_some fun row mem => lookedUp?_of_found (found_of_make made row mem)
  rw [after_eq]
  simp only [builtFrom?, found]
  rfl

end BoundQuery.Insert
