import BoundQuery.Proofs.Name.Gates
import BoundQuery.Proofs.Statement.Cells
import BoundQuery.Proofs.Statement.Direct
import BoundQuery.Proofs.Statement.Numbering
import BoundQuery.Proofs.Run
import Mathlib.Data.List.Sort

/-!
# Rows of an insertion

An insertion takes rows that all have the keys of the first. Every value then stands in the text,
and among the parameters, at the place that its row and its column give, whatever the order of the
keys in its row.

## Main definitions

* `Row.IsMapping`, `Row.SameKeys` — rows as mappings, and mappings with the same keys.
* `Insert.Gives`, `Insert.IsHeader` — the rows of some data, and the columns of the first.
* `Insert.Aligned` — a statement in which each value has the place of its row and its column.

## Main statements

* `Insert.make_eq_of_header`, `Insert.make_of_mismatch` — what is made of rows with the same keys,
  and which row is refused when they have not.
* `Insert.aligned_build` — what is built is aligned.
* `Insert.aligned_of_rows` — which rows are accepted, and what is built from them.
-/

namespace BoundQuery

/-- A row as it is given: a value under each key. -/
abbrev Row := List (Value × Value)

namespace Row

/-- No two entries have the same key. -/
def IsMapping (row : Row) : Prop :=
  row.Pairwise fun e f => e.1.sameKey f.1 = false

/-- The same keys, in any order. -/
structure SameKeys (row row' : Row) : Prop where
  left : ∀ e ∈ row, ∃ f ∈ row', e.1.sameKey f.1 = true
  right : ∀ f ∈ row', ∃ e ∈ row, e.1.sameKey f.1 = true

/-- The texts among the keys of a row. -/
def names (row : Row) : List Str :=
  row.filterMap fun e => e.1.spelling?

theorem sameKey_text (v : Value) (t : Text) : v.sameKey (.text t) = v.isText t.spelling := by
  cases v <;> simp [Value.sameKey, Value.isText, Value.measure?]

theorem length_names_le (row : Row) : row.names.length ≤ row.length :=
  List.length_filterMap_le _ row

theorem spelling?_eq_some {v : Value} {s : Str} :
    v.spelling? = some s ↔ v.isText s = true := by
  cases v <;> simp [Value.spelling?, Value.isText]

theorem mem_names {row : Row} {s : Str} : s ∈ names row ↔ ∃ e ∈ row, e.1.isText s = true := by
  rw [names, List.mem_filterMap]
  exact exists_congr fun e => and_congr_right fun _ => spelling?_eq_some

theorem isSome_field?_iff {row : Row} {s : Str} :
    (Value.field? row s).isSome = true ↔ s ∈ names row := by
  rw [Value.field?, Option.isSome_map, List.find?_isSome, mem_names]

theorem sameKey_of_isText {v w : Value} {s : Str} (left : v.isText s = true)
    (right : w.isText s = true) : v.sameKey w = true := by
  cases w with
  | text t =>
    rw [sameKey_text]
    simpa [Value.isText] using (beq_iff_eq.1 right : t.spelling = s) ▸ left
  | _ => cases right

theorem IsMapping.nodup_names {row : Row} (h : row.IsMapping) : row.names.Nodup := by
  refine List.Pairwise.filterMap _ (fun e f apart s hs t ht same => ?_) h
  subst same
  have equal := sameKey_of_isText (spelling?_eq_some.1 hs) (spelling?_eq_some.1 ht)
  rw [apart] at equal
  cases equal

end Row

namespace Insert

/-- The columns that the first row gives: at least one, and all of them plain names. -/
structure IsHeader (columns : List Text) (first : Row) : Prop where
  nonempty : columns ≠ []
  plain : ∀ column ∈ columns, Name.isPlain column.chars = true
  keys : first.map Prod.fst = columns.map .text

section
variable {columns : List Text} {first row : Row}

theorem IsHeader.names_eq (h : IsHeader columns first) :
    first.names = columns.map Text.spelling := by
  have keys : first.names = (first.map Prod.fst).filterMap Value.spelling? := by
    rw [List.filterMap_map]
    rfl
  rw [keys, h.keys, List.filterMap_map]
  exact congrFun List.filterMap_eq_map columns

theorem hasColumns_iff_names : hasColumns columns row = true ↔
    row.length = columns.length ∧ columns.map Text.spelling ⊆ row.names := by
  simp [hasColumns, Row.isSome_field?_iff, List.subset_def]

theorem IsHeader.sameKeys_iff (h : IsHeader columns first) : row.SameKeys first ↔
    (∀ e ∈ row, ∃ s ∈ first.names, e.1.isText s = true) ∧ first.names ⊆ row.names := by
  have texts : ∀ f ∈ first, ∃ t, f.1 = .text t := by
    intro f mem
    have key : f.1 ∈ columns.map Value.text := h.keys ▸ List.mem_map_of_mem mem
    obtain ⟨t, _, same⟩ := List.mem_map.1 key
    exact ⟨t, same.symm⟩
  constructor
  · rintro ⟨left, right⟩
    refine ⟨fun e mem => ?_, fun s mem => ?_⟩
    · obtain ⟨f, inFirst, same⟩ := left e mem
      obtain ⟨t, key⟩ := texts f inFirst
      rw [key, Row.sameKey_text] at same
      exact ⟨t.spelling, Row.mem_names.2 ⟨f, inFirst, by simp [key, Value.isText]⟩, same⟩
    · obtain ⟨f, inFirst, named⟩ := Row.mem_names.1 mem
      obtain ⟨e, inRow, same⟩ := right f inFirst
      obtain ⟨t, key⟩ := texts f inFirst
      rw [key] at named same
      rw [Row.sameKey_text] at same
      exact Row.mem_names.2 ⟨e, inRow, (beq_iff_eq.1 named : t.spelling = s) ▸ same⟩
  · rintro ⟨left, right⟩
    refine ⟨fun e mem => ?_, fun f mem => ?_⟩
    · obtain ⟨s, inFirst, named⟩ := left e mem
      obtain ⟨f, there, named'⟩ := Row.mem_names.1 inFirst
      exact ⟨f, there, Row.sameKey_of_isText named named'⟩
    · obtain ⟨t, key⟩ := texts f mem
      have named : f.1.isText t.spelling = true := by simp [key, Value.isText]
      obtain ⟨e, there, named'⟩ := Row.mem_names.1 (right (Row.mem_names.2 ⟨f, mem, named⟩))
      exact ⟨e, there, Row.sameKey_of_isText named' named⟩

/-- A row has the columns when it has the keys of the row that gives them. -/
theorem IsHeader.hasColumns_iff (h : IsHeader columns first) (mapping : first.IsMapping)
    (mapping' : row.IsMapping) : hasColumns columns row = true ↔ row.SameKeys first := by
  have distinct := mapping.nodup_names
  have distinct' := mapping'.nodup_names
  have width : first.names.length = columns.length := by simp [h.names_eq]
  rw [hasColumns_iff_names, ← h.names_eq, h.sameKeys_iff]
  constructor
  · rintro ⟨length, subset⟩
    -- All keys of the row are texts, for there are no more of them than columns.
    have le := row.length_names_le
    have ge := (List.subperm_of_subset distinct subset).length_le
    have perm := (List.subperm_of_subset distinct subset).perm_of_length_le (by omega)
    have all : row.names.length = row.length := by omega
    refine ⟨fun e mem => ?_, subset⟩
    obtain ⟨s, named⟩ := Option.isSome_iff_exists.1
      (List.filterMap_length_eq_length.1 all e mem)
    have text := Row.spelling?_eq_some.1 named
    exact ⟨s, perm.mem_iff.2 (Row.mem_names.2 ⟨e, mem, text⟩), text⟩
  · rintro ⟨texts, subset⟩
    have all : row.names.length = row.length := by
      refine List.filterMap_length_eq_length.2 fun e mem => ?_
      obtain ⟨s, _, text⟩ := texts e mem
      rw [Row.spelling?_eq_some.2 text]
      rfl
    have others : row.names ⊆ first.names := by
      intro s mem
      obtain ⟨e, inRow, text⟩ := Row.mem_names.1 mem
      obtain ⟨s', inFirst, text'⟩ := texts e inRow
      have same := (Row.spelling?_eq_some.2 text).symm.trans (Row.spelling?_eq_some.2 text')
      exact Option.some.inj same ▸ inFirst
    have le := (List.subperm_of_subset distinct subset).length_le
    have ge := (List.subperm_of_subset distinct' others).length_le
    exact ⟨by omega, subset⟩

end

/-! ## What is made -/

/-- The rows that some data give: a mapping is one row, a sequence has a mapping for each row. -/
inductive Gives : Value → List Row → Prop
  | single (row : Row) : Gives (.map row) [row]
  | list (rows : List Row) : Gives (.list (rows.map .map)) rows
  | tuple (rows : List Row) : Gives (.tuple (rows.map .map)) rows

/-- A table under a name that may be written into a statement. -/
structure IsTable (table : Value) (name : Text) : Prop where
  text : table = .text name
  qualified : Name.isQualified name.chars = true

theorem Gives.rowsOf_eq {data : Value} {rows : List Row} (h : Gives data rows) :
    rowsOf data = .ok (rows.map .map) := by
  cases h <;> rfl

theorem isTable_iff {table : Value} {name : Text} :
    IsTable table name ↔ Name.qualified "table name" table = .ok name := by
  rw [Name.qualified, Name.gate_eq_ok_iff]
  exact ⟨fun h => ⟨h.text, h.qualified⟩, fun h => ⟨h.1, h.2⟩⟩

theorem columns_eq_ok_iff {first : Row} {columns : List Text} :
    first.mapM (fun e => Name.plain "column name" e.1) = .ok columns ↔
      first.map Prod.fst = columns.map .text ∧
        ∀ column ∈ columns, Name.isPlain column.chars = true := by
  rw [Result.mapM_eq_ok]
  constructor
  · intro gates
    induction gates with
    | nil => simp
    | cons gate _ ih =>
      obtain ⟨key, plain⟩ := Name.gate_eq_ok gate
      obtain ⟨keys, others⟩ := ih
      exact ⟨by simp [key, keys], List.forall_mem_cons.2 ⟨plain, others⟩⟩
  · rintro ⟨keys, plain⟩
    induction columns generalizing first with
    | nil =>
      obtain rfl := List.map_eq_nil_iff.1 keys
      exact .nil
    | cons c columns ih =>
      obtain ⟨e, others, rfl, key, keys⟩ := List.map_eq_cons_iff.1 keys
      obtain ⟨head, tail⟩ := List.forall_mem_cons.1 plain
      exact .cons (Name.gate_eq_ok_iff.2 ⟨key, head⟩) (ih keys tail)

section
variable {table data : Value} {name : Text} {columns : List Text} {first bad : Row}
variable {rest before after : List Row}

theorem make_eq_of_header (isTable : IsTable table name) (gives : Gives data (first :: rest))
    (header : IsHeader columns first) :
    make table data = (laterRows columns 1 (rest.map .map)).map fun later =>
      { table := name, columns, rows := cells columns first :: later } := by
  have gates := columns_eq_ok_iff.2 ⟨header.keys, header.plain⟩
  have given : columns.isEmpty = false := by simpa using header.nonempty
  rw [make, isTable_iff.1 isTable]
  change (rowsOf data >>= _) = _
  rw [gives.rowsOf_eq]
  change (List.mapM (fun e => Name.plain "column name" e.1) first >>= _) = _
  rw [gates]
  change (if columns.isEmpty = true then _ else laterRows columns 1 (rest.map .map) >>= _) = _
  rw [given]
  rfl

/-- Everything that makes an insertion has been given. -/
theorem header_of_make {rows : List Row} {s : Insert} (gives : Gives data rows)
    (made : make table data = .ok s) :
    ∃ first rest, rows = first :: rest ∧ IsTable table s.table ∧ IsHeader s.columns first := by
  obtain ⟨name, named, made⟩ := Result.bind_eq_ok.1 made
  obtain ⟨_, listed, made⟩ := Result.bind_eq_ok.1 made
  rw [gives.rowsOf_eq] at listed
  cases listed
  cases rows with
  | nil => cases made
  | cons first rest =>
    obtain ⟨_, read, made⟩ := Result.bind_eq_ok.1 made
    cases read
    obtain ⟨columns, gates, made⟩ := Result.bind_eq_ok.1 made
    obtain ⟨keys, plain⟩ := columns_eq_ok_iff.1 gates
    dsimp only at made
    split at made
    · cases made
    · next given =>
      obtain ⟨later, _, same⟩ := Result.bind_eq_ok.1 made
      cases same
      exact ⟨first, rest, rfl, isTable_iff.2 named, by simpa using given, plain, keys⟩

theorem laterRows_of_all (all : ∀ row ∈ rest, hasColumns columns row = true) (index : Nat) :
    laterRows columns index (rest.map .map) = .ok (rest.map (cells columns)) := by
  induction rest generalizing index with
  | nil => rfl
  | cons row rest ih =>
    obtain ⟨head, tail⟩ := List.forall_mem_cons.1 all
    change (if hasColumns columns row = true then _ else _) = _
    rw [if_pos head, ih tail]
    rfl

/-- The first row with other keys is the one that is refused. -/
theorem laterRows_of_mismatch (all : ∀ row ∈ before, hasColumns columns row = true)
    (other : hasColumns columns bad = false) (index : Nat) :
    laterRows columns index ((before ++ bad :: after).map .map) =
      .error (.argument (.rowMismatch (index + before.length) (sortedTexts columns)
        (sortedStrings (bad.map fun entry => entry.1.shown)))) := by
  induction before generalizing index with
  | nil =>
    change (if hasColumns columns bad = true then _ else _) = _
    rw [other]
    rfl
  | cons row before ih =>
    obtain ⟨head, tail⟩ := List.forall_mem_cons.1 all
    change (if hasColumns columns row = true then _ else _) = _
    rw [if_pos head]
    change (laterRows columns (index + 1) ((before ++ bad :: after).map .map) >>= _) = _
    rw [ih tail, List.length_cons, Nat.add_right_comm, Nat.add_assoc]
    rfl

theorem hasColumns_of_laterRows {index : Nat} {later : List (List Value)}
    (read : laterRows columns index (rest.map .map) = .ok later) :
    ∀ row ∈ rest, hasColumns columns row = true := by
  induction rest generalizing index later with
  | nil => simp
  | cons row rest ih =>
    change (if hasColumns columns row = true then _ else _) = _ at read
    split at read
    · next here =>
      obtain ⟨others, tail, _⟩ := Result.bind_eq_ok.1 read
      exact List.forall_mem_cons.2 ⟨here, ih tail⟩
    · cases read

end

/-! ## What is built -/

/-- The placeholders of a row of the given width, behind `bound` parameters. -/
def groupText (width bound : Nat) : Str :=
  "(" ++ commaSeparated ((List.range' (bound + 1) width).map Positional.placeholder) ++ ")"

theorem written_slots (vs : List Value) (bound : Nat) :
    ((Template.slots ", " vs).inscribe "" bound).written =
      commaSeparated ((List.range' (bound + 1) vs.length).map Positional.placeholder) := by
  have placed (n : Nat) : "$" ++ Mark.word "" n = Positional.placeholder n := by
    simp [Mark.word, Positional.placeholder]
  fun_induction Template.slots ", " vs generalizing bound with
  | case1 => rfl
  | case2 v => simp [Template.inscribe, placed, commaSeparated]
  | case3 v vs nonempty ih =>
    have others : (List.range' (bound + 2) vs.length).map Positional.placeholder ≠ [] := by
      simpa using nonempty
    simp [Template.inscribe, placed, commaSeparated, ih, List.range'_succ,
      Str.intercalate_cons_of_ne_nil others, Str.append_assoc]

theorem values_rowTemplate (row : List Value) : (rowTemplate row).values = row := by
  simp [rowTemplate, Template.values, Template.values_slots]

theorem written_rowTemplate (row : List Value) (bound : Nat) :
    ((rowTemplate row).inscribe "" bound).written = groupText row.length bound := by
  simp [rowTemplate, groupText, Template.inscribe, Template.inscribe_append, written_slots,
    Str.append_assoc]

/-- Rows behind the first are separated from it by a comma. -/
theorem join_cons_cons (t u : Template) (ts : List Template) :
    Template.join ", " (t :: u :: ts) = t ++ .text ", " :: Template.join ", " (u :: ts) := rfl

theorem values_rows (rows : List (List Value)) :
    (Template.join ", " (rows.map rowTemplate)).values = rows.flatten := by
  induction rows with
  | nil => rfl
  | cons row rows ih =>
    cases rows with
    | nil => simpa [Template.join] using values_rowTemplate row
    | cons second rows =>
      rw [List.map_cons, List.map_cons, join_cons_cons, Template.values_append, Template.values,
        ← List.map_cons, ih, values_rowTemplate, ← List.flatten_cons]

theorem commaSeparated_range (f : Nat → Str) {n : Nat} (h : n ≠ 0) :
    commaSeparated ((List.range (n + 1)).map f) =
      f 0 ++ (", " ++ commaSeparated ((List.range n).map fun i => f (i + 1))) := by
  have others : (List.range n).map (f ∘ Nat.succ) ≠ [] := by simpa using h
  rw [commaSeparated, List.range_succ_eq_map, List.map_cons, List.map_map,
    Str.intercalate_cons_of_ne_nil others, Str.append_assoc]
  rfl

/-- The rows are numbered one after the other. -/
theorem written_rows {rows : List (List Value)} {width : Nat}
    (wide : ∀ row ∈ rows, row.length = width) (bound : Nat) :
    ((Template.join ", " (rows.map rowTemplate)).inscribe "" bound).written =
      commaSeparated ((List.range rows.length).map fun i =>
        groupText width (bound + i * width)) := by
  induction rows generalizing bound with
  | nil => rfl
  | cons row rows ih =>
    obtain ⟨first, others⟩ := List.forall_mem_cons.1 wide
    cases rows with
    | nil => simp [Template.join, written_rowTemplate, first, commaSeparated]
    | cons second rows =>
      have next (i : Nat) : bound + width + i * width = bound + (i + 1) * width := by
        rw [Nat.add_mul, Nat.one_mul, Nat.add_assoc, Nat.add_comm width]
      have rest := ih others (bound + width)
      simp only [next] at rest
      rw [List.map_cons, List.map_cons, join_cons_cons, ← List.map_cons, Template.inscribe_append,
        values_rowTemplate, first, Template.inscribe, Inscription.written_append,
        Inscription.written_text, rest, written_rowTemplate, first, List.length_cons (a := row),
        commaSeparated_range _ (by simp), Nat.zero_mul, Nat.add_zero]

/-- In rows of one width, the place of a value is that of its row and its column. -/
theorem getElem?_flatten {rows : List (List Value)} {width : Nat}
    (wide : ∀ row ∈ rows, row.length = width) {i j : Nat} (inside : i < rows.length)
    (column : j < width) : rows.flatten[i * width + j]? = rows[i][j]? := by
  induction rows generalizing i with
  | nil => cases inside
  | cons row rows ih =>
    obtain ⟨first, others⟩ := List.forall_mem_cons.1 wide
    rw [List.flatten_cons]
    cases i with
    | zero =>
      rw [Nat.zero_mul, Nat.zero_add, List.getElem?_append_left (by omega)]
      rfl
    | succ i =>
      have place : (i + 1) * width + j = row.length + (i * width + j) := by
        rw [first, Nat.add_mul, Nat.one_mul]
        omega
      rw [place, List.getElem?_append_right (by omega), Nat.add_sub_cancel_left]
      exact ih others (by simpa using inside)

/-- The text lists the columns and then, for each row, as many placeholders, numbered from the first
row to the last; the parameter with the number of a row and a column is the value that stands in
that row under that column. -/
structure Aligned (s : Insert) (rows : List Row) (q : SqlQuery) : Prop where
  text : q.text = "INSERT INTO " ++ s.table.shown ++ " (" ++
    commaSeparated (s.columns.map Text.spelling) ++ ") VALUES " ++
    commaSeparated ((List.range rows.length).map fun i =>
      groupText s.columns.length (i * s.columns.length)) ++ returningText s.returning
  length : q.params.length = rows.length * s.columns.length
  param : ∀ (i j : Nat) (row : i < rows.length) (column : j < s.columns.length),
    ∃ v, Value.field? rows[i] s.columns[j].spelling = some v ∧
      q.params[i * s.columns.length + j]? = some v

theorem written_returningClause (fields : List Text) (bound : Nat) :
    ((returningClause fields).inscribe "" bound).written = returningText fields := by
  cases fields with
  | nil => rfl
  | cons t rest => simp [returningClause, returningText, Template.inscribe, commaSeparated]

section
variable {s : Insert} {rows : List Row}

theorem params_build (s : Insert) : s.build.params = s.rows.flatten := by
  rw [build, SqlQuery.params_ofTemplate, template]
  simp [Template.values, values_rows, values_returningClause]

theorem text_build {width : Nat} (wide : ∀ row ∈ s.rows, row.length = width) :
    s.build.text = "INSERT INTO " ++ s.table.shown ++ " (" ++
      commaSeparated (s.columns.map Text.spelling) ++ ") VALUES " ++
      commaSeparated ((List.range s.rows.length).map fun i => groupText width (i * width)) ++
      returningText s.returning := by
  have rows := written_rows wide 0
  simp only [Nat.zero_add] at rows
  rw [build, SqlQuery.text_ofTemplate, template]
  simp [Template.inscribe, Template.inscribe_append, rows, written_returningClause,
    Str.append_assoc]

/-- What is built is aligned when the cells have been laid out and none was missing. -/
theorem aligned_build (laid : s.rows = rows.map (cells s.columns))
    (found : ∀ row ∈ rows, s.columns.map Text.spelling ⊆ row.names) :
    Aligned s rows s.build := by
  have wide : ∀ row ∈ s.rows, row.length = s.columns.length := by
    rw [laid]
    simp [cells]
  have count : s.rows.length = rows.length := by simp [laid]
  refine ⟨?_, ?_, ?_⟩
  · rw [text_build wide, count]
  · rw [params_build, List.length_flatten, List.map_congr_left wide, ← count]
    simp
  · intro i j row column
    have named := found rows[i] (List.getElem_mem row)
      (List.mem_map_of_mem (List.getElem_mem column))
    obtain ⟨v, there⟩ := Option.isSome_iff_exists.1 (Row.isSome_field?_iff.2 named)
    refine ⟨v, there, ?_⟩
    rw [params_build, getElem?_flatten wide (by omega) column]
    simp [laid, cells, column, Value.field, there]

end

/-! ## Keys in another order -/

theorem find?_eq_of_perm {α : Type} {p : α → Bool} {xs ys : List α}
    (single : xs.Pairwise fun x y => ¬(p x = true ∧ p y = true)) (perm : xs.Perm ys) :
    xs.find? p = ys.find? p := by
  induction perm with
  | nil => rfl
  | cons x _ ih => rw [List.find?_cons, List.find?_cons, ih single.of_cons]
  | swap x y zs =>
    have apart := (List.pairwise_cons.1 single).1 x List.mem_cons_self
    simp only [List.find?_cons]
    cases left : p x <;> cases right : p y <;> simp_all
  | trans first _ ih ih' =>
    refine (ih single).trans (ih' ((first.pairwise_iff fun apart both => ?_).1 single))
    exact apart ⟨both.2, both.1⟩

section
variable {columns : List Text} {row row' : Row}

theorem field?_eq_of_perm (mapping : row.IsMapping) (perm : row.Perm row') (key : Str) :
    Value.field? row key = Value.field? row' key := by
  refine congrArg (Option.map _) (find?_eq_of_perm (mapping.imp fun apart both => ?_) perm)
  rw [Row.sameKey_of_isText both.1 both.2] at apart
  cases apart

theorem hasColumns_eq_of_perm (mapping : row.IsMapping) (perm : row.Perm row') :
    hasColumns columns row = hasColumns columns row' := by
  simp only [hasColumns, perm.length_eq, field?_eq_of_perm mapping perm]

theorem cells_eq_of_perm (mapping : row.IsMapping) (perm : row.Perm row') :
    cells columns row = cells columns row' := by
  simp only [cells, Value.field, field?_eq_of_perm mapping perm]

theorem sortedStrings_eq_of_perm {texts texts' : List Str} (perm : texts.Perm texts') :
    sortedStrings texts = sortedStrings texts' := by
  have sorted (ss : List Str) :
      (sortedStrings ss).Pairwise fun a b => decide (a ≤ b) = true :=
    List.pairwise_mergeSort (fun a b c ab bc => by simp at *; exact Str.le_trans ab bc)
      (fun a b => by simpa using Str.le_total a b) ss
  refine List.Perm.eq_of_pairwise (fun a b _ _ ab ba => ?_) (sorted texts) (sorted texts') ?_
  · exact Str.le_antisymm (of_decide_eq_true ab) (of_decide_eq_true ba)
  · exact (List.mergeSort_perm _ _).trans (perm.trans (List.mergeSort_perm _ _).symm)

theorem laterRows_eq_of_perm (columns : List Text) {rest rest' : List Row}
    (mappings : ∀ row ∈ rest, row.IsMapping) (perm : List.Forall₂ List.Perm rest rest')
    (index : Nat) :
    laterRows columns index (rest.map .map) = laterRows columns index (rest'.map .map) := by
  induction perm generalizing index with
  | nil => rfl
  | @cons row row' rest rest' same _ ih =>
    obtain ⟨mapping, others⟩ := List.forall_mem_cons.1 mappings
    have shown := sortedStrings_eq_of_perm (same.map fun entry : Value × Value => entry.1.shown)
    change (if hasColumns columns row = true then
        laterRows columns (index + 1) (rest.map .map) >>= fun later =>
          .ok (cells columns row :: later)
      else .error (.argument (.rowMismatch index (sortedTexts columns)
        (sortedStrings (row.map fun entry => entry.1.shown))))) = _
    rw [hasColumns_eq_of_perm mapping same, cells_eq_of_perm mapping same, shown,
      ih others (index + 1)]
    rfl

/-- The order of the keys in the rows behind the first does not matter. -/
theorem make_eq_of_perm {table data data' : Value} {first : Row} {rest rest' : List Row}
    (gives : Gives data (first :: rest)) (gives' : Gives data' (first :: rest'))
    (mappings : ∀ row ∈ rest, row.IsMapping) (perm : List.Forall₂ List.Perm rest rest') :
    make table data = make table data' := by
  have later (columns : List Text) := laterRows_eq_of_perm columns mappings perm 1
  rw [make, make, gives.rowsOf_eq, gives'.rowsOf_eq]
  simp only [List.map_cons, Value.entriesFor, bind, Except.bind, later]

end

/-- Some rows can be inserted into a table when both can be named and there is a first row with at
least one key, all of its keys being plain names, that all other rows share. -/
def Accepts (table : Value) (rows : List Row) : Prop :=
  ∃ name columns first rest, IsTable table name ∧ rows = first :: rest ∧
    IsHeader columns first ∧ ∀ row ∈ rest, row.SameKeys first

section
variable {table data : Value} {rows : List Row}

theorem make_of_accepts (gives : Gives data rows) (mappings : ∀ row ∈ rows, row.IsMapping)
    (accepts : Accepts table rows) : ∃ s, make table data = .ok s := by
  obtain ⟨name, columns, first, rest, isTable, rfl, header, same⟩ := accepts
  obtain ⟨mapping, others⟩ := List.forall_mem_cons.1 mappings
  have all : ∀ row ∈ rest, hasColumns columns row = true := fun row mem =>
    (header.hasColumns_iff mapping (others row mem)).2 (same row mem)
  rw [make_eq_of_header isTable gives header, laterRows_of_all all]
  exact ⟨_, rfl⟩

/-- What an insertion holds, and what it took to make it. -/
theorem laid_of_make {s : Insert} (gives : Gives data rows)
    (mappings : ∀ row ∈ rows, row.IsMapping) (made : make table data = .ok s) :
    ∃ first rest, rows = first :: rest ∧ IsTable table s.table ∧ IsHeader s.columns first ∧
      (∀ row ∈ rest, row.SameKeys first) ∧ s.rows = rows.map (cells s.columns) ∧
      ∀ row ∈ rows, s.columns.map Text.spelling ⊆ row.names := by
  obtain ⟨first, rest, rfl, isTable, header⟩ := header_of_make gives made
  obtain ⟨mapping, others⟩ := List.forall_mem_cons.1 mappings
  rw [make_eq_of_header isTable gives header] at made
  obtain ⟨later, read, same⟩ := Result.map_eq_ok.1 made
  have all := hasColumns_of_laterRows read
  rw [laterRows_of_all all] at read
  cases read
  refine ⟨first, rest, rfl, isTable, header, ?_, ?_, ?_⟩
  · exact fun row mem => (header.hasColumns_iff mapping (others row mem)).1 (all row mem)
  · rw [← same]
    rfl
  · rw [List.forall_mem_cons]
    exact ⟨fun c mem => header.names_eq ▸ mem, fun row mem =>
      (hasColumns_iff_names.1 (all row mem)).2⟩

/-- Which rows are accepted, which row is named when one has other keys than the first, where each
value stands in what is built, and that the order of the keys matters in the first row only. -/
theorem aligned_of_rows (table : Value) (gives : Gives data rows)
    (mappings : ∀ row ∈ rows, row.IsMapping) :
    ((∃ s, make table data = .ok s) ↔ Accepts table rows) ∧
    (∀ name columns first before bad after, IsTable table name → IsHeader columns first →
      rows = first :: (before ++ bad :: after) → (∀ row ∈ before, row.SameKeys first) →
      ¬bad.SameKeys first →
      make table data = .error (.argument (.rowMismatch (1 + before.length) (sortedTexts columns)
        (sortedStrings (bad.map fun entry => entry.1.shown))))) ∧
    (∀ s calls t, make table data = .ok s → Run.after step s calls = t →
      IsTable table t.table ∧
      (∃ first rest, rows = first :: rest ∧ first.map Prod.fst = t.columns.map .text) ∧
      Aligned t rows t.build) ∧
    ∀ data' first rest rest', rows = first :: rest → Gives data' (first :: rest') →
      List.Forall₂ List.Perm rest rest' → make table data = make table data' := by
  refine ⟨⟨?_, make_of_accepts gives mappings⟩, ?_, ?_, ?_⟩
  · rintro ⟨s, made⟩
    obtain ⟨first, rest, same, isTable, header, keys, _⟩ := laid_of_make gives mappings made
    exact ⟨s.table, s.columns, first, rest, isTable, same, header, keys⟩
  · rintro name columns first before bad after isTable header rfl same other
    obtain ⟨mapping, others⟩ := List.forall_mem_cons.1 mappings
    have all : ∀ row ∈ before, hasColumns columns row = true := fun row mem =>
      (header.hasColumns_iff mapping (others row (by simp [mem]))).2 (same row mem)
    have unlike : hasColumns columns bad = false := by
      rw [← Bool.not_eq_true, header.hasColumns_iff mapping (others bad (by simp))]
      exact other
    rw [make_eq_of_header isTable gives header, laterRows_of_mismatch all unlike]
    rfl
  · rintro s calls t made rfl
    obtain ⟨first, rest, same, isTable, header, _, laid, found⟩ :=
      laid_of_make gives mappings made
    rw [after_eq s calls]
    exact ⟨isTable, ⟨first, rest, same, header.keys⟩, aligned_build laid found⟩
  · rintro data' first rest rest' rfl gives' perm
    exact make_eq_of_perm gives gives' (List.forall_mem_cons.1 mappings).2 perm

end

/-- Two rows with their keys in different orders. -/
def people : List Row :=
  [[(.str "name", .str "Ada"), (.str "age", .int 36)],
    [(.str "age", .int 41), (.str "name", .str "Alan")]]

/-- A row without one of their keys. -/
def nameless : Row :=
  [(.str "age", .int 60)]

theorem isMapping_people : ∀ row ∈ people ++ [nameless], row.IsMapping := by
  simp [people, nameless, Row.IsMapping, Row.sameKey_text, Value.isText, Text.spelling]

theorem isHeader_people : IsHeader [.plain "name", .plain "age"] people[0] where
  nonempty := by simp
  plain := by decide
  keys := rfl

theorem sameKeys_people : Row.SameKeys people[1] people[0] where
  left := by simp [people, Row.sameKey_text, Value.isText, Text.spelling]
  right := by simp [people, Row.sameKey_text, Value.isText, Text.spelling]

/-- The age of the second row is the fourth parameter, and a third row without a name is refused. -/
theorem aligned_of_rows_people :
    (∃ s, make (.str "people") (.list (people.map .map)) = .ok s ∧
      s.build.params.length = 4 ∧ s.build.params[3]? = some (.int 41)) ∧
    make (.str "people") (.list ((people ++ [nameless]).map .map)) =
      .error (.argument (.rowMismatch 2 (sortedTexts [.plain "name", .plain "age"])
        (sortedStrings ["age"]))) := by
  have isTable : IsTable (.str "people") (.plain "people") := ⟨rfl, by decide⟩
  constructor
  · obtain ⟨accepted, _, built, _⟩ := aligned_of_rows (.str "people") (.list people)
      fun row mem => isMapping_people row (List.mem_append_left _ mem)
    obtain ⟨s, made⟩ := accepted.2 ⟨.plain "people", _, people[0], [people[1]], isTable, rfl,
      isHeader_people, by simpa using sameKeys_people⟩
    obtain ⟨_, ⟨first, rest, same, keys⟩, aligned⟩ := built s [] s made rfl
    obtain ⟨rfl, _⟩ := List.cons_eq_cons.1 same
    have columns : s.columns = [.plain "name", .plain "age"] := by
      have texts := keys.symm.trans isHeader_people.keys
      exact List.map_injective_iff.2 (fun _ _ => Value.text.inj) texts
    have length := aligned.length
    obtain ⟨v, there, param⟩ := aligned.param 1 1 (by decide) (by rw [columns]; decide)
    simp only [columns] at length there param
    refine ⟨s, made, length, param.trans ?_⟩
    exact there.symm.trans rfl
  · obtain ⟨_, refused, _, _⟩ := aligned_of_rows (.str "people")
      (.list (people ++ [nameless])) isMapping_people
    refine refused (.plain "people") [.plain "name", .plain "age"] people[0] [people[1]] nameless []
      isTable isHeader_people rfl (by simpa using sameKeys_people) fun same => ?_
    simpa [people, nameless, Row.sameKey_text, Value.isText, Text.spelling] using
      same.right (.str "name", .str "Ada") (by simp [people])

end Insert
end BoundQuery
