import BoundQuery.Proofs.Condition.Composition
import BoundQuery.Proofs.Marker.Decomposition
import BoundQuery.Proofs.Statement.Direct
import BoundQuery.Proofs.Statement.Reached
import BoundQuery.Proofs.Statement.Stored

/-!
# Statements written into one store

A statement is written clause by clause, and every value is added to the same numbered store as its
place is reached: the cells of the rows or the assignments first, then the conditions, those on
groups, and the limit and the offset. This is what is built from templates, which are filled only
when they are whole.

Whether a clause of conditions is written depends on its text alone: an empty text would leave the
keyword out. Conditions that calls have given write no empty text.

## Main definitions

* `Positional.renderClause`, `Positional.addEach` — clauses and lists of values written into a
  store.
* `Select.written`, `Insert.written`, `Modify.written` — statements written into one store.
* `Condition.IsSaid` — conditions that do not write an empty text.

## Main statements

* `Select.build_eq_written`, `Select.buildCount_eq_written`, `Insert.build_eq_written`,
  `Modify.build_eq_written` — what is built is what is written into one store.
* `Statement.Reached.isSaid` — the conditions of a statement that calls lead to.
-/

namespace BoundQuery

/-! ## Writing into a store -/

namespace Positional

/-- A text after its keyword, or nothing when there is no text. -/
def clauseText (keyword : Str) : Option Str → Str
  | some text => if text.isEmpty then "" else keyword ++ text
  | none => ""

def renderClause (marker : List Chr) (keyword : Str) (cs : List Condition) (p : Positional) :
    Result Str × Positional :=
  let (text?, p) := p.renderAll marker cs
  (text?.map (clauseText keyword), p)

def renderCount (keyword : Str) (count : Option Int) (p : Positional) : Str × Positional :=
  match count with
  | some n =>
    let (placeholder, p) := p.add (.int n)
    (keyword ++ placeholder, p)
  | none => ("", p)

/-- The placeholders of several values. -/
def addEach : List Value → Positional → List Str × Positional
  | [], p => ([], p)
  | v :: vs, p =>
    let (placeholder, p) := p.add v
    let (placeholders, p) := addEach vs p
    (placeholder :: placeholders, p)

def renderRows : List (List Value) → Positional → List Str × Positional
  | [], p => ([], p)
  | row :: rows, p =>
    let (cells, p) := addEach row p
    let (texts, p) := renderRows rows p
    (("(" ++ commaSeparated cells ++ ")") :: texts, p)

def renderAssignments : List (Text × Value) → Positional → List Str × Positional
  | [], p => ([], p)
  | (column, v) :: rest, p =>
    let (placeholder, p) := p.add v
    let (texts, p) := renderAssignments rest p
    ((column.shown ++ " = " ++ placeholder) :: texts, p)

end Positional

/-- A selection written into one store, with the order and the window of rows or without. -/
def Select.written (s : Select) (fields : Str) (windowed : Bool) : Result SqlQuery :=
  let marker := s.config.marker
  match ({} : Positional).renderClause marker " WHERE " s.conditions with
  | (.error fault, _) => .error fault
  | (.ok conditions, p) =>
    match p.renderClause marker " HAVING " (s.having.map .field) with
    | (.error fault, _) => .error fault
    | (.ok having, p) =>
      let body := "SELECT " ++ fields ++ " FROM " ++ s.table.shown ++
        Str.join (s.joins.map joinText) ++ conditions ++ groupText s.groups ++ having
      if windowed then
        let (limit, p) := p.renderCount " LIMIT " s.limit
        let (offset, p) := p.renderCount " OFFSET " s.offset
        .ok ⟨body ++ sortText s.sorts ++ limit ++ offset, p.values⟩
      else .ok ⟨body, p.values⟩

def Insert.written (s : Insert) : SqlQuery :=
  let (rows, p) := Positional.renderRows s.rows {}
  ⟨"INSERT INTO " ++ s.table.shown ++ " (" ++ commaSeparated (s.columns.map Text.spelling) ++
    ") VALUES " ++ commaSeparated rows ++ returningText s.returning, p.values⟩

/-- What an update or a deletion begins with. -/
def Modify.renderHead (s : Modify) (p : Positional) : Str × Positional :=
  match s.modification with
  | .update assignments =>
    let (texts, p) := Positional.renderAssignments assignments p
    ("UPDATE " ++ s.table.shown ++ " SET " ++ commaSeparated texts, p)
  | .delete => ("DELETE FROM " ++ s.table.shown, p)

def Modify.written (s : Modify) : Result SqlQuery :=
  let (head, p) := s.renderHead {}
  match p.renderClause s.config.marker " WHERE " s.conditions with
  | (.error fault, _) => .error fault
  | (.ok conditions, p) => .ok ⟨head ++ conditions ++ returningText s.returning, p.values⟩

/-! ## Texts that are not empty -/

/-- Whether a template has a slot or a text that is not empty. -/
def Template.IsSaid : Template → Prop
  | [] => False
  | .text s :: rest => s ≠ "" ∨ IsSaid rest
  | .slot _ :: _ => True

namespace Template

variable {σ : Type} {mint : Value → σ → Str × σ}

theorem IsSaid.append_left {s : Template} (h : s.IsSaid) (t : Template) : IsSaid (s ++ t) := by
  induction s with
  | nil => cases h
  | cons piece s ih =>
    cases piece with
    | text text => exact h.imp_right ih
    | slot v => trivial

theorem isSaid_text {s : Str} (said : s ≠ "") (rest : Template) : IsSaid (.text s :: rest) :=
  .inl said

theorem isSaid_join {separator : Str} {t : Template} (h : t.IsSaid) (ts : List Template) :
    IsSaid (join separator (t :: ts)) := by
  cases ts with
  | nil => exact h
  | cons u us => exact h.append_left _

end Template

theorem Positional.fill_ne_empty {t : Template} (said : t.IsSaid) (p : Positional) :
    (t.fill add p).1 ≠ "" := by
  induction t generalizing p with
  | nil => cases said
  | cons piece t ih =>
    cases piece with
    | text s =>
      rcases said with some | rest
      · simp [Template.fill, some]
      · simp [Template.fill, ih rest p]
    | slot v => simp [Template.fill, add, placeholder]

/-- A raw fragment that is not blank; other conditions always say something. -/
def Condition.IsSaid : Condition → Prop
  | .field _ => True
  | .raw fragment _ => fragment.isBlank = false

theorem Marker.isSaid_template {marker : List Chr} {fragment : Text} {values : List Value}
    {t : Template} (said : fragment.isBlank = false)
    (made : template marker fragment values = .ok t) : t.IsSaid := by
  obtain ⟨pieces, cut, count, rfl⟩ := Marker.template_eq_ok made
  cases values with
  | cons v vs =>
    obtain ⟨piece, rest, rfl⟩ := List.exists_cons_of_length_eq_add_one count
    exact .inr trivial
  | nil =>
    obtain ⟨piece, rfl⟩ := List.length_eq_one_iff.1 count
    have nonempty : marker ≠ [] := by
      rintro rfl
      cases cut
    obtain ⟨pieces, cut', decomposed⟩ := exists_split nonempty fragment.chars
    cases cut.symm.trans cut'
    have whole : piece = fragment.chars := (isDecomposition_singleton.1 decomposed).1
    refine .inl fun empty => ?_
    rw [whole] at empty
    have none : fragment.spelling = "" := by simpa [Text.chars] using empty
    simp [Text.isBlank, Chars.isAllBlank, none] at said

namespace Condition

variable {marker : List Chr} {cs : List Condition}

theorem isSaid_template? {c : Condition} (said : c.IsSaid) {t : Template}
    (made : c.template? .relational marker = .ok (some t)) : t.IsSaid := by
  cases c with
  | raw fragment values =>
    obtain ⟨t', woven, same⟩ := Result.map_eq_ok.1 made
    cases same
    exact Marker.isSaid_template said woven
  | field c =>
    have made : c.template? .relational = some t := Except.ok.inj made
    unfold FieldCondition.template? at made
    split at made
    · cases made
      refine Template.isSaid_text ?_ _
      split <;> simp
    · cases made
    · cases made
      refine Template.isSaid_text ?_ _
      split <;> simp
    · cases made
      exact Template.isSaid_text (by simp) _

theorem isSaid_conjunction? (said : ∀ c ∈ cs, c.IsSaid) {t : Template}
    (made : conjunction? .relational marker cs = .ok (some t)) : t.IsSaid := by
  obtain ⟨ts, written, same⟩ := conjunction?_eq_ok.1 made
  cases ts with
  | nil => cases same
  | cons first rest =>
    cases same
    obtain ⟨c, mem, first⟩ := exists_of_mem_templates written List.mem_cons_self
    exact Template.isSaid_join (isSaid_template? (said c mem) first) rest

end Condition

/-! ## Clauses -/

namespace Positional

variable {marker : List Chr} {cs : List Condition}

theorem fill_append (s t : Template) (p : Positional) :
    p.fill (s ++ t) = ((p.fill s).1 ++ ((p.fill s).2.fill t).1, ((p.fill s).2.fill t).2) :=
  Template.fill_append add s t p

/-- The text of a clause and the store after it are those of the clause as a template. -/
theorem renderClause_of_conjunction? (said : ∀ c ∈ cs, c.IsSaid) {t? : Option Template}
    (made : Condition.conjunction? .relational marker cs = .ok t?) (keyword : Str)
    (p : Positional) :
    p.renderClause marker keyword cs =
      (.ok (p.fill (conditionClause keyword t?)).1, (p.fill (conditionClause keyword t?)).2) := by
  rw [renderClause, renderAll, Condition.renderAll_of_conjunction? made]
  cases t? with
  | none => rfl
  | some t =>
    have some := fill_ne_empty (Condition.isSaid_conjunction? said made) p
    simp [Except.map, clauseText, some, conditionClause, fill, Template.fill]

theorem exists_renderClause_of_refused {fault : Fault}
    (refused : Condition.conjunction? .relational marker cs = .error fault) (keyword : Str)
    (p : Positional) : ∃ q, p.renderClause marker keyword cs = (.error fault, q) := by
  obtain ⟨before, c, after, t?, rfl, written, refused⟩ :=
    Condition.exists_refused_of_conjunction? refused
  rw [renderClause, renderAll_stops written refused]
  exact ⟨_, rfl⟩

theorem renderCount_eq (keyword : Str) (count : Option Int) (p : Positional) :
    p.renderCount keyword count = p.fill (Select.countClause keyword count) := by
  cases count <;> simp [renderCount, Select.countClause, fill, Template.fill]

theorem fill_slots (separator : Str) (vs : List Value) (p : Positional) :
    p.fill (Template.slots separator vs) =
      (Str.intercalate separator (p.addEach vs).1, (p.addEach vs).2) := by
  unfold fill
  fun_induction Template.slots separator vs generalizing p with
  | case1 => simp [Template.fill, addEach]
  | case2 v => simp [Template.fill, addEach]
  | case3 v vs nonempty ih =>
    have others (p : Positional) : (p.addEach vs).1 ≠ [] := by
      cases vs with
      | nil => exact absurd rfl nonempty
      | cons w ws => simp [addEach]
    simp [Template.fill, addEach, ih, Str.intercalate_cons_of_ne_nil (others _),
      Str.append_assoc]

theorem renderRows_eq (rows : List (List Value)) (p : Positional) :
    p.renderRows rows = Template.fillEach add (rows.map Insert.rowTemplate) p := by
  induction rows generalizing p with
  | nil => rfl
  | cons row rows ih =>
    have slots := fill_slots ", " row p
    have filled : (Insert.rowTemplate row).fill add p =
        ("(" ++ commaSeparated (p.addEach row).1 ++ ")", (p.addEach row).2) := by
      rw [fill] at slots
      simp [Insert.rowTemplate, Template.fill, Template.fill_append, slots, commaSeparated,
        Str.append_assoc]
    simp [renderRows, Template.fillEach, filled, ih]

theorem renderAssignments_eq (assignments : List (Text × Value)) (p : Positional) :
    p.renderAssignments assignments =
      Template.fillEach add (assignments.map Modify.assignmentTemplate) p := by
  induction assignments generalizing p with
  | nil => rfl
  | cons a rest ih =>
    simp [renderAssignments, Template.fillEach, Modify.assignmentTemplate, Template.fill, ih]

end Positional

/-! ## Statements -/

theorem SqlQuery.ofTemplate_eq_fill (t : Template) :
    SqlQuery.ofTemplate t = ⟨(({} : Positional).fill t).1, (({} : Positional).fill t).2.values⟩ :=
  rfl

theorem fill_returningClause (fields : List Text) (p : Positional) :
    p.fill (returningClause fields) = (returningText fields, p) := by
  cases fields <;> simp [returningClause, returningText, Positional.fill, Template.fill,
    commaSeparated]

theorem fill_texts {α : Type} (text : α → Str) (xs : List α) (p : Positional) :
    p.fill (xs.map fun x => .text (text x)) = (Str.join (xs.map text), p) := by
  unfold Positional.fill
  induction xs with
  | nil => rfl
  | cons x xs ih => simp [Template.fill, ih]

theorem Positional.fill_text (s : Str) (rest : Template) (p : Positional) :
    p.fill (.text s :: rest) = (s ++ (p.fill rest).1, (p.fill rest).2) :=
  rfl

theorem Positional.fill_nil (p : Positional) : p.fill [] = (("" : Str), p) :=
  rfl

namespace Select

variable {s : Select}

/-- A selection is what its clauses write into one store, with the window of rows or without. -/
theorem written_eq (said : ∀ c ∈ s.conditions, c.IsSaid) (fields : Str) (windowed : Bool) :
    s.written fields windowed =
      s.body.map fun body =>
        SqlQuery.ofTemplate (head fields :: body ++ if windowed then s.tail else []) := by
  have saidHaving : ∀ c ∈ s.having.map Condition.field, c.IsSaid :=
    List.forall_mem_map.2 fun _ _ => trivial
  unfold written body
  dsimp only
  cases first : Condition.conjunction? .relational s.config.marker s.conditions with
  | error fault =>
    obtain ⟨_, refused⟩ := Positional.exists_renderClause_of_refused first " WHERE " {}
    rw [refused]
    rfl
  | ok conditions =>
    rw [Positional.renderClause_of_conjunction? said first]
    dsimp only
    cases second : Condition.conjunction? .relational s.config.marker (s.having.map .field) with
    | error fault =>
      obtain ⟨_, refused⟩ := Positional.exists_renderClause_of_refused second " HAVING "
        (({} : Positional).fill (conditionClause " WHERE " conditions)).2
      rw [refused]
      rfl
    | ok having =>
      rw [Positional.renderClause_of_conjunction? saidHaving second]
      cases windowed with
      | false =>
        refine congrArg Except.ok ?_
        simp only [SqlQuery.ofTemplate_eq_fill, head, List.cons_append, Positional.fill_text,
          Positional.fill_append, Positional.fill_nil, fill_texts, Str.append_assoc,
          Str.append_empty, Bool.false_eq_true, if_false, List.append_nil]
      | true =>
        refine congrArg Except.ok ?_
        simp only [SqlQuery.ofTemplate_eq_fill, head, tail, List.cons_append, Positional.fill_text,
          Positional.fill_append, Positional.fill_nil, fill_texts, Positional.renderCount_eq,
          Str.append_assoc, Str.append_empty, if_true]

theorem build_eq_written (said : ∀ c ∈ s.conditions, c.IsSaid) :
    s.build = (do s.written (commaSeparated (← spellings 0 s.fields)) true) := by
  unfold build
  cases spellings 0 s.fields with
  | error fault => rfl
  | ok fields =>
    change _ = s.written (commaSeparated fields) true
    rw [written_eq said]
    cases s.body <;> rfl

theorem buildCount_eq_written (said : ∀ c ∈ s.conditions, c.IsSaid) :
    s.buildCount = s.written "COUNT(*) AS total" false := by
  rw [written_eq said, buildCount]
  cases s.body with
  | error fault => rfl
  | ok body =>
    change Except.ok _ = Except.ok _
    simp

end Select

theorem Insert.build_eq_written (s : Insert) : s.build = s.written := by
  have rows := Template.fill_join Positional.add ", " (s.rows.map rowTemplate) {}
  rw [← Positional.renderRows_eq] at rows
  have filled : ({} : Positional).fill (Template.join ", " (s.rows.map rowTemplate)) = _ := rows
  delta written
  simp [build, SqlQuery.ofTemplate_eq_fill, template, Positional.fill_text,
    Positional.fill_append, filled, fill_returningClause, commaSeparated, Str.append_assoc]

namespace Modify

variable {s : Modify}

theorem fill_head (s : Modify) (p : Positional) : p.fill s.head = s.renderHead p := by
  unfold head renderHead
  cases s.modification with
  | delete => simp [Positional.fill_text, Positional.fill_nil]
  | update assignments =>
    have pairs := Template.fill_join Positional.add ", " (assignments.map assignmentTemplate) p
    rw [← Positional.renderAssignments_eq] at pairs
    have filled : p.fill (Template.join ", " (assignments.map assignmentTemplate)) = _ := pairs
    simp [Positional.fill_text, filled, commaSeparated, Str.append_assoc]

theorem build_eq_written (said : ∀ c ∈ s.conditions, c.IsSaid) : s.build = s.written := by
  unfold build template written
  rw [← fill_head]
  dsimp only
  cases made : Condition.conjunction? .relational s.config.marker s.conditions with
  | error fault =>
    obtain ⟨_, refused⟩ := Positional.exists_renderClause_of_refused made " WHERE "
      (({} : Positional).fill s.head).2
    rw [refused]
    rfl
  | ok conditions =>
    rw [Positional.renderClause_of_conjunction? said made]
    change Except.ok _ = Except.ok _
    simp [SqlQuery.ofTemplate_eq_fill, Positional.fill_append, fill_returningClause,
      Str.append_assoc]

end Modify

/-! ## Statements that calls lead to -/

/-- Calls give no fragment that is blank. -/
theorem Restriction.isSaid_of_mem_given (r : Restriction) : ∀ c ∈ r.given, c.IsSaid := by
  have compared {field operator operand : Value} {cs : List Condition}
      (h : comparison .relational field operator operand = .ok cs) : ∀ c ∈ cs, c.IsSaid := by
    obtain ⟨c, _, same⟩ := Result.bind_eq_ok.1 h
    cases same
    exact List.forall_mem_singleton.2 trivial
  unfold given
  cases made : r.conditions .relational with
  | error fault => simp [Except.toOption]
  | ok cs =>
    change ∀ c ∈ cs, c.IsSaid
    cases r with
    | compare | equals | notEquals | like | ilike | null | notNull => exact compared made
    | member field values | notMember field values =>
      obtain ⟨_, _, made⟩ := Result.bind_eq_ok.1 made
      exact compared made
    | raw fragment values =>
      obtain ⟨c, raw, same⟩ := Result.bind_eq_ok.1 made
      cases same
      refine List.forall_mem_singleton.2 ?_
      unfold Condition.makeRaw at raw
      split at raw
      · split at raw
        · cases raw
        · next said =>
          obtain ⟨_, _, rfl⟩ := Result.map_eq_ok.1 raw
          exact Bool.eq_false_iff.2 said
      · cases raw
    | filters mapping =>
      obtain ⟨_, _, same⟩ := Result.bind_eq_ok.1 made
      cases same
      exact List.forall_mem_map.2 fun _ _ => trivial

namespace Statement

/-- No condition of a statement writes an empty text. -/
def IsSaid : Statement → Prop
  | select s => ∀ c ∈ s.conditions, c.IsSaid
  | insert _ => True
  | modify s => ∀ c ∈ s.conditions, c.IsSaid

theorem Reached.isSaid {data : Value} {st : Statement} (h : st.Reached data) : st.IsSaid := by
  induction h with
  | @select config table fields s made =>
    obtain ⟨_, _, made⟩ := Result.bind_eq_ok.1 made
    dsimp only at made
    have none : s.conditions = [] := by
      split at made <;>
      · obtain ⟨_, _, same⟩ := Result.bind_eq_ok.1 made
        cases same
        rfl
    simp [IsSaid, none]
  | insert | insertCall => trivial
  | @update config table data s made =>
    obtain ⟨_, _, made⟩ := Result.bind_eq_ok.1 made
    dsimp only at made
    split at made
    · cases made
    · obtain ⟨_, _, made⟩ := Result.bind_eq_ok.1 made
      obtain ⟨_, _, same⟩ := Result.bind_eq_ok.1 made
      cases same
      simp [IsSaid]
  | delete made =>
    obtain ⟨_, _, same⟩ := Result.bind_eq_ok.1 made
    cases same
    simp [IsSaid]
  | selectCall _ call ih =>
    have given : ∀ c ∈ call.conditions, c.IsSaid := by
      cases call with
      | restrict r => exact r.isSaid_of_mem_given
      | _ => simp [Select.Call.conditions]
    rw [IsSaid, Select.conditions_step]
    exact List.forall_mem_append.2 ⟨ih, given⟩
  | modifyCall _ call ih =>
    have given : ∀ c ∈ call.conditions, c.IsSaid := by
      cases call with
      | restrict r => exact r.isSaid_of_mem_given
      | returning _ => simp [Modify.Call.conditions]
    rw [IsSaid, Modify.conditions_step]
    exact List.forall_mem_append.2 ⟨ih, given⟩

end Statement
end BoundQuery
