import BoundQuery.Proofs.Config.Marker
import BoundQuery.Proofs.Marker.Decomposition
import BoundQuery.Proofs.Statement.Clean

/-!
# Statements with one more raw condition

A condition that can be written binds its values at one place of a statement and leaves the others
alone. So a statement that can be built can still be built with a raw fragment whose markers are as
many as its values.

## Main definitions

* `SqlQuery.BindsMore` — a statement that binds some values more than another, at one place.
* `Statement.Gains` — what a statement is built into binds some values more.

## Main statements

* `Select.gains_of_condition`, `Modify.gains_of_condition` — one more condition.
-/

namespace BoundQuery

/-- The parameters of `q'` are those of `q` with some more put in at one place. -/
def SqlQuery.BindsMore (q : SqlQuery) (values : List Value) (q' : SqlQuery) : Prop :=
  ∃ before after, q.params = before ++ after ∧ q'.params = before ++ values ++ after

/-- Whatever a statement is built into, the other one is built into that too and binds some values
more. -/
def Statement.Gains (st : Statement) (values : List Value) (st' : Statement) : Prop :=
  ∀ outcome q, Builds st outcome q → ∃ q', Builds st' outcome q' ∧ q.BindsMore values q'

/-! ## One more condition -/

namespace Template

theorem join_concat (separator : Str) {ts : List Template} (nonempty : ts ≠ []) (t : Template) :
    join separator (ts ++ [t]) = join separator ts ++ .text separator :: t := by
  fun_induction join separator ts with
  | case1 => exact absurd rfl nonempty
  | case2 s => rfl
  | case3 s ts others ih =>
    rw [List.cons_append, join, ih others, List.append_assoc, List.cons_append]
    simp

end Template

namespace Condition

variable {d : Dialect} {marker : List Chr} {cs : List Condition} {c : Condition} {t : Template}

theorem templates_concat {ts : List Template} (made : templates d marker cs = .ok ts)
    (last : c.template? d marker = .ok (some t)) :
    templates d marker (cs ++ [c]) = .ok (ts ++ [t]) := by
  obtain ⟨found, each, same⟩ := Result.bind_eq_ok.1 made
  cases same
  have more : (cs ++ [c]).mapM (template? d marker) = .ok (found ++ [some t]) :=
    Result.mapM_eq_ok.2 (List.rel_append (Result.mapM_eq_ok.1 each) (.cons last .nil))
  rw [templates, more]
  exact congrArg Except.ok (List.filterMap_append)

/-- A clause binds the values of one more condition after those that it bound before. -/
theorem values_conditionClause_concat {t? : Option Template} (keyword : Str)
    (made : conjunction? d marker cs = .ok t?) (last : c.template? d marker = .ok (some t)) :
    ∃ t?', conjunction? d marker (cs ++ [c]) = .ok t?' ∧
      (conditionClause keyword t?').values = (conditionClause keyword t?).values ++ t.values := by
  obtain ⟨ts, each, rfl⟩ := conjunction?_eq_ok.1 made
  refine ⟨joined? (ts ++ [t]), conjunction?_eq_ok.2 ⟨_, templates_concat each last, rfl⟩, ?_⟩
  cases ts with
  | nil => rfl
  | cons first others =>
    have joined := Template.join_concat conjunction (List.cons_ne_nil first others) t
    simp only [List.cons_append] at joined
    simp [joined?, conditionClause, joined, Template.values]

/-- When conditions are written, each of them can be. -/
theorem exists_template?_of_mem {t? : Option Template} (made : conjunction? d marker cs = .ok t?)
    (mem : c ∈ cs) : ∃ s?, c.template? d marker = .ok s? := by
  obtain ⟨ts, each, _⟩ := conjunction?_eq_ok.1 made
  obtain ⟨found, answered, _⟩ := Result.bind_eq_ok.1 each
  obtain ⟨s?, _, written⟩ := Result.exists_of_mem_right (Result.mapM_eq_ok.1 answered).flip mem
  exact ⟨s?, written⟩

end Condition

namespace Select

theorem values_joins (joins : List Join) :
    Template.values (joins.map fun j => .text (joinText j)) = [] := by
  induction joins with
  | nil => rfl
  | cons j joins ih => exact ih

theorem values_body_concat {s : Select} {body t : Template} {c : Condition}
    (made : s.body = .ok body) (last : c.template? .relational s.config.marker = .ok (some t)) :
    ∃ body' before after, (s.apply (.condition c)).body = .ok body' ∧
      body.values = before ++ after ∧ body'.values = before ++ t.values ++ after := by
  obtain ⟨wheres, restricted, h⟩ := Result.bind_eq_ok.1 made
  obtain ⟨having, grouped, same⟩ := Result.bind_eq_ok.1 h
  cases same
  obtain ⟨wheres', restricted', more⟩ :=
    Condition.values_conditionClause_concat " WHERE " restricted last
  refine ⟨_, (conditionClause " WHERE " wheres).values, (conditionClause " HAVING " having).values,
    Result.bind_eq_ok.2 ⟨wheres', restricted', Result.bind_eq_ok.2 ⟨having, grouped, rfl⟩⟩, ?_, ?_⟩
  · simp [Template.values, values_joins]
  · simp [Template.values, values_joins, more, apply]

/-- A selection with one more condition that can be written. -/
theorem gains_of_condition {s : Select} {c : Condition} {t : Template}
    (last : c.template? .relational s.config.marker = .ok (some t)) :
    (Statement.select s).Gains t.values (.select (s.apply (.condition c))) := by
  intro outcome q builds
  cases builds with
  | select built =>
    obtain ⟨fields, spelled, h⟩ := Result.bind_eq_ok.1 built
    obtain ⟨body, made, same⟩ := Result.bind_eq_ok.1 h
    cases same
    obtain ⟨body', before, after, made', values, values'⟩ := values_body_concat made last
    refine ⟨_, .select (Result.bind_eq_ok.2 ⟨fields, spelled, Result.bind_eq_ok.2
      ⟨body', made', rfl⟩⟩), before, after ++ s.tail.values, ?_, ?_⟩
    · simp [head, Template.values, values]
    · simp [head, Template.values, values', tail, apply]
  | count built =>
    obtain ⟨body, made, same⟩ := Result.bind_eq_ok.1 built
    cases same
    obtain ⟨body', before, after, made', values, values'⟩ := values_body_concat made last
    refine ⟨_, .count (Result.bind_eq_ok.2 ⟨body', made', rfl⟩), before, after, ?_, ?_⟩
    · simp [head, Template.values, values]
    · simp [head, Template.values, values']

/-- What can be built has conditions that can be written. -/
theorem exists_template?_of_builds {s : Select} {outcome : Statement.Outcome} {q : SqlQuery}
    (builds : Statement.Builds (.select s) outcome q) :
    ∀ c ∈ s.conditions, ∃ s?, c.template? .relational s.config.marker = .ok s? := by
  intro c mem
  have written {body : Template} (made : s.body = .ok body) :
      ∃ s?, c.template? .relational s.config.marker = .ok s? := by
    obtain ⟨wheres, restricted, _⟩ := Result.bind_eq_ok.1 made
    exact Condition.exists_template?_of_mem restricted mem
  cases builds with
  | select built =>
    obtain ⟨fields, _, h⟩ := Result.bind_eq_ok.1 built
    obtain ⟨body, made, _⟩ := Result.bind_eq_ok.1 h
    exact written made
  | count built =>
    obtain ⟨body, made, _⟩ := Result.bind_eq_ok.1 built
    exact written made

end Select

namespace Modify

/-- An update or a deletion with one more condition that can be written. -/
theorem gains_of_condition {s : Modify} {c : Condition} {t : Template}
    (last : c.template? .relational s.config.marker = .ok (some t)) :
    (Statement.modify s).Gains t.values (.modify (s.apply (.condition c))) := by
  intro outcome q builds
  cases builds with
  | modify built =>
    obtain ⟨whole, made, same⟩ := Result.bind_eq_ok.1 built
    cases same
    obtain ⟨wheres, restricted, same⟩ := Result.bind_eq_ok.1 made
    cases same
    obtain ⟨wheres', restricted', more⟩ :=
      Condition.values_conditionClause_concat " WHERE " restricted last
    refine ⟨_, .modify (Result.bind_eq_ok.2 ⟨_, Result.bind_eq_ok.2 ⟨wheres', restricted', rfl⟩,
      rfl⟩), s.head.values ++ (conditionClause " WHERE " wheres).values, [], ?_, ?_⟩
    · simp [values_returningClause]
    · simp [values_returningClause, more, apply, head]

theorem exists_template?_of_builds {s : Modify} {outcome : Statement.Outcome} {q : SqlQuery}
    (builds : Statement.Builds (.modify s) outcome q) :
    ∀ c ∈ s.conditions, ∃ s?, c.template? .relational s.config.marker = .ok s? := by
  intro c mem
  cases builds with
  | modify built =>
    obtain ⟨whole, made, _⟩ := Result.bind_eq_ok.1 built
    obtain ⟨wheres, restricted, _⟩ := Result.bind_eq_ok.1 made
    exact Condition.exists_template?_of_mem restricted mem

end Modify

/-! ## Raw fragments -/

/-- The pieces with the marker between each two, as a fragment of the caller. -/
def Marker.joined (marker : List Chr) (pieces : List (List Chr)) : Text :=
  .plain (Str.ofList (marker.intercalate pieces))

namespace Marker

variable {marker : List Chr} {pieces : List (List Chr)}

@[simp] theorem chars_joined : (joined marker pieces).chars = marker.intercalate pieces := by
  simp [joined, Text.chars, Text.spelling]

theorem isBlank_joined (two : 2 ≤ pieces.length) (h : ∃ c ∈ marker, Chars.isBlank c = false) :
    (joined marker pieces).isBlank = false := by
  obtain ⟨c, mem, visible⟩ := h
  have inside : c ∈ marker.intercalate pieces := by
    match pieces, two with
    | first :: second :: others, _ => simp [List.intercalate_cons_of_ne_nil, mem]
  have shown : ∃ c ∈ (joined marker pieces).chars, Chars.isBlank c = false :=
    ⟨c, by rwa [chars_joined], visible⟩
  simpa [Text.isBlank, Chars.isAllBlank, Text.chars] using shown

theorem template_joined {values : List Value} (count : values.length + 1 = pieces.length)
    (cut : split marker (marker.intercalate pieces) = .ok pieces) :
    template marker (joined marker pieces) values = .ok (Template.weave pieces values) := by
  rw [template, chars_joined, cut]
  exact if_pos (by simpa using count.symm)

/-- A marker that begins with a quote is not found, so that there are more values than markers. -/
theorem template_joined_ne_ok {values : List Value} (nonempty : marker ≠ [])
    (two : 2 ≤ pieces.length) (count : values.length + 1 = pieces.length)
    (quote : marker.head? = some (.scalar '\'')) (t : Template) :
    template marker (joined marker pieces) values ≠ .ok t := by
  intro made
  obtain ⟨found, cut, length, _⟩ := template_eq_ok made
  obtain ⟨found', cut', decomposed⟩ := exists_split nonempty (joined marker pieces).chars
  obtain rfl : found = found' := Except.ok.inj (cut.symm.trans cut')
  rw [← decomposed.unique nonempty (isDecomposition_of_quote quote _),
    List.length_singleton] at length
  omega

end Marker

theorem elementsOrNone_list (values : List Value) :
    (Value.list values).elementsOrNone = .ok values := by
  cases values <;> rfl

/-- The call with joined pieces and values for the markers between them. -/
def Restriction.joined (marker : List Chr) (pieces : List (List Chr)) (values : List Value) :
    Restriction :=
  .raw (.text (Marker.joined marker pieces)) (.list values)

/-- The condition that the call adds. -/
def Condition.joined (marker : List Chr) (pieces : List (List Chr)) (values : List Value) :
    Condition :=
  .raw (Marker.joined marker pieces) values

section
variable {marker : List Chr} {pieces : List (List Chr)} {values : List Value}

theorem Restriction.conditions_joined (two : 2 ≤ pieces.length)
    (visible : ∃ c ∈ marker, Chars.isBlank c = false) (values : List Value) :
    (joined marker pieces values).conditions .relational =
      .ok [.joined marker pieces values] := by
  have nonblank := Marker.isBlank_joined two visible
  have made : Condition.makeRaw (.text (Marker.joined marker pieces)) (.list values) =
      .ok (.joined marker pieces values) := by
    rw [Condition.makeRaw, if_neg (by simp [nonblank]), elementsOrNone_list]
    rfl
  rw [joined, conditions, made]
  rfl

theorem Condition.template?_joined (d : Dialect) (count : values.length + 1 = pieces.length)
    (cut : Marker.split marker (marker.intercalate pieces) = .ok pieces) :
    (joined marker pieces values).template? d marker =
      .ok (some (Template.weave pieces values)) := by
  rw [joined, template?, Marker.template_joined count cut]
  rfl

theorem Condition.template?_joined_ne_ok (d : Dialect) (nonempty : marker ≠ [])
    (two : 2 ≤ pieces.length) (count : values.length + 1 = pieces.length)
    (quote : marker.head? = some (.scalar '\'')) (t? : Option Template) :
    (joined marker pieces values).template? d marker ≠ .ok t? := by
  intro written
  obtain ⟨t, woven, _⟩ := Result.map_eq_ok.1 written
  exact Marker.template_joined_ne_ok nonempty two count quote t woven

end

theorem Select.step_restrict_of_single {r : Restriction} {c : Condition}
    (single : r.conditions .relational = .ok [c]) (s : Select) :
    s.step (.restrict r) = (s.apply (.condition c), none) := by
  rw [step, Call.effect, single]
  rfl

theorem Modify.step_restrict_of_single {r : Restriction} {c : Condition}
    (single : r.conditions .relational = .ok [c]) (s : Modify) :
    s.step (.restrict r) = (s.apply (.condition c), none) := by
  rw [step, Call.effect, single]
  rfl

namespace Statement

/-- With a marker that does not begin with a quote the values are bound, and with one that does
nothing is built. -/
structure TakesJoined (marker : List Chr) (values : List Value) (st st' : Statement) : Prop where
  gains : marker.head? ≠ some (.scalar '\'') → st.Gains values st'
  fails : marker.head? = some (.scalar '\'') → ∀ outcome q, ¬ Builds st' outcome q

/-- Pieces without quotes and characters of the marker are joined by the marker of a configuration
that has passed its check. If the marker does not begin with a quote, they are found again and a
statement takes them with a value for each marker; if it does, neither is the case. -/
theorem takes_joined {settings : Settings} {config : Config}
    (accepted : Config.ofSettings settings = .ok config) {pieces : List (List Chr)}
    (two : 2 ≤ pieces.length)
    (plain : ∀ piece ∈ pieces, .scalar '\'' ∉ piece ∧ ∀ c ∈ config.marker, c ∉ piece) :
    (Marker.split config.marker (config.marker.intercalate pieces) = .ok pieces ↔
      config.marker.head? ≠ some (.scalar '\'')) ∧
    ∀ values : List Value, values.length + 1 = pieces.length →
      (∀ s : Select, s.config = config →
        ∃ s', s.step (.restrict (.joined config.marker pieces values)) = (s', none) ∧
          TakesJoined config.marker values (.select s) (.select s')) ∧
      ∀ s : Modify, s.config = config →
        ∃ s', s.step (.restrict (.joined config.marker pieces values)) = (s', none) ∧
          TakesJoined config.marker values (.modify s) (.modify s') := by
  have nonempty := Config.marker_ne_nil accepted
  have found := Marker.split_intercalate_eq_ok_iff nonempty two plain
  refine ⟨found, fun values count => ?_⟩
  have single := Restriction.conditions_joined two (Config.marker_of_ofSettings accepted).1 values
  have bound : (Template.weave pieces values).values = values := Template.values_weave count.symm
  have written (unquoted : config.marker.head? ≠ some (.scalar '\'')) :=
    Condition.template?_joined .relational count (found.2 unquoted)
  have unwritten (quote : config.marker.head? = some (.scalar '\'')) :=
    Condition.template?_joined_ne_ok .relational nonempty two count quote
  constructor
  · rintro s rfl
    refine ⟨_, s.step_restrict_of_single single, fun unquoted => ?_, ?_⟩
    · simpa [bound] using Select.gains_of_condition (written unquoted)
    · intro quote outcome q builds
      obtain ⟨t?, made⟩ := Select.exists_template?_of_builds builds
        (.joined s.config.marker pieces values) (by simp [Select.apply])
      exact unwritten quote t? made
  · rintro s rfl
    refine ⟨_, s.step_restrict_of_single single, fun unquoted => ?_, ?_⟩
    · simpa [bound] using Modify.gains_of_condition (written unquoted)
    · intro quote outcome q builds
      obtain ⟨t?, made⟩ := Modify.exists_template?_of_builds builds
        (.joined s.config.marker pieces values) (by simp [Modify.apply])
      exact unwritten quote t? made

/-- The standard configuration with another marker. -/
def marked (marker : Str) : Config :=
  { Config.standard with rawMarker := .plain marker }

/-- A selection of all users. -/
def everyone (config : Config) : Select where
  config := config
  table := .plain "users"
  fields := [.str "*"]

/-- The pieces around two ages. -/
def between : List (List Chr) :=
  [Str.toList "age BETWEEN ", Str.toList " AND ", []]

theorem takes_joined_ages :
    Config.ofSettings { rawMarker := .str "@'" } = .ok (marked "@'") ∧
    (∀ piece ∈ between, .scalar '\'' ∉ piece ∧ ∀ c ∈ (marked "@'").marker, c ∉ piece) ∧
    Marker.split ['@', '\''] (Str.toList "age BETWEEN @' AND @'") = .ok between ∧
    ∃ s', (everyone (marked "@'")).step (.restrict (.joined ['@', '\''] between
        [.int 18, .int 65])) = (s', none) ∧
      TakesJoined ['@', '\''] [.int 18, .int 65] (.select (everyone (marked "@'")))
        (.select s') := by
  have accepted : Config.ofSettings { rawMarker := .str "@'" } = .ok (marked "@'") := by rfl
  have plain : ∀ piece ∈ between, .scalar '\'' ∉ piece ∧ ∀ c ∈ (marked "@'").marker, c ∉ piece := by
    simp [between, marked, Config.marker, Text.chars, Text.spelling]
  have taken := takes_joined accepted (by decide) plain
  exact ⟨accepted, plain, taken.1.2 (by decide),
    (taken.2 [.int 18, .int 65] rfl).1 (everyone (marked "@'")) rfl⟩

/-- A configuration may have a quote for its marker, but then no marker is ever found. -/
theorem joined_by_quote_fails :
    Config.ofSettings { rawMarker := .str "'" } = .ok (marked "'") ∧
    Marker.split ['\''] ([.scalar '\''].intercalate [Str.toList "age = ", []]) =
      .ok [Str.toList "age = '"] ∧
    ((everyone (marked "'")).step (.restrict (.raw (.str "age = '") (.list [.int 18])))).1.build =
      .error (.refusal (.markerCount (.str "age = '") 0 1)) := by
  refine ⟨by rfl, by rfl, by rfl⟩

end Statement

end BoundQuery
