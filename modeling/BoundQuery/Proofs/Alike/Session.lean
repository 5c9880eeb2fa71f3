import BoundQuery.Proofs.Alike.GraphQuery
import BoundQuery.Proofs.GraphQuery.Session

/-!
# Sessions with other values

Two sessions with the same steps, but for values of the same shape, keep alike patterns under the
same labels and place them alike. With the runs on relational statements this says that no value
gets into a text, or decides what is written there.

## Main definitions

* `GraphQuery.Step.Alike` — the same step with values of the same shape.
* `GraphQuery.Session.Alike` — alike queries, and alike patterns under the same labels.

## Main statements

* `GraphQuery.Session.Alike.step` — alike steps on alike sessions.
* `build_of_alike` — what is built after alike calls.
-/

namespace BoundQuery

open Result (Agree)

namespace GraphQuery

/-! ## Steps -/

section
variable (R : Value → Value → Prop)

inductive Source.Alike : Source → Source → Prop
  | made (label : Nat) : Alike (.made label) (.made label)
  | given {v w : Value} (patterns : PatternsAlike R v w) : Alike (.given v) (.given w)

inductive Recipe.Alike : Recipe → Recipe → Prop
  | plain {m m' : Making} (makings : m.Alike R m') : Alike (.plain m) (.plain m')
  | path (listing : Listing) {es fs : List Source}
      (elements : List.Forall₂ (Source.Alike R) es fs) :
      Alike (.path listing es) (.path listing fs)

/-- The same step with values of the same shape. -/
inductive Step.Alike : Step → Step → Prop
  | make (label : Nat) {recipe recipe' : Recipe} (recipes : recipe.Alike R recipe') :
      Alike (.make label recipe) (.make label recipe')
  | place (placing : Placing) (label : Nat) : Alike (.place placing label) (.place placing label)
  | call {c c' : Call} (calls : c.Alike R c') : Alike (.call c) (.call c')

/-- Alike queries, and alike patterns under the same labels. -/
structure Session.Alike (s t : Session) : Prop where
  query : s.query.Alike R t.query
  made : List.Forall₂ (Keyed (Pattern.Alike R)) s.made t.made

end

theorem Placing.alike_call {R : Value → Value → Prop} (placing : Placing) {v w : Value}
    (h : PatternsAlike R v w) : (placing.call v).Alike R (placing.call w) := by
  cases placing with
  | matching => exact .matching h
  | optionalMatching => exact .optionalMatching h
  | create => exact .create h
  | merge => exact .merge h

namespace Session

variable {R : Value → Value → Prop} {s t : Session}

theorem Alike.pattern? (h : s.Alike R t) (label : Nat) :
    Option.Rel (Pattern.Alike R) (s.pattern? label) (t.pattern? label) := by
  unfold Session.pattern?
  have made := h.made
  generalize s.made = es at made ⊢
  generalize t.made = fs at made ⊢
  induction made with
  | nil => exact .none
  | @cons e f es fs first _ ih =>
    obtain ⟨l, p⟩ := e
    obtain ⟨l', q⟩ := f
    obtain ⟨same, patterns⟩ := first
    cases same
    by_cases here : label = l
    · subst here
      simpa using Option.Rel.some patterns
    · rw [List.lookup_cons, List.lookup_cons, beq_false_of_ne here]
      exact ih

theorem Alike.value (h : s.Alike R t) {e f : Source} (sources : e.Alike R f) :
    PatternsAlike R (s.value e) (t.value f) := by
  cases sources with
  | made label =>
    have patterns := h.pattern? label
    rw [Session.value, Session.value]
    generalize s.pattern? label = p at patterns ⊢
    generalize t.pattern? label = q at patterns ⊢
    cases patterns with
    | none => exact .other fun _ => Value.noConfusion
    | some same => exact Pattern.patternsAlike_toValue same
  | given patterns => exact patterns

theorem Alike.making (h : s.Alike R t) {recipe recipe' : Recipe}
    (recipes : recipe.Alike R recipe') :
    (s.making recipe).Alike R (t.making recipe') := by
  cases recipes with
  | plain makings => exact makings
  | path listing elements =>
    refine .path ?_
    rw [listing.elements_value, listing.elements_value]
    refine .ok ?_
    exact List.rel_map (fun _ _ sources => h.value sources) elements

/-- Alike steps on alike sessions lead to alike sessions, and are turned down together. -/
theorem Alike.step (h : s.Alike R t) {st st' : Step} (steps : st.Alike R st') :
    (s.step st).1.Alike R (t.step st').1 ∧ (s.step st).2.isSome = (t.step st').2.isSome := by
  cases steps with
  | make label recipes =>
    obtain ⟨answers, queries⟩ := h.query.make (h.making recipes)
    unfold Session.step
    dsimp only
    generalize s.query.make _ = ended at answers queries ⊢
    generalize t.query.make _ = ended' at answers queries ⊢
    obtain ⟨answer, query⟩ := ended
    obtain ⟨answer', query'⟩ := ended'
    cases answers with
    | ok patterns =>
      exact ⟨⟨queries, List.rel_append h.made (.cons ⟨rfl, patterns⟩ .nil)⟩, rfl⟩
    | error fault fault' => exact ⟨⟨queries, h.made⟩, rfl⟩
  | place placing label =>
    obtain ⟨queries, verdicts⟩ := h.query.step (placing.alike_call (h.value (.made label)))
    exact ⟨⟨queries, h.made⟩, verdicts⟩
  | call calls =>
    obtain ⟨queries, verdicts⟩ := h.query.step calls
    exact ⟨⟨queries, h.made⟩, verdicts⟩

/-- Alike steps from alike sessions on lead to alike sessions, and the same steps are turned
down. -/
theorem related_runs {steps steps' : List Step} (h : s.Alike R t)
    (same : List.Forall₂ (Step.Alike R) steps steps') :
    (Run.after Session.step s steps).Alike R (Run.after Session.step t steps') ∧
      Run.verdicts Session.step s steps = Run.verdicts Session.step t steps' := by
  have each : ∀ (u v : Session) st st', u.Alike R v → Step.Alike R st st' →
      (u.step st).1.Alike R (v.step st').1 ∧ (u.step st).2.isSome = (v.step st').2.isSome :=
    fun _ _ _ _ alike steps => alike.step steps
  exact Run.related each same h

theorem alike_new (config : Config) : Alike R { query := { config } } { query := { config } } where
  query := ⟨rfl, rfl, fun _ => .nil, rfl, rfl, rfl, rfl, rfl, .none, .none⟩
  made := .nil

end Session
end GraphQuery

/-! ## What is built -/

open Run GraphQuery in
/-- Two runs of the same calls with values of the same shape: the same calls are turned down, and
what is built has the same text, with parameters that are related one by one. -/
theorem build_of_alike (R : Value → Value → Prop) :
    (∀ (config : Config) (table fields : Value) (s : Select),
      Select.make config table fields = .ok s →
      ∀ calls calls', List.Forall₂ (Select.Call.Alike R config) calls calls' →
        verdicts Select.step s calls = verdicts Select.step s calls' ∧
        Agree (SqlQuery.Alike R) (after Select.step s calls).build
          (after Select.step s calls').build ∧
        Agree (SqlQuery.Alike R) (after Select.step s calls).buildCount
          (after Select.step s calls').buildCount) ∧
    (∀ (table data data' : Value) (calls : List Insert.Call), RowsAlike R data data' →
      Agree (fun s t => verdicts Insert.step s calls = verdicts Insert.step t calls ∧
          SqlQuery.Alike R (after Insert.step s calls).build (after Insert.step t calls).build)
        (Insert.make table data) (Insert.make table data')) ∧
    (∀ (config : Config) (table data data' : Value) (calls calls' : List Modify.Call),
      MappingsAlike R data data' → List.Forall₂ (Modify.Call.Alike R) calls calls' →
      Agree (fun s t => verdicts Modify.step s calls = verdicts Modify.step t calls' ∧
          Agree (SqlQuery.Alike R) (after Modify.step s calls).build
            (after Modify.step t calls').build)
        (Modify.makeUpdate config table data) (Modify.makeUpdate config table data')) ∧
    (∀ (config : Config) (table : Value) (calls calls' : List Modify.Call),
      List.Forall₂ (Modify.Call.Alike R) calls calls' →
      Agree (fun s t => verdicts Modify.step s calls = verdicts Modify.step t calls' ∧
          Agree (SqlQuery.Alike R) (after Modify.step s calls).build
            (after Modify.step t calls').build)
        (Modify.makeDelete config table) (Modify.makeDelete config table)) ∧
    (∀ (config : Config) (steps steps' : List Step), List.Forall₂ (Step.Alike R) steps steps' →
      verdicts Session.step { query := { config } } steps =
        verdicts Session.step { query := { config } } steps' ∧
      Agree (CypherQuery.Alike R) (Session.run config steps).query.build
        (Session.run config steps').query.build) := by
  refine ⟨?_, ?_, ?_, ?_, ?_⟩
  · intro config table fields s made calls calls' same
    have fixed : s.config = config := by
      obtain ⟨name, listed, rfl⟩ := Select.exists_of_make made
      rfl
    rw [← fixed] at same
    obtain ⟨after, verdicts⟩ := Select.related_runs (Select.alike_of_make made) same
    exact ⟨verdicts, after.agree_build, after.agree_buildCount⟩
  · intro table data data' calls rows
    refine (Insert.agree_make table rows).imp fun s t alike => ?_
    obtain ⟨after, verdicts⟩ := Insert.related_runs calls alike
    exact ⟨verdicts, after.build⟩
  · intro config table data data' calls calls' mappings same
    refine (Modify.agree_makeUpdate config table mappings).imp fun s t alike => ?_
    obtain ⟨after, verdicts⟩ := Modify.related_runs alike same
    exact ⟨verdicts, after.agree_build⟩
  · intro config table calls calls' same
    have made : Agree (Modify.Alike R) _ _ := Modify.agree_makeDelete config table
    refine made.imp fun s t alike => ?_
    obtain ⟨after, verdicts⟩ := Modify.related_runs alike same
    exact ⟨verdicts, after.agree_build⟩
  · intro config steps steps' same
    obtain ⟨after, verdicts⟩ := Session.related_runs (Session.alike_new config) same
    exact ⟨verdicts, after.query.agree_build⟩

/-- What stands for what in the runs below. -/
inductive Swapped : Value → Value → Prop
  | name : Swapped (.str "Ada") (.str "x' OR 1 = 1 --")
  | member : Swapped (.int 1) .null
  | count : Swapped (.int 5) (.int 7)
  | record : Swapped (.record [("name", .str "Ada")]) (.record [("name", .null)])

def searched : List Select.Call :=
  [.restrict (.equals (.str "name") (.str "Ada")),
    .restrict (.filters (.record [("id", .list [.int 1])])),
    .limit (.int 5)]

def searchedBySwapped : List Select.Call :=
  [.restrict (.equals (.str "name") (.str "x' OR 1 = 1 --")),
    .restrict (.filters (.record [("id", .tuple [.null])])),
    .limit (.int 7)]

theorem alike_searched :
    List.Forall₂ (Select.Call.Alike Swapped .standard) searched searchedBySwapped := by
  have members : List.Forall₂ Swapped [.int 1] [.null] := .cons .member .nil
  refine .cons (.restrict (.equals _ (.single rfl rfl rfl .name))) (.cons (.restrict ?_) ?_)
  · exact .filters (.mapping (.cons ⟨rfl, .list rfl rfl members⟩ .nil))
  · exact .cons (.limit (.count (by decide) (by decide) .count)) .nil

namespace GraphQuery

def introduced : List Step :=
  [.make 0 (.plain (.node (.str "n") (.str "Person") (.record [("name", .str "Ada")]))),
    .place .create 0,
    .call (.setProperty (.str "n") (.str "age") (.int 5))]

def introducedBySwapped : List Step :=
  [.make 0 (.plain (.node (.str "n") (.str "Person") (.record [("name", .null)]))),
    .place .create 0,
    .call (.setProperty (.str "n") (.str "age") (.int 7))]

theorem alike_introduced : List.Forall₂ (Step.Alike Swapped) introduced introducedBySwapped :=
  .cons (.make 0 (.plain (.node _ _ (.mapping rfl .record))))
    (.cons (.place .create 0) (.cons (.call (.setProperty _ _ .count)) .nil))

end GraphQuery

open Run GraphQuery in
/-- A text that would end a quoted one, a null and other numbers leave the texts as they are. -/
theorem build_of_alike_swapped :
    Agree (SqlQuery.Alike Swapped) (after Select.step Statement.bare searched).build
      (after Select.step Statement.bare searchedBySwapped).build ∧
    (after Select.step Statement.bare searchedBySwapped).build = .ok
      { text := "SELECT role FROM users WHERE name = $1 AND id IN ($2) LIMIT $3"
        params := [.str "x' OR 1 = 1 --", .null, .int 7] } ∧
    Agree (fun s t => verdicts Insert.step s [] = verdicts Insert.step t [] ∧
        SqlQuery.Alike Swapped (after Insert.step s []).build (after Insert.step t []).build)
      (Insert.make (.str "users") (.record [("id", .int 1)]))
      (Insert.make (.str "users") (.record [("id", .null)])) ∧
    Agree (CypherQuery.Alike Swapped) (Session.run .standard introduced).query.build
      (Session.run .standard introducedBySwapped).query.build ∧
    (Session.run .standard introducedBySwapped).query.build = .ok
      { query := "CREATE (n:Person \x7bname: $props1.name\x7d)\nSET n.age = $param2"
        params := [("props1", .record [("name", .null)]), ("param2", .int 7)] } := by
  obtain ⟨select, insert, _, _, session⟩ := build_of_alike Swapped
  have made : Select.make .standard (.str "users") (.str "role") = .ok Statement.bare := rfl
  refine ⟨(select _ _ _ _ made _ _ alike_searched).2.1, rfl, ?_, ?_, rfl⟩
  · exact insert (.str "users") _ _ [] (.row (.cons ⟨rfl, .member⟩ .nil))
  · exact (session .standard _ _ alike_introduced).2

end BoundQuery
