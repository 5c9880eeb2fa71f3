import BoundQuery.Proofs.GraphQuery.Origin
import BoundQuery.Proofs.Placeholder.Separator

/-!
# The text between clauses

Two configurations that differ only in the text between clauses collect the same clauses, whatever
the caller does, and so build queries with the same parameters. The placeholders in the text of both
queries are the same as long as the texts between the clauses separate. A configuration accepts any
text: one that does not separate runs on a name or brings in a name of its own.

## Main definitions

* `Config.separatedBy` — a configuration with another text between clauses.
* `GraphQuery.builtWith` — what a session builds with a text between clauses.

## Main statements

* `GraphQuery.names_of_builtWith` — the names in a query are those in its clauses.
* `GraphQuery.builtWith_of_separators` — which texts between clauses leave the names alone.
-/

namespace BoundQuery

/-- The configuration with another text between the clauses of a query. -/
def Config.separatedBy (config : Config) (between : Text) : Config :=
  { config with clauseSeparator := .text between }

namespace GraphQuery

open Placeholder

/-! ## Other configurations -/

/-- The query under another configuration. -/
def under (q : GraphQuery) (config : Config) : GraphQuery :=
  { q with config }

variable {q : GraphQuery} {config config' : Config}

theorem foldl_apply_under (edits : List Edit) (q : GraphQuery) (config : Config) :
    edits.foldl apply (q.under config) = (edits.foldl apply q).under config := by
  induction edits generalizing q with
  | nil => rfl
  | cons e edits ih =>
    have first : (q.under config).apply e = (q.apply e).under config := by cases e <;> rfl
    rw [List.foldl_cons, List.foldl_cons, first, ih]

theorem step_under (same : config.marker = q.config.marker) (c : Call) :
    (q.under config).step c = ((q.step c).1.under config, (q.step c).2) := by
  have marker : (q.under config).config.marker = q.config.marker := same
  have counter : (q.under config).counter = q.counter := rfl
  unfold step
  rw [marker, counter]
  generalize c.effect q.config.marker q.counter = effect
  exact congrArg (·, effect.1.fault)
    (foldl_apply_under effect.1.edits { q with counter := effect.2 } config)

theorem make_under (q : GraphQuery) (config : Config) (making : Making) :
    (q.under config).make making = ((q.make making).1, (q.make making).2.under config) :=
  rfl

namespace Session

/-- The session under another configuration. -/
def under (s : Session) (config : Config) : Session :=
  { s with query := s.query.under config }

variable {s : Session}

theorem step_under (same : config.marker = s.query.config.marker) (st : Step) :
    ((s.under config).step st).1 = (s.step st).1.under config := by
  cases st with
  | make label recipe =>
    have making : (s.under config).making recipe = s.making recipe := by cases recipe <;> rfl
    have made : (s.under config).query.make (s.making recipe) = _ :=
      s.query.make_under config (s.making recipe)
    rw [step, step, making, made]
    rcases s.query.make (s.making recipe) with ⟨answer, query⟩
    cases answer <;> rfl
  | place placing label =>
    have called : (s.under config).query.step _ = _ :=
      GraphQuery.step_under same (placing.call (s.value (.made label)))
    exact congrArg (Session.mk ·.1 s.made) called
  | call c =>
    have called : (s.under config).query.step c = _ := GraphQuery.step_under same c
    exact congrArg (Session.mk ·.1 s.made) called

/-- A session does the same under configurations with one marker. -/
theorem run_under (same : config'.marker = config.marker) (steps : List Step) :
    run config' steps = (run config steps).under config' := by
  induction steps using List.reverseRecOn with
  | nil => rfl
  | append_singleton steps st ih =>
    rw [run_concat, run_concat, ih, step_under (same.trans (marker_run config steps).symm)]

end Session

/-! ## What is built -/

/-- What a session builds with a text between the clauses. -/
def builtWith (config : Config) (between : Text) (steps : List Step) : Result CypherQuery :=
  (Session.run (config.separatedBy between) steps).query.build

/-- The clauses do not depend on the text between them. -/
theorem builtWith_eq (config : Config) (between : Text) (steps : List Step) :
    builtWith config between steps = (Session.run config steps).query.clauses.map fun cs =>
      { query := Str.intercalate between.spelling (cs.map (·.text)), params := params cs } := by
  have marker : (config.separatedBy between).marker = config.marker := rfl
  have same : ((Session.run config steps).query.under (config.separatedBy between)).clauses =
      (Session.run config steps).query.clauses := rfl
  rw [builtWith, Session.run_under marker, Session.under, build, same]
  cases (Session.run config steps).query.clauses <;> rfl

/-- The names in a query are those in its clauses, one after the other. -/
theorem names_of_builtWith {between : Text} {steps : List Step} {r : CypherQuery}
    (separates : Separates .graph between.chars) (built : builtWith config between steps = .ok r) :
    ∃ cs, (Session.run config steps).query.clauses = .ok cs ∧
      names .graph r.query = cs.flatMap fun c => names .graph c.text := by
  rw [builtWith_eq] at built
  obtain ⟨cs, listed, rfl⟩ := Result.map_eq_ok.1 built
  refine ⟨cs, listed, ?_⟩
  rw [names_intercalate separates, List.flatMap_map]

/-! ## A query of two counts -/

/-- A session whose first clause ends with a name. -/
def counting : List Step :=
  [.call (.skip (.int 1)), .call (.limit (.int 2))]

theorem isClean_counting (marker : List Chr) : ∀ st ∈ counting, st.IsClean marker := by
  simp [counting, Step.IsClean, Call.CallerTextIsClean]

/-- The query with both counts. -/
def twoCounts (config : Config) : GraphQuery where
  config
  counter := 2
  skip := some { text := "SKIP $skip1", params := [("skip1", .int 1)] }
  limit := some { text := "LIMIT $limit2", params := [("limit2", .int 2)] }

theorem query_counting (config : Config) :
    (Session.run config counting).query = twoCounts config := by
  with_unfolding_all rfl

theorem clauses_twoCounts (config : Config) :
    (twoCounts config).clauses = .ok
      [{ text := "SKIP $skip1", pieces := (twoCounts config).skip.toList },
        { text := "LIMIT $limit2", pieces := (twoCounts config).limit.toList }] :=
  rfl

theorem builtWith_counting (config : Config) (between : Text) :
    builtWith config between counting = .ok
      { query := "SKIP $skip1" ++ (between.spelling ++ "LIMIT $limit2")
        params := [("skip1", .int 1), ("limit2", .int 2)] } := by
  rw [builtWith_eq, query_counting, clauses_twoCounts]
  change Except.ok (CypherQuery.mk (Str.intercalate between.spelling
    ["SKIP $skip1", "LIMIT $limit2"]) _) = _
  rw [Str.intercalate_cons_cons, Str.intercalate_singleton, Str.append_assoc]
  rfl

/-- A text between the two clauses separates if their names are read as they are. -/
theorem separates_of_counting {between : Text}
    (same : names .graph ("SKIP $skip1" ++ (between.spelling ++ "LIMIT $limit2")) =
      [("skip1" : Str), "limit2"]) :
    Separates .graph between.chars := by
  have split : ("SKIP $skip1" ++ (between.spelling ++ "LIMIT $limit2")).toList =
      (Str.toList "SKIP ") ++ (.scalar '$' :: (Str.toList "skip1") ++
        (between.chars ++ ((Str.toList "LIMIT") ++ (Str.toList " $limit2")))) := by
    simp [Text.chars]
  have skipped : BeginsNoName .graph (Str.toList "SKIP ") := beginsNoName_of_notMem (by decide)
  change namesIn .graph _ = _ at same
  rw [split, namesIn_append_of_beginsNoName skipped] at same
  have last : [("skip1" : Str), "limit2"] =
      Str.ofList (Str.toList "skip1") :: namesIn .graph (Str.toList " $limit2") := by decide +kernel
  exact separates_of_names (by decide) (isWordChar_of_all (by decide)) (by decide)
    (isWordChar_of_all (by decide)) (isWordChar_head_of_all (by decide)) (same.trans last)

/-- The parameters of a query do not depend on the text between its clauses. The names in the query
do not depend on it as long as it separates; of any other text the names in some query do. -/
theorem builtWith_of_separators (config : Config) (between : Text) :
    (∀ (other : Text) (steps : List Step),
      (∃ fault, builtWith config between steps = .error fault ∧
        builtWith config other steps = .error fault) ∨
      ∃ r r', builtWith config between steps = .ok r ∧ builtWith config other steps = .ok r' ∧
        r.params = r'.params) ∧
    (Separates .graph between.chars ↔
      ∀ (other : Text) (steps : List Step) (r r' : CypherQuery),
        Separates .graph other.chars → (∀ st ∈ steps, st.IsClean config.marker) →
        builtWith config between steps = .ok r → builtWith config other steps = .ok r' →
        names .graph r.query = names .graph r'.query) := by
  refine ⟨fun other steps => ?_, fun separates other steps r r' others _ built built' => ?_,
    fun alike => ?_⟩
  · rw [builtWith_eq, builtWith_eq]
    cases (Session.run config steps).query.clauses with
    | error fault => exact .inl ⟨fault, rfl, rfl⟩
    | ok cs => exact .inr ⟨_, _, rfl, rfl, rfl⟩
  · obtain ⟨cs, listed, read⟩ := names_of_builtWith separates built
    obtain ⟨cs', listed', read'⟩ := names_of_builtWith others built'
    cases listed.symm.trans listed'
    rw [read, read']
  · have same := alike (.plain "\n") counting _ _ (by decide)
      (isClean_counting config.marker) (builtWith_counting config _) (builtWith_counting config _)
    have apart : names .graph ("SKIP $skip1" ++ ((Text.plain "\n").spelling ++ "LIMIT $limit2")) =
        (["skip1", "limit2"] : List Str) := by decide +kernel
    exact separates_of_counting (same.trans apart)

/-- A dollar sign by itself does no harm between the clauses. -/
theorem builtWith_of_separators_people :
    Separates .graph (Text.plain " $ ").chars ∧ Separates .graph (Text.plain "\n").chars ∧
    (∀ st ∈ people, st.IsClean Config.standard.marker) ∧
    ∃ r, builtWith .standard (.plain " $ ") people = .ok r ∧ r.params = peopleQuery.params ∧
      names .graph r.query = names .graph peopleQuery.query := by
  have separates : Separates .graph (Text.plain " $ ").chars := by decide
  have newline : Separates .graph (Text.plain "\n").chars := by decide
  have built : builtWith .standard (.plain "\n") people = .ok peopleQuery := build_people
  obtain ⟨both, names⟩ := builtWith_of_separators .standard (.plain " $ ")
  refine ⟨separates, newline, isClean_people, ?_⟩
  rcases both (.plain "\n") people with ⟨fault, _, failed⟩ | ⟨r, r', first, second, params⟩
  · rw [built] at failed
    cases failed
  · cases built.symm.trans second
    exact ⟨r, first, params, names.1 separates _ people r _ newline isClean_people first built⟩

/-- Nothing between the clauses is accepted as well, but then a name goes on into the next
clause. -/
theorem builtWith_nothing :
    Config.ofSettings {} = .ok (Config.standard.separatedBy (.plain "\n")) ∧
    Config.ofSettings { clauseSeparator := .str "" } =
      .ok (Config.standard.separatedBy (.plain "")) ∧
    (∀ st ∈ counting, st.IsClean Config.standard.marker) ∧
    (∃ r, builtWith .standard (.plain "\n") counting = .ok r ∧
      names .graph r.query = (["skip1", "limit2"] : List Str)) ∧
    ∃ r, builtWith .standard (.plain "") counting = .ok r ∧
      names .graph r.query = (["skip1LIMIT", "limit2"] : List Str) := by
  refine ⟨by rfl, by rfl, isClean_counting _, ⟨_, builtWith_counting _ _, ?_⟩,
    ⟨_, builtWith_counting _ _, ?_⟩⟩
  · decide +kernel
  · decide +kernel

end GraphQuery
end BoundQuery
