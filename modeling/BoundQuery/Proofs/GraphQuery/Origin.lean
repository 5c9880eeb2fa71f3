import BoundQuery.Proofs.GraphQuery.Assembly
import BoundQuery.Proofs.GraphQuery.Event

/-!
# Where parameters come from

Whatever a caller does in a session, the parameters of the query that is built are those which its
text names, and each has the value that was handed over in the one call that took its name. A name
that was taken for a pattern which is nowhere placed, or in a slot that has been overwritten, is
neither in the text nor among the parameters.

## Main definitions

* `IsPlaced`, `Event.IsLive` — whether what an event has made is in a clause at the end.

## Main statements

* `Session.names_of_build` — the parameters of a query that is built.
-/

namespace BoundQuery.GraphQuery

/-- Whether the pattern under a label has been placed in a clause, by itself or within a path. -/
inductive IsPlaced (config : Config) (steps : List Step) : Nat → Prop
  | clause {e : Event} {placing : Placing} {x : Nat} (inRun : e.IsIn steps)
    (placed : e.step = .place placing x) (succeeds : e.Succeeds config) : IsPlaced config steps x
  | element {e : Event} {listing : Listing} {elements : List Source} {x y : Nat}
      (inRun : e.IsIn steps)
    (made : e.step = .make y (.path listing elements)) (succeeds : e.Succeeds config)
    (fresh : (e.session config).pattern? y = none) (mem : .made x ∈ elements)
    (placed : IsPlaced config steps y) : IsPlaced config steps x

/-- Whether what an event has made is in a clause at the end: a pattern under a label that was free
has been placed, and nothing has been put into the same slot afterwards. -/
def Event.IsLive (config : Config) (steps : List Step) (e : Event) : Prop :=
  match e.step with
  | .make x _ => (e.session config).pattern? x = none ∧ IsPlaced config steps x
  | .place _ _ => True
  | .call c => c.bucket.isSlot = true → ∀ e' : Event, e'.IsIn steps → e.IsIn e'.before →
    e'.step.target = .bucket c.bucket → ¬ e'.Succeeds config

/-- A name that may stand in a bucket: a live event has taken it, for this bucket or a pattern. -/
def Origin (config : Config) (steps : List Step) (b : Bucket) (stem : Str) (n : Nat)
    (v : Value) : Prop :=
  ∃ e : Event, e.IsIn steps ∧ e.Takes config stem n v ∧ e.IsLive config steps ∧
    ∀ b', e.step.target = .bucket b' → b' = b

/-- A name that may stand in the pattern under a label: it was taken for a pattern which is placed
as soon as the one under the label is. -/
def MadeFor (config : Config) (steps : List Step) (x : Nat) (stem : Str) (n : Nat)
    (v : Value) : Prop :=
  ∃ (e : Event) (y : Nat) (recipe : Recipe), e.IsIn steps ∧ e.step = .make y recipe ∧
    e.Takes config stem n v ∧ (e.session config).pattern? y = none ∧
    ∀ later, steps <+: later → IsPlaced config later x → IsPlaced config later y

variable {config : Config} {steps later : List Step} {st : Step} {b : Bucket} {x n : Nat}
variable {stem : Str} {v : Value}

theorem IsPlaced.mono (h : IsPlaced config steps x) (le : steps <+: later) :
    IsPlaced config later x := by
  induction h with
  | clause inRun placed succeeds => exact .clause (inRun.mono le) placed succeeds
  | element inRun made succeeds fresh mem _ ih =>
    exact .element (inRun.mono le) made succeeds fresh mem ih

theorem MadeFor.mono (h : MadeFor config steps x stem n v) (le : steps <+: later) :
    MadeFor config later x stem n v := by
  obtain ⟨e, y, recipe, inRun, made, taken, fresh, placed⟩ := h
  exact ⟨e, y, recipe, inRun.mono le, made, taken, fresh, fun l le' => placed l (le.trans le')⟩

/-- A name that stands in the pattern under a label also stands in a path with this pattern. -/
theorem MadeFor.element {y : Nat} (h : MadeFor config steps y stem n v)
    (placed : ∀ l, steps <+: l → IsPlaced config l x → IsPlaced config l y) :
    MadeFor config steps x stem n v := by
  obtain ⟨e, z, recipe, inRun, made, taken, fresh, within⟩ := h
  exact ⟨e, z, recipe, inRun, made, taken, fresh, fun l le isPlaced =>
    within l le (placed l le isPlaced)⟩

theorem MadeFor.origin (h : MadeFor config steps x stem n v) (placed : IsPlaced config steps x)
    (b : Bucket) : Origin config steps b stem n v := by
  obtain ⟨e, y, recipe, inRun, made, taken, fresh, within⟩ := h
  refine ⟨e, inRun, taken, ?_, fun b' same => ?_⟩
  · rw [Event.IsLive, made]
    exact ⟨fresh, within steps List.prefix_rfl placed⟩
  · rw [made] at same
    cases same

/-- A name stays in its bucket, unless it is in a slot that is overwritten. -/
theorem Origin.concat (h : Origin config steps b stem n v)
    (kept : b.isSlot = true → st.target = .bucket b → ¬ Event.Succeeds config ⟨steps, st⟩) :
    Origin config (steps ++ [st]) b stem n v := by
  obtain ⟨e, inRun, taken, live, place⟩ := h
  refine ⟨e, inRun.concat st, taken, ?_, place⟩
  unfold Event.IsLive at live ⊢
  cases made : e.step with
  | make y recipe =>
    rw [made] at live
    exact ⟨live.1, live.2.mono (List.prefix_append _ _)⟩
  | place placing y => trivial
  | call c =>
    rw [made] at live
    have same : c.bucket = b := place c.bucket (by rw [made, Step.target])
    intro slot e' inRun' after target
    rcases Event.isIn_concat.1 inRun' with rfl | before
    · rw [same] at slot target
      exact kept slot target
    · exact live slot e' before after target

/-! ## The invariant -/

/-- Every name in a session has an origin. -/
structure Traced (config : Config) (steps : List Step) : Prop where
  made : ∀ x p, (Session.run config steps).pattern? x = some p →
    p.Twins (IsLink (MadeFor config steps x)) id p
  collected : ∀ b, ∀ e ∈ (Session.run config steps).query.collected b,
    e.Twins (Origin config steps b) id e

theorem traced_nil (config : Config) : Traced config [] where
  made x p found := by cases found
  collected b e mem := by cases b <;> cases mem

theorem Traced.made_mono (h : Traced config steps) {p : Pattern}
    (found : (Session.run config steps).pattern? x = some p) :
    p.Twins (IsLink (MadeFor config (steps ++ [st]) x)) id p :=
  (h.made x p found).mono fun _ link =>
    link.mono fun _ _ _ from_ => from_.mono (List.prefix_append _ _)

theorem Traced.collected_mono (h : Traced config steps) {e : Edit}
    (held : e ∈ (Session.run config steps).query.collected b)
    (kept : b.isSlot = true → st.target = .bucket b → ¬ Event.Succeeds config ⟨steps, st⟩) :
    e.Twins (Origin config (steps ++ [st]) b) id e :=
  (h.collected b e held).mono fun _ _ _ origin => origin.concat kept

/-- The last event takes the numbers after the counter. -/
theorem takes_last (succeeds : Event.Succeeds config ⟨steps, st⟩) (i : Nat) (v : Value)
    (found : st.values[i]? = some v) :
    Event.Takes config ⟨steps, st⟩ st.stem ((Session.run config steps).query.counter + i + 1) v :=
  ⟨succeeds, rfl, i, rfl, found⟩

theorem Traced.turnedDown (h : Traced config steps) (clean : st.IsClean config.marker)
    (fails : ¬ Event.Succeeds config ⟨steps, st⟩) : Traced config (steps ++ [st]) := by
  obtain ⟨fault, turned⟩ := Option.ne_none_iff_exists'.1 fails
  obtain ⟨edits, plain, stepped⟩ :=
    Session.step_turnedDown (Session.marker_run config steps) clean turned
  refine ⟨fun x p found => ?_, fun b e mem => ?_⟩
  · rw [Session.run_concat, stepped] at found
    exact h.made_mono found
  · rw [Session.run_concat, stepped] at mem
    rcases Session.mem_collected_edited mem with held | ⟨new, _⟩
    · exact h.collected_mono held fun _ _ => fails
    · exact .plain (plain e new).2

theorem Traced.kept (h : Traced config steps) {width y : Nat} {p : Pattern} {recipe : Recipe}
    (made : st = .make y recipe)
    (stepped : Session.run config (steps ++ [st]) = (Session.run config steps).kept width y p)
    (linked : (Session.run config steps).pattern? y = none →
      p.Twins (IsLink (MadeFor config (steps ++ [st]) y)) id p) :
    Traced config (steps ++ [st]) := by
  refine ⟨fun x q found => ?_, fun b e mem => ?_⟩
  · rw [stepped, Session.pattern?_kept] at found
    rcases Option.or_eq_some_iff.1 found with before | ⟨fresh, new⟩
    · exact h.made_mono before
    · by_cases same : x = y
      · rw [if_pos same] at new
        cases new
        subst same
        exact linked fresh
      · rw [if_neg same] at new
        cases new
  · rw [stepped, Session.collected_kept] at mem
    refine h.collected_mono mem fun _ target => ?_
    rw [made] at target
    cases target

theorem Traced.make (h : Traced config steps) {y : Nat} {m : Making}
    (clean : (Step.make y (.plain m)).IsClean config.marker)
    (succeeds : Event.Succeeds config ⟨steps, .make y (.plain m)⟩) :
    Traced config (steps ++ [.make y (.plain m)]) := by
  obtain ⟨k, isFor, segment, stepped⟩ := Session.exists_of_make clean succeeds
  refine h.kept rfl ((Session.run_concat config steps _).trans (stepped _)) fun fresh => ?_
  refine isFor.twins (fun i v found => ⟨?_, rfl⟩) fun all => ⟨segment.renumber, all⟩
  exact ⟨_, y, .plain m, Event.isIn_last steps _, rfl, takes_last succeeds i v found, fresh,
    fun _ _ placed => placed⟩

theorem Traced.path (h : Traced config steps) {y : Nat} {listing : Listing} {elements : List Source}
    (clean : (Step.make y (.path listing elements)).IsClean config.marker)
    (succeeds : Event.Succeeds config ⟨steps, .make y (.path listing elements)⟩) :
    Traced config (steps ++ [.make y (.path listing elements)]) := by
  obtain ⟨ps, found, stepped⟩ := Session.exists_of_path clean succeeds
  refine h.kept rfl ((Session.run_concat config steps _).trans stepped) fun fresh => ?_
  refine Pattern.Twins.concat isLink_nil (fun _ _ left right => left.append right) ?_
  refine List.forall₂_same.2 fun p inPath => ?_
  obtain ⟨e, inElements, z, rfl, kept⟩ := Result.exists_of_mem_right found inPath
  refine (h.made z p kept).mono fun _ link => link.mono fun _ _ _ from_ => ?_
  refine (from_.mono (List.prefix_append _ _)).element fun l le placed => ?_
  exact .element ((Event.isIn_last steps _).mono le) rfl succeeds fresh inElements placed

theorem Traced.place (h : Traced config steps) {placing : Placing} {y : Nat}
    (succeeds : Event.Succeeds config ⟨steps, .place placing y⟩) :
    Traced config (steps ++ [.place placing y]) := by
  obtain ⟨p, found, stepped⟩ := Session.exists_of_place succeeds
  have after := (Session.run_concat config steps _).trans stepped
  refine ⟨fun x q kept => ?_, fun b e mem => ?_⟩
  · rw [after] at kept
    exact h.made_mono kept
  · rw [after] at mem
    rcases Session.mem_collected_edited mem with held | ⟨new, _⟩
    · refine h.collected_mono held fun slot target => ?_
      cases target
      cases slot
    · rw [List.mem_singleton.1 new]
      have placed : IsPlaced config (steps ++ [.place placing y]) y :=
        .clause (Event.isIn_last steps _) rfl succeeds
      refine .place ((h.made y p found).mono fun _ link => link.isPiece.mono fun _ _ _ from_ => ?_)
      exact (from_.mono (List.prefix_append _ _)).origin placed b

theorem isLive_last_call (c : Call) :
    Event.IsLive config (steps ++ [.call c]) ⟨steps, .call c⟩ :=
  fun _ _ inRun after => absurd after inRun.not_after_last

theorem Traced.call (h : Traced config steps) {c : Call}
    (clean : c.CallerTextIsClean config.marker)
    (succeeds : Event.Succeeds config ⟨steps, .call c⟩) : Traced config (steps ++ [.call c]) := by
  have same := Session.marker_run config steps
  obtain ⟨drafts, isFor, accepted⟩ := Session.isAccepted_of_call same clean succeeds
  have after := (Session.run_concat config steps _).trans
    (congrArg Prod.fst (Session.step_call_of_accepted same accepted))
  refine ⟨fun x q kept => ?_, fun b e mem => ?_⟩
  · rw [after] at kept
    exact h.made_mono kept
  · have into : ∀ e ∈ drafts.map (·.edit (Session.run config steps).query.counter),
        e.bucket = c.bucket ∧ e.Twins (Origin config (steps ++ [.call c]) c.bucket) id e := by
      intro e inEdits
      obtain ⟨d, inDrafts, rfl⟩ := List.mem_map.1 inEdits
      refine ⟨(d.bucket_edit _).trans (isFor d inDrafts).1, ?_⟩
      refine (isFor d inDrafts).2.twins fun i v found => ⟨?_, rfl⟩
      refine ⟨_, Event.isIn_last steps _, takes_last succeeds i v found, isLive_last_call c, ?_⟩
      rintro b' ⟨⟩
      rfl
    rw [after] at mem
    rcases Session.mem_collected_edited mem with held | ⟨new, rfl⟩
    · by_cases overwritten : b.isSlot = true ∧ c.bucket = b
      · obtain ⟨slot, rfl⟩ := overwritten
        have single := Call.exists_edit_of_isSlot config.marker
          (Session.run config steps).query.counter slot (by rw [accepted])
        rw [accepted] at single
        obtain ⟨e', single⟩ := single
        dsimp only at single
        have last := into e' (single ▸ List.mem_singleton_self e')
        rw [single, Session.collected_edited_of_isSlot slot last.1] at mem
        rw [List.mem_singleton.1 mem]
        exact last.2
      · refine h.collected_mono held fun slot target => absurd ⟨slot, ?_⟩ overwritten
        cases target
        rfl
    · rw [(into e new).1]
      exact (into e new).2

/-- Whatever the caller does, every name in the session has an origin. -/
theorem traced (clean : ∀ st ∈ steps, st.IsClean config.marker) : Traced config steps := by
  induction steps using List.reverseRecOn with
  | nil => exact traced_nil config
  | append_singleton steps st ih =>
    have before := ih fun st mem => clean st (List.mem_append_left _ mem)
    have last := clean st (by simp)
    by_cases succeeds : Event.Succeeds config ⟨steps, st⟩
    · cases st with
      | make y recipe =>
        cases recipe with
        | plain m => exact before.make last succeeds
        | path listing elements => exact before.path last succeeds
      | place placing y => exact before.place succeeds
      | call c => exact before.call last succeeds
    · exact before.turnedDown last succeeds

/-! ## The parameters of a query -/

theorem Traced.twins (h : Traced config steps) :
    (Session.run config steps).query.Twins (fun stem n v => ∃ b, Origin config steps b stem n v) id
      (Session.run config steps).query where
  config := rfl
  collected b := List.forall₂_same.2 fun e mem =>
    (h.collected b e mem).mono fun _ _ _ origin => ⟨b, origin⟩

/-- The names in the text of a query are those of its parameters, and each parameter is the value of
the one call that took its name. -/
theorem Session.names_of_build {r : CypherQuery}
    (clean : ∀ st ∈ steps, st.IsClean config.marker) (apart : SeparatorIsClean config)
    (built : (run config steps).query.build = .ok r) :
    (∀ name, name ∈ Placeholder.names .graph r.query ↔ name ∈ r.params.keys) ∧
    r.params.keys.Nodup ∧
    ∀ name v, (name, v) ∈ r.params → ∃ e : Event, e.IsIn steps ∧ e.Mints config name v ∧
      e.IsLive config steps ∧
      ∀ (e' : Event) (v' : Value), e'.IsIn steps → e'.Mints config name v' → e' = e ∧ v' = v := by
  have separated : SeparatorIsClean (run config steps).query.config := by
    rw [config_run]
    exact apart
  obtain ⟨_, _, I, piece, shows, _⟩ := (traced clean).twins.build separated built
  refine ⟨fun name => ?_, ?_, fun name v mem => ?_⟩
  · rw [shows.query, Inscription.names_written piece.isClean, shows.params, Bindings.mem_keys_merge]
    simp [Bindings.keys]
  · rw [shows.params]
    exact Bindings.nodup_keys_merge List.nodup_nil
  · rw [shows.params] at mem
    have bound : (name, v) ∈ I.bindings :=
      (Bindings.mem_of_mem_merge mem).resolve_left List.not_mem_nil
    obtain ⟨stem, n, marked, rfl⟩ := Inscription.mem_bindings.1 bound
    obtain ⟨b, e, inRun, taken, live, _⟩ := piece.all stem n v marked
    have minted : e.Mints config (Mark.word stem n) v := ⟨stem, n, taken, rfl⟩
    exact ⟨e, inRun, minted, live, fun e' v' inRun' minted' =>
      minted'.unique clean inRun' inRun minted⟩

/-! ## A session -/

theorem separatorIsClean_standard : SeparatorIsClean .standard := by
  rintro t same
  cases same
  exact ⟨by decide, '\n', by decide, by decide⟩

/-- A path is placed, one node is not; a list is empty and a limit is overwritten. -/
def people : List Step :=
  [.make 0 (.plain (.node (.str "n") (.str "Person") (.map [(.str "name", .str "Ada")]))),
    .make 1 (.plain (.relationship .null (.str "KNOWS") (.map [(.str "since", .int 1833)])
      (.str "->"))),
    .make 2 (.plain (.node (.str "m") .null .null)),
    .make 3 (.path .list [.made 0, .made 1, .made 2]),
    .make 4 (.plain (.node .null .null (.map [(.str "age", .int 36)]))),
    .place .matching 3,
    .call (.shorthand .member (.str "n") (.str "role") (.list [])),
    .call (.compare (.str "m") (.str "born") (.str "<") (.int 1800)),
    .call (.limit (.int 1)),
    .call (.limit (.int 5)),
    .call (.returnItems [.str "m"])]

def peopleQuery : CypherQuery where
  query := Str.join ["MATCH (n:Person \x7bname: $props1.name\x7d)",
    "-[:KNOWS \x7bsince: $relProps2.since\x7d]->(m)\n", "WHERE m.born < $param4\n", "RETURN m\n",
    "LIMIT $limit6"]
  params := [("props1", .map [(.str "name", .str "Ada")]),
    ("relProps2", .map [(.str "since", .int 1833)]), ("param4", .int 1800), ("limit6", .int 5)]

theorem isClean_people : ∀ st ∈ people, st.IsClean Config.standard.marker := by
  simp [people, Step.IsClean, Call.CallerTextIsClean, Value.IsDollarFree, Text.chars, Text.spelling]

set_option maxRecDepth 8000 in
theorem build_people : (Session.run .standard people).query.build = .ok peopleQuery := by
  rfl

/-- Neither the node that is not placed nor the first limit leaves a name. -/
theorem Session.names_of_build_people :
    (∀ st ∈ people, st.IsClean Config.standard.marker) ∧ SeparatorIsClean .standard ∧
    (run .standard people).query.build = .ok peopleQuery ∧
    ∀ name, name ∈ Placeholder.names .graph peopleQuery.query ↔
      name ∈ ([("props1" : Str), "relProps2", "param4", "limit6"]) :=
  ⟨isClean_people, separatorIsClean_standard, build_people,
    (names_of_build isClean_people separatorIsClean_standard build_people).1⟩

end BoundQuery.GraphQuery
