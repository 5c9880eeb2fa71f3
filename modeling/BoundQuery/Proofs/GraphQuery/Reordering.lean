import BoundQuery.Proofs.GraphQuery.Label
import BoundQuery.Proofs.GraphQuery.Origin
import Mathlib.Data.Set.Function

/-!
# Calls in another order

Two sessions that put the same into each bucket in the same order, with the same patterns in the
same places, build the same query up to the names of its parameters, however the calls for different
buckets are interleaved and whenever a pattern is made. Patterns that are never placed do not
matter.

Each number that is taken in the one session for something that both have corresponds to one number
in the other: the one that the same step takes for the same value. What stands in the buckets are
twins under this correspondence.

## Main definitions

* `Reordering` — the steps of one session in another order.
* `Corresponds` — the numbers that two sessions take for the same value.

## Main statements

* `Session.build_of_reordering` — what two such sessions build.
-/

namespace BoundQuery.GraphQuery

/-- The steps of one session in another order, where `shared` are the labels whose patterns are
placed, and those of the elements of their paths. -/
structure Reordering (shared : Nat → Prop) (steps steps' : List Step) : Prop where
  buckets : ∀ b, steps.filter (·.target = .bucket b) = steps'.filter (·.target = .bucket b)
  labels : ∀ x, shared x →
    steps.filter (·.target = .label x) = steps'.filter (·.target = .label x)
  placed : ∀ placing x, .place placing x ∈ steps → shared x
  elements : ∀ x listing elements y, shared x → .make x (.path listing elements) ∈ steps →
    .made y ∈ elements → shared y

/-- The numbers that two sessions take for the same value of the same step. -/
def Corresponds (config : Config) (steps steps' : List Step) (n n' : Nat) : Prop :=
  ∃ (e e' : Event) (i : Nat), e.IsIn steps ∧ e'.IsIn steps' ∧ e.step = e'.step ∧ e.rank = e'.rank ∧
    i < e.step.values.length ∧ n = (e.session config).query.counter + i + 1 ∧
    n' = (e'.session config).query.counter + i + 1

/-! ## Lists with the same elements of one kind -/

/-- Lists that have the same elements of one kind grow together: whatever holds of empty lists,
stays when either takes an element of another kind, and when both take the same element of this
kind. -/
theorem filter_induction {α : Type} {p : α → Bool} {motive : List α → List α → Prop}
    (nil : motive [] [])
    (left : ∀ l l' x, p x = false → motive l l' → motive (l ++ [x]) l')
    (right : ∀ l l' x, p x = false → motive l l' → motive l (l' ++ [x]))
    (both : ∀ l l' x, p x = true → l.filter p = l'.filter p → motive l l' →
      motive (l ++ [x]) (l' ++ [x]))
    (l l' : List α) (same : l.filter p = l'.filter p) : motive l l' := by
  induction l using List.reverseRecOn generalizing l' with
  | nil =>
    induction l' using List.reverseRecOn with
    | nil => exact nil
    | append_singleton l' y ih =>
      cases kind : p y with
      | true => simp [List.filter_append, kind] at same
      | false =>
        refine right _ _ _ kind (ih ?_)
        simpa [List.filter_append, kind] using same
  | append_singleton l x ih =>
    cases kind : p x with
    | false =>
      refine left _ _ _ kind (ih _ ?_)
      simpa [List.filter_append, kind] using same
    | true =>
      induction l' using List.reverseRecOn with
      | nil => simp [List.filter_append, kind] at same
      | append_singleton l' y ih' =>
        cases kind' : p y with
        | false =>
          refine right _ _ _ kind' (ih' ?_)
          simpa [List.filter_append, kind'] using same
        | true =>
          have last : l.filter p ++ [x] = l'.filter p ++ [y] := by
            simpa [List.filter_append, kind, kind'] using same
          obtain ⟨before, rfl⟩ := List.append_singleton_inj.1 last
          exact both _ _ _ kind before (ih _ before)

/-- What two lists have to do with a third, element by element, they have to do with each other. -/
theorem forall₂_of_common {α β γ : Type} {R : α → β → Prop} {S : α → γ → Prop} {T : β → γ → Prop}
    {xs : List α} {ys : List β} {zs : List γ} (left : List.Forall₂ R xs ys)
    (right : List.Forall₂ S xs zs) (each : ∀ x ∈ xs, ∀ y z, R x y → S x z → T y z) :
    List.Forall₂ T ys zs := by
  induction left generalizing zs with
  | nil =>
    cases right
    exact .nil
  | cons first _ ih =>
    cases right with
    | cons first' rest' =>
      refine .cons (each _ List.mem_cons_self _ _ first first') (ih rest' ?_)
      exact fun x mem => each x (List.mem_cons_of_mem _ mem)

/-! ## Corresponding numbers -/

section
variable {config : Config} {steps steps' : List Step} {m n n' : Nat}

theorem Corresponds.symm (h : Corresponds config steps steps' n n') :
    Corresponds config steps' steps n' n := by
  obtain ⟨e, e', i, inRun, inRun', step, rank, inside, number, number'⟩ := h
  exact ⟨e', e, i, inRun', inRun, step.symm, rank.symm, step ▸ inside, number', number⟩

/-- A number corresponds to one number at most. -/
theorem Corresponds.unique (clean : ∀ st ∈ steps, st.IsClean config.marker)
    (succeed : AllSucceed config steps) (h : Corresponds config steps steps' m n)
    (h' : Corresponds config steps steps' m n') : n = n' := by
  obtain ⟨e, e', i, inRun, inRun', step, rank, inside, number, rfl⟩ := h
  obtain ⟨d, d', j, inRunD, inRunD', stepD, rankD, insideD, numberD, rfl⟩ := h'
  have taken : e.Takes config e.step.stem m e.step.values[i] :=
    ⟨succeed e inRun, rfl, i, number, List.getElem?_eq_getElem inside⟩
  have takenD : d.Takes config d.step.stem m d.step.values[j] :=
    ⟨succeed d inRunD, rfl, j, numberD, List.getElem?_eq_getElem insideD⟩
  obtain ⟨rfl, _⟩ := taken.unique clean inRun inRunD takenD
  have same : e' = d' := Event.eq_of_rank inRun' inRunD' (step.symm.trans stepD)
    (rank.symm.trans rankD)
  subst same
  omega

theorem exists_renumbering (clean : ∀ st ∈ steps, st.IsClean config.marker)
    (succeed : AllSucceed config steps) :
    ∃ f : Nat → Nat, ∀ n n', Corresponds config steps steps' n n' → f n = n' := by
  classical
  refine ⟨fun n => if h : ∃ n', Corresponds config steps steps' n n' then h.choose else n, ?_⟩
  intro n n' h
  have found : ∃ n', Corresponds config steps steps' n n' := ⟨n', h⟩
  simp only [dif_pos found]
  exact found.choose_spec.unique clean succeed h

end

/-! ## Twins under the correspondence -/

/-- Two sessions with clean steps, none of them turned down, and the numbers of the second that
correspond to those of the first. -/
structure Renumbering (config : Config) (shared : Nat → Prop) (steps steps' : List Step)
    (f : Nat → Nat) : Prop where
  reordering : Reordering shared steps steps'
  clean : ∀ st ∈ steps, st.IsClean config.marker
  clean' : ∀ st ∈ steps', st.IsClean config.marker
  succeed : AllSucceed config steps
  succeed' : AllSucceed config steps'
  follows : ∀ n n', Corresponds config steps steps' n n' → f n = n'

/-- A name that both sessions have taken. -/
def IsCommon (config : Config) (steps steps' : List Step) (f : Nat → Nat) (stem : Str) (n : Nat)
    (_ : Value) : Prop :=
  stem ∈ Step.stems ∧ Corresponds config steps steps' n (f n)

namespace Renumbering

variable {config : Config} {shared : Nat → Prop} {steps steps' l l' : List Step} {f : Nat → Nat}
variable {x : Nat} {p p' : Pattern}

theorem follows_step {st : Step} (h : Renumbering config shared steps steps' f)
    (inRun : Event.IsIn ⟨l, st⟩ steps) (inRun' : Event.IsIn ⟨l', st⟩ steps')
    (rank : Event.rank ⟨l, st⟩ = Event.rank ⟨l', st⟩) (i : Nat) (v : Value)
    (found : st.values[i]? = some v) :
    IsCommon config steps steps' f st.stem ((Session.run config l).query.counter + i + 1) v ∧
      f ((Session.run config l).query.counter + i + 1) =
        (Session.run config l').query.counter + i + 1 := by
  have inside : i < st.values.length := (List.getElem?_eq_some_iff.1 found).1
  have pair : Corresponds config steps steps' ((Session.run config l).query.counter + i + 1)
      ((Session.run config l').query.counter + i + 1) :=
    ⟨⟨l, st⟩, ⟨l', st⟩, i, inRun, inRun', rfl, rank, inside, rfl, rfl⟩
  have same := h.follows _ _ pair
  exact ⟨⟨st.stem_mem_stems, by rwa [same]⟩, same⟩

/-- What the same step makes for a label in both sessions, when the patterns that it may use are
twins. -/
theorem twins_of_make (h : Renumbering config shared steps steps' f) {recipe : Recipe}
    (inRun : Event.IsIn ⟨l, .make x recipe⟩ steps) (inRun' : Event.IsIn ⟨l', .make x recipe⟩ steps')
    (rank : Event.rank ⟨l, .make x recipe⟩ = Event.rank ⟨l', .make x recipe⟩) (isShared : shared x)
    (fresh : (Session.run config l).pattern? x = none)
    (fresh' : (Session.run config l').pattern? x = none)
    (made : (Session.run config (l ++ [.make x recipe])).pattern? x = some p)
    (made' : (Session.run config (l' ++ [.make x recipe])).pattern? x = some p')
    (elements : ∀ y q q', shared y → (Session.run config l).pattern? y = some q →
      (Session.run config l').pattern? y = some q' →
      q.Twins (IsLink (IsCommon config steps steps' f)) f q') :
    p.Twins (IsLink (IsCommon config steps steps' f)) f p' := by
  have clean := h.clean _ inRun.mem
  have succeeds : ((Session.run config l).step (.make x recipe)).2 = none := h.succeed _ inRun
  have succeeds' : ((Session.run config l').step (.make x recipe)).2 = none := h.succeed' _ inRun'
  rw [Session.run_concat] at made made'
  cases recipe with
  | plain m =>
    obtain ⟨k, isFor, segment, stepped⟩ := Session.exists_of_make clean succeeds
    rw [stepped, Session.pattern?_kept_self fresh] at made
    rw [stepped, Session.pattern?_kept_self fresh'] at made'
    cases made
    cases made'
    exact isFor.twins (h.follows_step inRun inRun' rank) fun all => ⟨segment.renumber, all⟩
  | path listing sources =>
    obtain ⟨ps, found, stepped⟩ := Session.exists_of_path clean succeeds
    obtain ⟨qs, found', stepped'⟩ := Session.exists_of_path clean succeeds'
    rw [stepped, Session.pattern?_kept_self fresh] at made
    rw [stepped', Session.pattern?_kept_self fresh'] at made'
    cases made
    cases made'
    refine Pattern.Twins.concat isLink_nil (fun _ _ left right => left.append right) ?_
    have each : ∀ source ∈ sources, ∀ q q', (Session.run config l).Finds source q →
        (Session.run config l').Finds source q' →
        q.Twins (IsLink (IsCommon config steps steps' f)) f q' := by
      rintro source mem q q' ⟨y, rfl, kept⟩ ⟨_, ⟨⟩, kept'⟩
      have sharedElement := h.reordering.elements x listing sources y isShared inRun.mem mem
      exact elements y q q' sharedElement kept kept'
    exact forall₂_of_common found found' each

/-- A label whose patterns are shared stands for twins wherever it stands for a pattern. -/
theorem twins_of_pattern? (h : Renumbering config shared steps steps' f) (earlier : l <+: steps)
    (earlier' : l' <+: steps') (isShared : shared x)
    (found : (Session.run config l).pattern? x = some p)
    (found' : (Session.run config l').pattern? x = some p') :
    p.Twins (IsLink (IsCommon config steps steps' f)) f p' := by
  -- a path is made after its elements, so the steps before it are fewer
  induction size : l.length using Nat.strong_induction_on generalizing l l' x p p' with
  | _ n ih =>
    have cleanL : ∀ st ∈ l, st.IsClean config.marker := fun st mem =>
      h.clean st (earlier.subset mem)
    have cleanL' : ∀ st ∈ l', st.IsClean config.marker := fun st mem =>
      h.clean' st (earlier'.subset mem)
    obtain ⟨e, first⟩ := Session.exists_isFirst cleanL found
    obtain ⟨e', first'⟩ := Session.exists_isFirst cleanL' found'
    have inRun := first.inRun.mono earlier
    have inRun' := first'.inRun.mono earlier'
    have none := first.rank cleanL fun d inL => h.succeed d (inL.mono earlier)
    have none' := first'.rank cleanL' fun d inL => h.succeed' d (inL.mono earlier')
    have rank : e.rank = e'.rank := none.trans none'.symm
    have same : e.step = e'.step := by
      refine Event.step_eq_of_rank inRun inRun' ?_ rank ?_
      · rw [first.target, first'.target]
      · rw [first.target]
        exact h.reordering.labels x isShared
    have made := first.pattern? cleanL found
    have made' := first'.pattern? cleanL' found'
    obtain ⟨recipe, step⟩ := first.step
    obtain ⟨before, st⟩ := e
    obtain ⟨before', st'⟩ := e'
    dsimp only at same step
    subst same step
    refine h.twins_of_make inRun inRun' rank isShared first.fresh first'.fresh made made' ?_
    intro y q q' isShared' kept kept'
    exact ih before.length (size ▸ first.inRun.length_lt) inRun.before_prefix inRun'.before_prefix
      isShared' kept kept' rfl

/-- What the same step puts into a bucket in both sessions. -/
theorem twins_of_step (h : Renumbering config shared steps steps' f) {st : Step} {b : Bucket}
    (inRun : Event.IsIn ⟨l, st⟩ steps) (inRun' : Event.IsIn ⟨l', st⟩ steps')
    (rank : Event.rank ⟨l, st⟩ = Event.rank ⟨l', st⟩) (target : st.target = .bucket b)
    (before : List.Forall₂ (Edit.Twins (IsCommon config steps steps' f) f)
      ((Session.run config l).query.collected b) ((Session.run config l').query.collected b)) :
    List.Forall₂ (Edit.Twins (IsCommon config steps steps' f) f)
      ((Session.run config (l ++ [st])).query.collected b)
      ((Session.run config (l' ++ [st])).query.collected b) := by
  have clean := h.clean _ inRun.mem
  have succeeds : ((Session.run config l).step st).2 = none := h.succeed _ inRun
  have succeeds' : ((Session.run config l').step st).2 = none := h.succeed' _ inRun'
  rw [Session.run_concat, Session.run_concat]
  cases st with
  | make x recipe => cases target
  | place placing x =>
    cases target
    obtain ⟨p, found, stepped⟩ := Session.exists_of_place succeeds
    obtain ⟨p', found', stepped'⟩ := Session.exists_of_place succeeds'
    have isShared := h.reordering.placed placing x inRun.mem
    have twins := h.twins_of_pattern? inRun.before_prefix inRun'.before_prefix isShared found found'
    rw [stepped, stepped', Session.collected_edited_of_eq (by simp [Edit.bucket]),
      Session.collected_edited_of_eq (by simp [Edit.bucket])]
    have pieces := twins.mono fun _ link => link.isPiece
    exact Bucket.twins_foldl_put _ (.cons (.place pieces) .nil) before
  | call c =>
    cases target
    obtain ⟨drafts, isFor, accepted⟩ :=
      Session.isAccepted_of_call (Session.marker_run config l) clean succeeds
    rw [Session.step_call_of_accepted (Session.marker_run config l) accepted,
      Session.step_call_of_accepted (Session.marker_run config l') accepted]
    have into (n : Nat) : ∀ e ∈ drafts.map (·.edit n), e.bucket = c.bucket := by
      intro e mem
      obtain ⟨d, inDrafts, rfl⟩ := List.mem_map.1 mem
      exact (d.bucket_edit n).trans (isFor d inDrafts).1
    rw [Session.collected_edited_of_eq (into _), Session.collected_edited_of_eq (into _)]
    refine Bucket.twins_foldl_put _ ?_ before
    rw [List.forall₂_map_left_iff, List.forall₂_map_right_iff]
    exact List.forall₂_same.2 fun d inDrafts =>
      (isFor d inDrafts).2.twins (h.follows_step inRun inRun' rank)

theorem twins_of_collected (h : Renumbering config shared steps steps' f) (b : Bucket) :
    List.Forall₂ (Edit.Twins (IsCommon config steps steps' f) f)
      ((Session.run config steps).query.collected b)
      ((Session.run config steps').query.collected b) := by
  have general := filter_induction (p := fun st : Step => st.target = .bucket b)
    (motive := fun l l' => l <+: steps → l' <+: steps' →
      List.Forall₂ (Edit.Twins (IsCommon config steps steps' f) f)
        ((Session.run config l).query.collected b) ((Session.run config l').query.collected b))
    ?_ ?_ ?_ ?_ steps steps' (h.reordering.buckets b)
  · exact general List.prefix_rfl List.prefix_rfl
  · intro _ _
    cases b <;> exact .nil
  · intro l l' st other ih inRun inRun'
    have before := ih ((List.prefix_append _ _).trans inRun) inRun'
    rw [Session.run_concat, Session.collected_step_of_ne (Session.marker_run config l)
      (h.clean st (inRun.subset (by simp))) (h.succeed ⟨l, st⟩ inRun) (by simpa using other)]
    exact before
  · intro l l' st other ih inRun inRun'
    have before := ih inRun ((List.prefix_append _ _).trans inRun')
    rw [Session.run_concat, Session.collected_step_of_ne (Session.marker_run config l')
      (h.clean' st (inRun'.subset (by simp))) (h.succeed' ⟨l', st⟩ inRun') (by simpa using other)]
    exact before
  · intro l l' st target same ih inRun inRun'
    have before := ih ((List.prefix_append _ _).trans inRun) ((List.prefix_append _ _).trans inRun')
    have target : st.target = .bucket b := by simpa using target
    have rank : Event.rank ⟨l, st⟩ = Event.rank ⟨l', st⟩ := by
      rw [Event.rank, Event.rank, target]
      exact congrArg List.length same
    exact h.twins_of_step inRun inRun' rank target before

theorem twins (h : Renumbering config shared steps steps' f) :
    (Session.run config steps).query.Twins (IsCommon config steps steps' f) f
      (Session.run config steps').query where
  config := by rw [Session.config_run, Session.config_run]
  collected := h.twins_of_collected

/-- Names that both sessions have taken stay apart. -/
theorem injOn (h : Renumbering config shared steps steps' f) {I : Inscription}
    (common : I.All (IsCommon config steps steps' f)) :
    Set.InjOn (Mark.rename f) {name | name ∈ Bindings.keys I.bindings} := by
  intro name mem name' mem' same
  obtain ⟨⟨_, v⟩, bound, rfl⟩ := List.mem_map.1 mem
  obtain ⟨⟨_, v'⟩, bound', rfl⟩ := List.mem_map.1 mem'
  obtain ⟨stem, n, marked, rfl⟩ := Inscription.mem_bindings.1 bound
  obtain ⟨stem', n', marked', rfl⟩ := Inscription.mem_bindings.1 bound'
  obtain ⟨known, pair⟩ := common stem n v marked
  obtain ⟨known', pair'⟩ := common stem' n' v' marked'
  have digitless := Event.isDigitless_of_mem_stems stem known
  have digitless' := Event.isDigitless_of_mem_stems stem' known'
  rw [Mark.rename_word f digitless, Mark.rename_word f digitless'] at same
  obtain ⟨rfl, numbers⟩ := Mark.word_inj digitless digitless' same
  rw [← numbers] at pair'
  rw [pair.symm.unique h.clean' h.succeed' pair'.symm]

end Renumbering

/-- Calls in another order build the same query, up to a renaming of its parameters that keeps the
stems of their names. -/
theorem Session.build_of_reordering {config : Config} {shared : Nat → Prop}
    {steps steps' : List Step} {r : CypherQuery} (reordering : Reordering shared steps steps')
    (clean : ∀ st ∈ steps, st.IsClean config.marker)
    (clean' : ∀ st ∈ steps', st.IsClean config.marker) (apart : SeparatorIsClean config)
    (succeed : AllSucceed config steps) (succeed' : AllSucceed config steps')
    (built : (run config steps).query.build = .ok r) :
    ∃ r' : CypherQuery, (run config steps').query.build = .ok r' ∧
    ∃ ρ : Str → Str,
      Set.BijOn ρ {name | name ∈ r.params.keys} {name | name ∈ r'.params.keys} ∧
      (∀ name ∈ r.params.keys, ∃ stem ∈ Step.stems, ∃ n n',
        name = Mark.word stem n ∧ ρ name = Mark.word stem n') ∧
      r'.query = Placeholder.replace .graph (fun name => "$" ++ ρ name) r.query ∧
      ∀ name ∈ r.params.keys, r'.params.lookup (ρ name) = r.params.lookup name := by
  obtain ⟨f, follows⟩ := exists_renumbering clean succeed
  have h : Renumbering config shared steps steps' f :=
    ⟨reordering, clean, clean', succeed, succeed', follows⟩
  have separated : SeparatorIsClean (run config steps).query.config := by
    rw [config_run]
    exact apart
  obtain ⟨r', built', I, piece, shows, shows'⟩ := h.twins.build separated built
  have renamed : I.All fun stem n _ =>
      Mark.rename f (Mark.word stem n) = Mark.word stem (f n) := by
    intro stem n v marked
    exact Mark.rename_word f (Event.isDigitless_of_mem_stems stem (piece.all stem n v marked).1)
  have keys : ∀ name, name ∈ r.params.keys ↔ name ∈ Bindings.keys I.bindings := by
    intro name
    rw [shows.params, Bindings.mem_keys_merge]
    simp
  have injective : Set.InjOn (Mark.rename f) {name | name ∈ r.params.keys} := by
    simpa only [keys] using h.injOn piece.all
  have params : r'.params = Bindings.rename (Mark.rename f) r.params := by
    rw [shows'.params, Inscription.bindings_renumber renamed, shows.params, Bindings.rename_merge]
    · rfl
    · rwa [← shows.params]
  refine ⟨r', built', Mark.rename f, ?_, fun name mem => ?_, ?_, fun name mem => ?_⟩
  · have image : {name | name ∈ r'.params.keys} =
        Mark.rename f '' {name | name ∈ r.params.keys} := by
      rw [params, Bindings.keys_rename]
      ext name
      simp
    rw [image]
    exact injective.bijOn_image
  · obtain ⟨⟨_, v⟩, bound, rfl⟩ := List.mem_map.1 ((keys name).1 mem)
    obtain ⟨stem, n, marked, rfl⟩ := Inscription.mem_bindings.1 bound
    exact ⟨stem, (piece.all stem n v marked).1, n, f n, rfl, renamed stem n v marked⟩
  · rw [shows'.query, Inscription.written_renumber renamed, shows.query,
      Inscription.replace_written piece.isClean]
  · rw [params]
    exact Bindings.lookup_rename injective mem

/-! ## A session in another order -/

/-- The same path and clauses, without the node that is not placed. -/
def peopleLater : List Step :=
  [.call (.returnItems [.str "m"]),
    .make 2 (.plain (.node (.str "m") .null .null)),
    .call (.limit (.int 1)),
    .call (.shorthand .member (.str "n") (.str "role") (.list [])),
    .make 1 (.plain (.relationship .null (.str "KNOWS") (.map [(.str "since", .int 1833)])
      (.str "->"))),
    .call (.compare (.str "m") (.str "born") (.str "<") (.int 1800)),
    .make 0 (.plain (.node (.str "n") (.str "Person") (.map [(.str "name", .str "Ada")]))),
    .make 3 (.path .list [.made 0, .made 1, .made 2]),
    .call (.limit (.int 5)),
    .place .matching 3]

theorem reordering_people : Reordering (· ≤ 3) people peopleLater where
  buckets b := by
    cases b with
    | patterns clause => cases clause <;> rfl
    | _ => rfl
  labels x isShared := by
    obtain rfl | rfl | rfl | rfl : x = 0 ∨ x = 1 ∨ x = 2 ∨ x = 3 := by omega
    all_goals rfl
  placed placing x mem := by
    simp [people] at mem
    omega
  elements x listing elements y isShared mem inPath := by
    simp [people] at mem
    obtain ⟨rfl, -, rfl⟩ := mem
    simp at inPath
    omega

theorem isClean_peopleLater : ∀ st ∈ peopleLater, st.IsClean Config.standard.marker := by
  simp [peopleLater, Step.IsClean, Call.CallerTextIsClean, Value.IsDollarFree, Text.chars,
    Text.spelling]

set_option maxRecDepth 8000 in
theorem allSucceed_people : AllSucceed .standard people ∧ AllSucceed .standard peopleLater := by
  decide

/-- Here `props1` becomes `props4` and `param4` becomes `param3`. -/
theorem Session.build_of_reordering_people :
    Reordering (· ≤ 3) people peopleLater ∧ AllSucceed .standard people ∧
    AllSucceed .standard peopleLater ∧
    ∃ r' : CypherQuery, (run .standard peopleLater).query.build = .ok r' ∧
    ∃ ρ : Str → Str,
      r'.query = Placeholder.replace .graph (fun name => "$" ++ ρ name) peopleQuery.query := by
  refine ⟨reordering_people, allSucceed_people.1, allSucceed_people.2, ?_⟩
  obtain ⟨r', built, ρ, _, _, query, _⟩ := build_of_reordering reordering_people isClean_people
    isClean_peopleLater separatorIsClean_standard allSucceed_people.1 allSucceed_people.2
    build_people
  exact ⟨r', built, ρ, query⟩

end BoundQuery.GraphQuery
