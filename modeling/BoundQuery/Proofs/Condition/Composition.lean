import BoundQuery.Proofs.Condition.Idle
import BoundQuery.Proofs.Condition.Values
import BoundQuery.Proofs.Placeholder.Renumber

/-!
# Conditions one after another

Conditions are written into a store one after another, and the first that cannot be written ends
this. So it makes no difference where a list of them is cut in two. What a numbered store held
before makes none either but for the numbers, which go on from there.

## Main definitions

* `Condition.renderBoth` — two lists of conditions, one after the other.
* `Positional.IsShift` — what conditions come to in an empty store and in one that holds values.
* `Positional.StopsAt` — the conditions up to one that cannot be written.

## Main statements

* `Condition.renderAll_append` — a list of conditions cut in two, for stores of every kind.
* `Condition.renderAll_of_conjunction?` — writing conditions fills the template of their
  conjunction.
* `Positional.renderAll_composes` — the cuts, the numbers and the errors of conditions that are
  written into a numbered store.
-/

namespace BoundQuery

/-! ## Templates one after another -/

namespace Template

variable {σ : Type} (mint : Value → σ → Str × σ)

/-- The texts of several templates that are filled from the same store. -/
def fillEach : List Template → σ → List Str × σ
  | [], store => ([], store)
  | t :: ts, store =>
    let (text, store) := t.fill mint store
    let (texts, store) := fillEach ts store
    (text :: texts, store)

theorem fill_append (s t : Template) (store : σ) :
    (s ++ t).fill mint store =
      ((s.fill mint store).1 ++ (t.fill mint (s.fill mint store).2).1,
        (t.fill mint (s.fill mint store).2).2) := by
  induction s generalizing store with
  | nil => simp [fill]
  | cons piece s ih => cases piece <;> simp [fill, ih, Str.append_assoc]

/-- Filling joined templates is filling one after another and joining the texts. -/
theorem fill_join (separator : Str) (ts : List Template) (store : σ) :
    (join separator ts).fill mint store =
      (Str.intercalate separator (fillEach mint ts store).1, (fillEach mint ts store).2) := by
  fun_induction join separator ts generalizing store with
  | case1 => simp [fill, fillEach]
  | case2 t => simp [fillEach]
  | case3 t ts nonempty ih =>
    have others (store : σ) : (fillEach mint ts store).1 ≠ [] := by
      cases ts with
      | nil => exact absurd rfl nonempty
      | cons s ts => simp [fillEach]
    simp [fill_append, fill, fillEach, ih, Str.intercalate_cons_of_ne_nil (others _),
      Str.append_assoc]

end Template

namespace Condition

variable {d : Dialect} {marker : List Chr} {cs : List Condition}

/-! ## Writing into a store -/

section
variable {σ : Type} {mint : Value → σ → Str × σ}

/-- Two lists of conditions written into the same store, the second after the first and unless that
is turned down. Their texts are joined by `AND` when both say something. -/
def renderBoth (mint : Value → σ → Str × σ) (d : Dialect) (marker : List Chr)
    (cs cs' : List Condition) (store : σ) : Result (Option Str) × σ :=
  match renderAll mint d marker cs store with
  | (.error fault, store) => (.error fault, store)
  | (.ok text?, store) =>
    match renderAll mint d marker cs' store with
    | (.error fault, store) => (.error fault, store)
    | (.ok text?', store) =>
      (.ok (Option.merge (fun s t : Str => s ++ " AND " ++ t) text? text?'), store)

/-- Several texts joined by `AND`, if there is any. -/
def joinedText? : List Str → Option Str
  | [] => none
  | texts => some (Str.intercalate conjunction texts)

theorem joinedText?_append (texts texts' : List Str) :
    joinedText? (texts ++ texts') =
      Option.merge (fun s t : Str => s ++ " AND " ++ t) (joinedText? texts)
        (joinedText? texts') := by
  cases texts with
  | nil => simp [joinedText?]
  | cons s texts =>
    cases texts' with
    | nil => simp [joinedText?]
    | cons t texts' =>
      exact congrArg some (Str.intercalate_append_of_ne_nil (List.cons_ne_nil s texts)
        (List.cons_ne_nil t texts'))

theorem renderAll_eq (cs : List Condition) (store : σ) :
    renderAll mint d marker cs store =
      ((renderEach mint d marker cs store).1.map joinedText?,
        (renderEach mint d marker cs store).2) :=
  rfl

/-- The induction is on the first list, whose first condition is turned down or leaves a store for
the others. -/
theorem renderEach_append (cs cs' : List Condition) (store : σ) :
    renderEach mint d marker (cs ++ cs') store =
      match renderEach mint d marker cs store with
      | (.error fault, store) => (.error fault, store)
      | (.ok texts, store) =>
        ((renderEach mint d marker cs' store).1.map (texts ++ ·),
          (renderEach mint d marker cs' store).2) := by
  induction cs generalizing store with
  | nil =>
    dsimp only [List.nil_append, renderEach]
    generalize renderEach mint d marker cs' store = rest
    obtain ⟨_ | texts, after⟩ := rest <;> rfl
  | cons c cs ih =>
    rw [List.cons_append, renderEach, renderEach]
    obtain ⟨_ | text?, after⟩ := c.render mint d marker store
    · rfl
    · dsimp only
      rw [ih after]
      obtain ⟨_ | texts, last⟩ := renderEach mint d marker cs after
      · rfl
      · dsimp only [Except.map]
        generalize renderEach mint d marker cs' last = rest
        obtain ⟨_ | texts', last⟩ := rest <;> simp

theorem renderAll_append (cs cs' : List Condition) (store : σ) :
    renderAll mint d marker (cs ++ cs') store = renderBoth mint d marker cs cs' store := by
  rw [renderBoth, renderAll_eq, renderAll_eq, renderEach_append]
  obtain ⟨_ | texts, after⟩ := renderEach mint d marker cs store
  · rfl
  · dsimp only [Except.map]
    rw [renderAll_eq]
    obtain ⟨_ | texts', last⟩ := renderEach mint d marker cs' after
    · rfl
    · simp [Except.map, joinedText?_append]

/-- Conditions that can all be written fill their templates one after another. -/
theorem renderEach_of_templates {ts : List Template} (made : templates d marker cs = .ok ts)
    (store : σ) :
    renderEach mint d marker cs store =
      (.ok (Template.fillEach mint ts store).1, (Template.fillEach mint ts store).2) := by
  induction cs generalizing ts store with
  | nil =>
    cases made
    rfl
  | cons c cs ih =>
    obtain ⟨t?, others, first, written, rfl⟩ := templates_cons_eq_ok.1 made
    rw [renderEach, render, first]
    cases t? with
    | none => simp [ih written, Except.map]
    | some t => simp [ih written, Except.map, Template.fillEach]

theorem renderAll_of_conjunction? {t? : Option Template}
    (made : conjunction? d marker cs = .ok t?) (store : σ) :
    renderAll mint d marker cs store =
      (.ok (t?.map fun t => (t.fill mint store).1), ((t?.getD []).fill mint store).2) := by
  obtain ⟨ts, written, rfl⟩ := conjunction?_eq_ok.1 made
  rw [renderAll_eq, renderEach_of_templates written]
  cases ts with
  | nil => rfl
  | cons t ts => simp [joined?, Template.fill_join, Template.fillEach, joinedText?, Except.map]

theorem render_of_refused {c : Condition} {fault : Fault}
    (refused : c.template? d marker = .error fault) (store : σ) :
    c.render mint d marker store = (.error fault, store) := by
  rw [render, refused]

/-- A condition that is turned down ends the writing where those before it have left the store. -/
theorem renderAll_of_refused {before : List Condition} {c : Condition} {text? : Option Str}
    {fault : Fault} {store after : σ}
    (written : renderAll mint d marker before store = (.ok text?, after))
    (refused : c.render mint d marker after = (.error fault, after)) (rest : List Condition) :
    renderAll mint d marker (before ++ c :: rest) store = (.error fault, after) := by
  rw [renderAll_append, renderBoth, written]
  dsimp only
  rw [renderAll_eq, renderEach, refused]
  rfl

end

theorem exists_refused_of_conjunction? {fault : Fault}
    (refused : conjunction? d marker cs = .error fault) :
    ∃ before c after t?, cs = before ++ c :: after ∧ conjunction? d marker before = .ok t? ∧
      c.template? d marker = .error fault := by
  have each : cs.mapM (template? d marker) = .error fault := by
    rw [conjunction?, templates] at refused
    cases made : cs.mapM (template? d marker) with
    | error fault' =>
      rw [made] at refused
      cases refused
      rfl
    | ok ts =>
      rw [made] at refused
      cases refused
  obtain ⟨before, c, after, ts, same, written, last⟩ := Result.exists_first_of_mapM_eq_error each
  refine ⟨before, c, after, joined? (ts.filterMap id), same, ?_, last⟩
  exact conjunction?_eq_ok.2 ⟨_, Result.bind_eq_ok.2 ⟨ts, written, rfl⟩, rfl⟩

/-! ## Values -/

/-- The values that a condition binds. -/
def values : Condition → List Value
  | field c => c.test.values
  | raw _ values => values

theorem values_template? {c : Condition} {t? : Option Template}
    (made : c.template? d marker = .ok t?) : (t?.map Template.values).getD [] = c.values := by
  cases c with
  | field c =>
    cases made
    exact c.values_template? d
  | raw fragment values =>
    obtain ⟨t, woven, rfl⟩ := Result.map_eq_ok.1 made
    obtain ⟨pieces, _, count, rfl⟩ := Marker.template_eq_ok woven
    exact Template.values_weave count

theorem values_templates {ts : List Template} (made : templates d marker cs = .ok ts) :
    ts.flatMap Template.values = cs.flatMap values := by
  induction cs generalizing ts with
  | nil =>
    cases made
    rfl
  | cons c cs ih =>
    obtain ⟨t?, others, first, written, rfl⟩ := templates_cons_eq_ok.1 made
    rw [List.flatMap_cons, ← values_template? first, ← ih written]
    cases t? <;> simp

theorem values_conjunction? {t? : Option Template} (made : conjunction? d marker cs = .ok t?) :
    (t?.getD []).values = cs.flatMap values := by
  obtain ⟨ts, written, rfl⟩ := conjunction?_eq_ok.1 made
  rw [← values_templates written]
  cases ts with
  | nil => rfl
  | cons t ts => exact Template.values_join conjunction (t :: ts)

end Condition

/-! ## Numbered stores -/

namespace Positional

/-- Several conditions written into a numbered store. -/
def renderAll (marker : List Chr) (cs : List Condition) (p : Positional) :
    Result (Option Str) × Positional :=
  Condition.renderAll add .relational marker cs p

/-- What conditions come to in an empty store and in one that holds values. A text has the numbers
1, 2 and so on in its slots in the one and as many more as values are held in the other; the values
are added behind those held. Of conditions that cannot be written the error is the same, and so is
what has been added by then. -/
inductive IsShift (marker : List Chr) (cs : List Condition) (held : List Value) :
    Result (Option Str) × Positional → Result (Option Str) × Positional → Prop
  | nothing (made : Condition.conjunction? .relational marker cs = .ok none) :
      IsShift marker cs held (.ok none, ⟨[]⟩) (.ok none, ⟨held⟩)
  | text {t : Template} (made : Condition.conjunction? .relational marker cs = .ok (some t)) :
      IsShift marker cs held (.ok (some (t.inscribe "" 0).written), ⟨t.values⟩)
        (.ok (some ((t.inscribe "" 0).renumber (held.length + ·)).written), ⟨held ++ t.values⟩)
  | error {fault : Fault} (refused : Condition.conjunction? .relational marker cs = .error fault)
      (added : List Value) :
      IsShift marker cs held (.error fault, ⟨added⟩) (.error fault, ⟨held ++ added⟩)

/-- The conditions before one that cannot be written have been written, and just their values have
been added. That one is turned down by every store, which stays as it is. -/
structure StopsAt (marker : List Chr) (p : Positional) (before : List Condition) (c : Condition)
    (fault : Fault) (q : Positional) : Prop where
  written : ∃ text?, p.renderAll marker before = (.ok text?, q)
  values : q.values = p.values ++ before.flatMap Condition.values
  refused : ∀ r : Positional, c.render add .relational marker r = (.error fault, r)

variable {marker : List Chr} {cs : List Condition}

theorem renderAll_of_conjunction? {t? : Option Template}
    (made : Condition.conjunction? .relational marker cs = .ok t?) (p : Positional) :
    p.renderAll marker cs =
      (.ok (t?.map fun t => (t.inscribe "" p.values.length).written),
        ⟨p.values ++ (t?.getD []).values⟩) := by
  have filled (t : Template) :
      t.fill add p = ((t.inscribe "" p.values.length).written, ⟨p.values ++ t.values⟩) :=
    fill_eq t p
  rw [renderAll, Condition.renderAll_of_conjunction? made, filled]
  simp only [filled]

theorem renderAll_stops {before : List Condition} {c : Condition} {t? : Option Template}
    {fault : Fault} (written : Condition.conjunction? .relational marker before = .ok t?)
    (refused : c.template? .relational marker = .error fault) (after : List Condition)
    (p : Positional) :
    p.renderAll marker (before ++ c :: after) =
      (.error fault, ⟨p.values ++ before.flatMap Condition.values⟩) := by
  rw [← Condition.values_conjunction? written]
  exact Condition.renderAll_of_refused (renderAll_of_conjunction? written p)
    (Condition.render_of_refused refused _) after

theorem isShift_renderAll (marker : List Chr) (cs : List Condition) (p : Positional) :
    IsShift marker cs p.values (renderAll marker cs {}) (p.renderAll marker cs) := by
  cases made : Condition.conjunction? .relational marker cs with
  | ok t? =>
    rw [renderAll_of_conjunction? made, renderAll_of_conjunction? made]
    cases t? with
    | none => simpa [Template.values] using IsShift.nothing made
    | some t =>
      have later : t.inscribe "" p.values.length = _ := t.inscribe_add "" p.values.length 0
      simpa [later] using IsShift.text made
  | error fault =>
    obtain ⟨before, c, after, t?, rfl, written, refused⟩ :=
      Condition.exists_refused_of_conjunction? made
    rw [renderAll_stops written refused, renderAll_stops written refused]
    exact .error made _

theorem renderAll_eq_error_iff {p q : Positional} {fault : Fault} :
    p.renderAll marker cs = (.error fault, q) ↔
      ∃ before c after, cs = before ++ c :: after ∧ p.StopsAt marker before c fault q := by
  constructor
  · intro failed
    cases made : Condition.conjunction? .relational marker cs with
    | ok t? =>
      rw [renderAll_of_conjunction? made] at failed
      cases failed
    | error fault' =>
      obtain ⟨before, c, after, t?, rfl, written, refused⟩ :=
        Condition.exists_refused_of_conjunction? made
      rw [renderAll_stops written refused] at failed
      cases failed
      refine ⟨before, c, after, rfl, ?_, rfl, Condition.render_of_refused refused⟩
      rw [renderAll_of_conjunction? written, Condition.values_conjunction? written]
      exact ⟨_, rfl⟩
  · rintro ⟨before, c, after, rfl, stops⟩
    obtain ⟨text?, written⟩ := stops.written
    exact Condition.renderAll_of_refused written (stops.refused q) after

/-- Where a list of conditions is cut in two makes no difference, and what a store holds makes none
but for the numbers. When conditions cannot be written, the error is that of one of them, and what
has been added are the values of those before it. -/
theorem renderAll_composes (marker : List Chr) (cs : List Condition) (p : Positional) :
    (∀ cs', p.renderAll marker (cs ++ cs') =
      Condition.renderBoth add .relational marker cs cs' p) ∧
    IsShift marker cs p.values (renderAll marker cs {}) (p.renderAll marker cs) ∧
    ∀ fault q, p.renderAll marker cs = (.error fault, q) ↔
      ∃ before c after, cs = before ++ c :: after ∧ p.StopsAt marker before c fault q :=
  ⟨fun cs' => Condition.renderAll_append cs cs' p, isShift_renderAll marker cs p,
    fun _ _ => renderAll_eq_error_iff⟩

/-- Membership in nothing and in two values. -/
def ofAge : List Condition :=
  [.field ⟨.plain "role", .member false []⟩,
    .field ⟨.plain "age", .member false [.int 18, .int 19]⟩]

/-- A marker in quotes and another one, and membership in nothing. -/
def ofCity : List Condition :=
  [.raw (.plain "note <> '?' OR city = ?") [.str "Rome"],
    .field ⟨.plain "tag", .member true []⟩]

/-- Two markers for one value. -/
def tooShort : Condition :=
  .raw (.plain "a = ? OR b = ?") [.int 1]

/-- Conditions that say nothing leave no `AND` behind, and of what stands before a fragment with a
value too few everything has been added. -/
theorem renderAll_composes_ages :
    renderAll ['?'] (ofAge ++ ofCity) ⟨[.null, .int 7]⟩ =
      (.ok (some "age IN ($3, $4) AND note <> '?' OR city = $5"),
        ⟨[.null, .int 7, .int 18, .int 19, .str "Rome"]⟩) ∧
    IsShift ['?'] (ofAge ++ ofCity) [.null, .int 7]
      (.ok (some "age IN ($1, $2) AND note <> '?' OR city = $3"),
        ⟨[.int 18, .int 19, .str "Rome"]⟩)
      (.ok (some "age IN ($3, $4) AND note <> '?' OR city = $5"),
        ⟨[.null, .int 7, .int 18, .int 19, .str "Rome"]⟩) ∧
    renderAll ['?'] (ofAge ++ tooShort :: ofCity) ⟨[.null, .int 7]⟩ =
      (.error (.refusal (.markerCount (.str "a = ? OR b = ?") 2 1)),
        ⟨[.null, .int 7, .int 18, .int 19]⟩) := by
  obtain ⟨composed, -⟩ := renderAll_composes ['?'] ofAge ⟨[.null, .int 7]⟩
  obtain ⟨-, shifted, -⟩ := renderAll_composes ['?'] (ofAge ++ ofCity) ⟨[.null, .int 7]⟩
  obtain ⟨-, -, fails⟩ :=
    renderAll_composes ['?'] (ofAge ++ tooShort :: ofCity) ⟨[.null, .int 7]⟩
  refine ⟨(composed ofCity).trans (by rfl), shifted, (fails _ _).2 ?_⟩
  exact ⟨ofAge, tooShort, ofCity, rfl, ⟨_, rfl⟩, rfl, fun r => rfl⟩

end Positional
end BoundQuery
