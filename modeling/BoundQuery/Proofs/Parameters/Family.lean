import BoundQuery.Parameters.Store
import BoundQuery.Proofs.Parameters.Stem
import BoundQuery.Proofs.Placeholder.Bindings

/-!
# Families of stores

The stores of a family draw their numbers from one counter, so that every name is made with a number
of its own, and each keeps what has been added to it. A name that comes out twice would take the
place of an earlier one. Whether that can happen is decided by the stems alone.

## Main definitions

* `Family.Naming` — the calls that hand out a name or make a store.
* `Family.Reached` — the families that such calls lead to, with a log of the calls.
* `Family.Faithful` — no name has come out twice, and each store holds what was added to it.

## Main statements

* `Family.Reached.names_nodup`, `Family.Reached.values_eq` — what one call keeps, a run does.
* `Family.faithful_iff_stemsApart` — for which stems every family is faithful.
-/

namespace BoundQuery.Family

/-- A call that hands out a name or makes a store. -/
inductive Naming where
  | add (value : Value) (stem : Text)
  | addNamed (value : Value) (stem : Text)
  | generateName (stem : Text)
  | scope

namespace Naming

def call : Naming → Store.Call
  | add value stem => .add value (.text stem)
  | addNamed value stem => .addNamed value (.text stem)
  | generateName stem => .generateName (.text stem)
  | scope => .scope

def stem? : Naming → Option Str
  | add _ stem | addNamed _ stem | generateName stem => some stem.shown
  | scope => none

/-- The value that is kept under the name. -/
def value? : Naming → Option Value
  | add value _ | addNamed value _ => some value
  | generateName _ | scope => none

/-- The bare name in an answer; a placeholder has a dollar sign before it. -/
def bareName? : Naming → Value → Option Str
  | add _ _, .str s =>
    if s.toList.head? = some (.scalar '$') then some (Str.ofList s.toList.tail) else none
  | addNamed _ _, .str s | generateName _, .str s => some s
  | _, _ => none

theorem bareName?_placeholder (value : Value) (stem : Text) (name : Str) :
    (add value stem).bareName? (.str ("$" ++ name)) = some name := by
  simp [bareName?]

end Naming

/-- A call that has been made on the store at a place, with its answer. -/
structure Entry where
  place : Nat
  naming : Naming
  answer : Value

namespace Entry

/-- The name that has been handed out. -/
def name? (e : Entry) : Option Str :=
  e.naming.bareName? e.answer

/-- The name and the value that have been added to the store at place `i`. -/
def added? (i : Nat) (e : Entry) : Option (Str × Value) :=
  if e.place = i then e.name?.bind fun name => e.naming.value?.map (name, ·) else none

variable {e : Entry} {i : Nat} {name : Str}

theorem added?_of_ne (other : e.place ≠ i) : e.added? i = none := by
  simp [added?, other]

theorem added?_of_name? (here : e.place = i) (named : e.name? = some name) :
    e.added? i = e.naming.value?.map (name, ·) := by
  simp [added?, here, named]

theorem added?_of_value? (valueless : e.naming.value? = none) : e.added? i = none := by
  simp [added?, valueless]

theorem name?_of_added? {entry : Str × Value} (added : e.added? i = some entry) :
    e.name? = some entry.1 := by
  by_cases here : e.place = i
  · cases named : e.name? with
    | none => simp [added?, named] at added
    | some name =>
      rw [added?_of_name? here named] at added
      obtain ⟨value, -, rfl⟩ := Option.map_eq_some_iff.1 added
      rfl
  · rw [added?_of_ne here] at added
    cases added

/-- The names under which values have been added are some of the names, in their order. -/
theorem keys_added_sublist (log : List Entry) (i : Nat) :
    (Bindings.keys (log.filterMap (added? i))).Sublist (log.filterMap name?) := by
  induction log with
  | nil => exact List.Sublist.refl _
  | cons e log ih =>
    cases added : e.added? i with
    | none =>
      rw [List.filterMap_cons_none added]
      exact ih.trans ((List.sublist_cons_self e log).filterMap _)
    | some entry =>
      rw [List.filterMap_cons_some added, List.filterMap_cons_some (name?_of_added? added)]
      exact ih.cons_cons entry.1

end Entry

/-- A family with a first store, on which and on whose scopes calls have been made. -/
inductive Reached : List Entry → Family → Prop
  | start : Reached [] {}
  | call {log : List Entry} {f f' : Family} {place : Nat} {naming : Naming} {answer : Value}
      (before : Reached log f) (there : place < f.stores.length)
      (ran : Store.runNamed f place naming.call = .ok (answer, f')) :
      Reached (log ++ [⟨place, naming, answer⟩]) f'

/-- No name has been handed out twice, and each store holds just what was added to it, in this
order, and counts it. -/
structure Faithful (log : List Entry) (f : Family) : Prop where
  names : (log.filterMap Entry.name?).Nodup
  values : ∀ i, (f.store i).values = log.filterMap (Entry.added? i)
  length : ∀ i, Store.runNamed f i .length =
    .ok (.int (log.countP fun e => e.place = i ∧ e.naming.value?.isSome), f)

/-! ## One call -/

variable {log : List Entry} {f f' : Family} {place i : Nat} {naming : Naming} {answer : Value}
  {stems : Set Str}

/-- What a call does: it takes the next number for a name and may keep a value under it, or it makes
a store. -/
inductive Does (f : Family) (place : Nat) (naming : Naming) (answer : Value) (f' : Family) : Prop
  | names (stem : Str) (asked : naming.stem? = some stem)
      (named : naming.bareName? answer = some (Mark.word stem (f.counter + 1)))
      (counter : f'.counter = f.counter + 1)
      (stores : f'.stores = f.stores.set place
        ((f.store place).values.merge
          (naming.value?.map (Mark.word stem (f.counter + 1), ·)).toList))
  | scopes (valueless : naming.value? = none) (nameless : naming.bareName? answer = none)
      (counter : f'.counter = f.counter) (stores : f'.stores = f.stores ++ [[]])

theorem values_store : (f.store i).values = f.stores[i]?.getD [] := rfl

/-- A new store has no values. -/
theorem values_scope : (f.scope.2.store i).values = (f.store i).values := by
  rw [values_store, values_store, scope]
  by_cases old : i < f.stores.length
  · rw [List.getElem?_append_left old]
  · have beyond : f.stores.length ≤ i := Nat.not_lt.1 old
    rw [List.getElem?_append_right beyond, List.getElem?_eq_none beyond]
    cases i - f.stores.length <;> rfl

theorem exists_runNamed (f : Family) (place : Nat) (naming : Naming) :
    ∃ answer f', Store.runNamed f place naming.call = .ok (answer, f') := by
  cases naming <;> exact ⟨_, _, rfl⟩

theorem does_of_runNamed (ran : Store.runNamed f place naming.call = .ok (answer, f')) :
    Does f place naming answer f' := by
  cases naming with
  | add value stem =>
    cases ran
    exact .names stem.shown rfl (Naming.bareName?_placeholder value stem _) rfl rfl
  | addNamed value stem =>
    cases ran
    exact .names stem.shown rfl rfl rfl rfl
  | generateName stem =>
    cases ran
    exact .names stem.shown rfl rfl rfl rfl
  | scope =>
    cases ran
    exact .scopes rfl rfl rfl rfl

namespace Does

theorem counter_le (does : Does f place naming answer f') : f.counter ≤ f'.counter := by
  cases does with
  | names _ _ _ counter => omega
  | scopes _ _ counter => omega

/-- A name is made with the next number, which the counter then says. -/
theorem name_eq_word (does : Does f place naming answer f') {name : Str}
    (named : naming.bareName? answer = some name) :
    ∃ s ∈ naming.stem?, name = Mark.word s (f.counter + 1) ∧ f'.counter = f.counter + 1 := by
  cases does with
  | names stem asked made counter =>
    rw [made] at named
    exact ⟨stem, asked, (Option.some.inj named).symm, counter⟩
  | scopes _ nameless =>
    rw [nameless] at named
    cases named

/-- The values of the other stores stay as they are; a new store has none. -/
theorem values_of_ne (does : Does f place naming answer f') (other : i ≠ place) :
    (f'.store i).values = (f.store i).values := by
  cases does with
  | names _ _ _ _ stores =>
    rw [values_store, values_store, stores, List.getElem?_set_ne (Ne.symm other)]
  | scopes _ _ _ stores =>
    rw [values_store, stores]
    exact values_scope

/-- What has been added comes after the values that are there. -/
theorem values_eq (does : Does f place naming answer f') (there : place < f.stores.length) :
    (f'.store i).values =
      (f.store i).values.merge (Entry.added? i ⟨place, naming, answer⟩).toList := by
  by_cases same : place = i
  · subst same
    cases does with
    | names stem asked named counter stores =>
      have added : Entry.added? place ⟨place, naming, answer⟩ =
          naming.value?.map (Mark.word stem (f.counter + 1), ·) := Entry.added?_of_name? rfl named
      rw [values_store, stores, List.getElem?_set_self there, added]
      rfl
    | scopes valueless nameless counter stores =>
      rw [values_store, stores, Entry.added?_of_value? valueless]
      exact values_scope
  · rw [does.values_of_ne (Ne.symm same), Entry.added?_of_ne same]
    rfl

theorem isSome_added? (does : Does f place naming answer f') :
    (Entry.added? i ⟨place, naming, answer⟩).isSome ↔ place = i ∧ naming.value?.isSome := by
  by_cases same : place = i
  · cases does with
    | names stem asked named =>
      rw [Entry.added?_of_name? (e := ⟨place, naming, answer⟩) same named]
      simp [same]
    | scopes valueless =>
      rw [Entry.added?_of_value? valueless]
      simp [valueless]
  · simp [Entry.added?_of_ne, same]

end Does

/-! ## A run of calls -/

namespace Reached

/-- Each name has a number that the counter has said by now. -/
theorem name_eq_word (reached : Reached log f) {e : Entry} (mem : e ∈ log) {name : Str}
    (named : e.name? = some name) :
    ∃ s ∈ e.naming.stem?, ∃ k ≤ f.counter, name = Mark.word s k := by
  induction reached with
  | start => cases mem
  | call before there ran ih =>
    have does := does_of_runNamed ran
    rcases List.mem_append.1 mem with earlier | last
    · obtain ⟨s, asked, k, bound, word⟩ := ih earlier
      exact ⟨s, asked, k, bound.trans does.counter_le, word⟩
    · obtain rfl := List.mem_singleton.1 last
      obtain ⟨s, asked, word, counter⟩ := does.name_eq_word named
      exact ⟨s, asked, _, counter.ge, word⟩

/-- When the stems are apart, no name comes out twice: a new one has a number that none of the
earlier ones has. -/
theorem names_nodup (reached : Reached log f) (apart : Mark.StemsApart stems)
    (within : ∀ e ∈ log, ∀ s ∈ e.naming.stem?, s ∈ stems) :
    (log.filterMap Entry.name?).Nodup := by
  induction reached with
  | start => exact List.nodup_nil
  | @call log f f' place naming answer before there ran ih =>
    have does := does_of_runNamed ran
    have earlier := ih fun e mem => within e (List.mem_append_left _ mem)
    rw [List.filterMap_append, List.nodup_append]
    refine ⟨earlier, ?_, ?_⟩
    · cases named : naming.bareName? answer <;> simp [Entry.name?, named]
    · intro old oldMem new newMem
      obtain ⟨e, eMem, oldNamed⟩ := List.mem_filterMap.1 oldMem
      obtain ⟨s, asked, k, bound, rfl⟩ := before.name_eq_word eMem oldNamed
      obtain ⟨e', last, newNamed⟩ := List.mem_filterMap.1 newMem
      obtain rfl := List.mem_singleton.1 last
      obtain ⟨t, asked', rfl, -⟩ := does.name_eq_word newNamed
      refine apart.word_ne (within e (List.mem_append_left _ eMem) s asked) ?_ (by omega)
      exact within _ (List.mem_append_right _ List.mem_cons_self) t asked'

/-- A store holds what has been added to it, a name that comes again taking the later value. -/
theorem values_eq (reached : Reached log f) (i : Nat) :
    (f.store i).values = Bindings.merge [] (log.filterMap (Entry.added? i)) := by
  induction reached with
  | start => cases i <;> rfl
  | @call log _ _ place naming answer before there ran ih =>
    have last : [⟨place, naming, answer⟩].filterMap (Entry.added? i) =
        (Entry.added? i ⟨place, naming, answer⟩).toList := by
      cases added : Entry.added? i ⟨place, naming, answer⟩ <;> simp [added]
    rw [(does_of_runNamed ran).values_eq there, ih, List.filterMap_append, Bindings.merge_append,
      last]

theorem length_added (reached : Reached log f) (i : Nat) :
    (log.filterMap (Entry.added? i)).length =
      log.countP fun e => e.place = i ∧ e.naming.value?.isSome := by
  rw [List.length_filterMap_eq_countP]
  apply List.countP_congr
  intro e mem
  induction reached with
  | start => cases mem
  | call before there ran ih =>
    rcases List.mem_append.1 mem with earlier | last
    · exact ih earlier
    · obtain rfl := List.mem_singleton.1 last
      simpa using (does_of_runNamed ran).isSome_added?

theorem faithful (reached : Reached log f) (apart : Mark.StemsApart stems)
    (within : ∀ e ∈ log, ∀ s ∈ e.naming.stem?, s ∈ stems) : Faithful log f := by
  have names := reached.names_nodup apart within
  have values : ∀ i, (f.store i).values = log.filterMap (Entry.added? i) := by
    intro i
    have keys := names.sublist (Entry.keys_added_sublist log i)
    rw [reached.values_eq, Bindings.merge_eq_append keys, List.nil_append]
  refine ⟨names, values, ?_⟩
  intro i
  rw [← reached.length_added i, ← values i]
  rfl

end Reached

/-! ## Names that come out twice -/

/-- The entries of calls for names with the stem `t` and the numbers up to `c + n` after `c`. -/
def numbered (t : Str) (c n : Nat) : List Entry :=
  (List.range' (c + 1) n).map fun k => ⟨0, .generateName (.plain t), .str (Mark.word t k)⟩

theorem name?_numbered (t : Str) (c n : Nat) :
    (numbered t c n).filterMap Entry.name? = (List.range' (c + 1) n).map (Mark.word t) := by
  rw [numbered, List.filterMap_map]
  exact congrFun List.filterMap_eq_map _

theorem stem?_of_mem_numbered {t : Str} {c n : Nat} {e : Entry} (mem : e ∈ numbered t c n) :
    e.naming.stem? = some t := by
  obtain ⟨k, -, rfl⟩ := List.mem_map.1 mem
  rfl

theorem Reached.append_numbered {c : Nat} {b : Bindings} (reached : Reached log ⟨c, [b]⟩)
    (t : Str) (n : Nat) : Reached (log ++ numbered t c n) ⟨c + n, [b]⟩ := by
  induction n with
  | zero => simpa [numbered] using reached
  | succ n ih =>
    have next : numbered t c (n + 1) =
        numbered t c n ++ [⟨0, .generateName (.plain t), .str (Mark.word t (c + n + 1))⟩] := by
      rw [numbered, List.range'_1_concat, List.map_append, Nat.add_right_comm]
      rfl
    rw [next, ← List.append_assoc]
    exact ih.call (by simp) rfl

/-- A stem that is another one with a number after it has a name in common with that one, which
comes out again when the counter has got there. -/
theorem exists_reached_not_nodup {t : Str} {n : Nat} (positive : 0 < n) :
    ∃ log f, Reached log f ∧
      (∀ e ∈ log, ∀ s ∈ e.naming.stem?, s = Mark.word t n ∨ s = t) ∧
      ¬(log.filterMap Entry.name?).Nodup := by
  refine ⟨numbered (Mark.word t n) 0 1 ++ numbered t 1 (10 * n), _,
    (Reached.start.append_numbered (Mark.word t n) 1).append_numbered t (10 * n), ?_, ?_⟩
  · intro e mem s asked
    rcases List.mem_append.1 mem with first | later
    · rw [stem?_of_mem_numbered first] at asked
      exact Or.inl (Option.some.inj asked).symm
    · rw [stem?_of_mem_numbered later] at asked
      exact Or.inr (Option.some.inj asked).symm
  · have again : Mark.word (Mark.word t n) 1 ∈ (List.range' 2 (10 * n)).map (Mark.word t) := by
      rw [Mark.word_word positive]
      exact List.mem_map_of_mem (List.mem_range'_1.2 ⟨by omega, by omega⟩)
    rw [List.filterMap_append, name?_numbered, name?_numbered, List.nodup_append]
    intro ⟨_, _, apart⟩
    exact apart _ List.mem_cons_self _ again rfl

/-- Every call hands out a name or makes a store and leaves the values of the other stores as they
are. That no name comes out twice and each store holds just what has been added to it, in this
order, is so for all runs of calls with the given stems if and only if no stem is another one with a
number after it. -/
theorem faithful_iff_stemsApart (stems : Set Str) :
    (∀ (f : Family) (place : Nat) (naming : Naming), ∃ answer f',
      Store.runNamed f place naming.call = .ok (answer, f') ∧
        ∀ i ≠ place, (f'.store i).values = (f.store i).values) ∧
    ((∀ log f, Reached log f → (∀ e ∈ log, ∀ s ∈ e.naming.stem?, s ∈ stems) → Faithful log f) ↔
      Mark.StemsApart stems) := by
  refine ⟨?_, ?_, ?_⟩
  · intro f place naming
    obtain ⟨answer, f', ran⟩ := exists_runNamed f place naming
    exact ⟨answer, f', ran, fun i other => (does_of_runNamed ran).values_of_ne other⟩
  · intro all s hs t ht n positive same
    obtain ⟨log, f, reached, within, twice⟩ := exists_reached_not_nodup (t := t) positive
    refine twice (all log f reached ?_).names
    intro e mem s' asked
    rcases within e mem s' asked with rfl | rfl
    · exact same ▸ hs
    · exact ht
  · intro apart log f reached within
    exact reached.faithful apart within

theorem faithful_iff_stemsApart_scope :
    Faithful [⟨0, .add (.str "x") (.plain "param"), .str "$param1"⟩, ⟨0, .scope, .int 1⟩,
      ⟨1, .addNamed (.str "y") (.plain "props"), .str "props2"⟩]
      ⟨2, [[("param1", .str "x")], [("props2", .str "y")]]⟩ := by
  have stems : Mark.StemsApart {("param" : Str), ("props" : Str)} := by
    refine Mark.stemsApart_of_isDigitless ?_
    rintro s (rfl | rfl) <;> decide
  have first : Reached ([] ++ [⟨0, .add (.str "x") (.plain "param"), .str "$param1"⟩])
      ⟨1, [[("param1", .str "x")]]⟩ := .call .start (by decide) rfl
  have second : Reached (_ ++ [⟨0, .scope, .int 1⟩]) ⟨1, [[("param1", .str "x")], []]⟩ :=
    .call first (by decide) rfl
  have third : Reached (_ ++ [⟨1, .addNamed (.str "y") (.plain "props"), .str "props2"⟩])
      ⟨2, [[("param1", .str "x")], [("props2", .str "y")]]⟩ := .call second (by decide) rfl
  refine (faithful_iff_stemsApart _).2.2 stems _ _ third ?_
  intro e mem s asked
  simp only [List.mem_cons, List.not_mem_nil, or_false] at mem
  rcases mem with rfl | rfl | rfl
  · exact Or.inl (Option.some.inj asked).symm
  · cases asked
  · exact Or.inr (Option.some.inj asked).symm

/-- A stem with a number after it takes the place of a value. -/
theorem reached_collision :
    ∃ log, Reached log ⟨11, [[("p11", .str "y")]]⟩ ∧
      log.filterMap (Entry.added? 0) =
        [(("p11" : Str), Value.str "x"), ("p11", .str "y")] := by
  have first : Reached ([] ++ [⟨0, .addNamed (.str "x") (.plain "p1"), .str "p11"⟩])
      ⟨1, [[("p11", .str "x")]]⟩ := .call .start (by decide) rfl
  have later := first.append_numbered "q" 9
  have again : Reached (_ ++ [⟨0, .addNamed (.str "y") (.plain "p"), .str "p11"⟩])
      ⟨11, [[("p11", .str "y")]]⟩ := .call later (by decide) rfl
  exact ⟨_, again, rfl⟩

end BoundQuery.Family
