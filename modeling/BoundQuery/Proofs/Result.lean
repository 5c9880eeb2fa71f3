import BoundQuery.Error.Basic
import Mathlib.Data.List.Forall2

/-!
# Outcomes of composed requests

When a request that is made of others is answered: each of them has been answered. Two requests
agree when both are answered, by related answers, or both are turned down; requests that are made of
agreeing ones agree.

A list of requests is turned down with the first of them that is.

## Main definitions

* `Result.IsRefused` — a request that is turned down.
* `Result.Agree` — two requests with related answers, or none.
* `Result.SameRuns` — two pieces of work on a state with the same answers, or none.
-/

namespace BoundQuery.Result

variable {α β : Type}

theorem bind_eq_ok {r : Result α} {f : α → Result β} {b : β} :
    (r >>= f) = .ok b ↔ ∃ a, r = .ok a ∧ f a = .ok b := by
  cases r with
  | error fault => simp [bind, Except.bind]
  | ok a => simp [bind, Except.bind]

theorem map_eq_ok {r : Result α} {f : α → β} {b : β} :
    r.map f = .ok b ↔ ∃ a, r = .ok a ∧ f a = b := by
  cases r with
  | error fault => simp [Except.map]
  | ok a => simp [Except.map]

theorem mapM_eq_ok {f : α → Result β} {xs : List α} {ys : List β} :
    xs.mapM f = .ok ys ↔ List.Forall₂ (fun x y => f x = .ok y) xs ys := by
  induction xs generalizing ys with
  | nil =>
    rw [List.mapM_nil, List.forall₂_nil_left_iff]
    exact ⟨fun h => (Except.ok.inj h).symm, fun h => h ▸ rfl⟩
  | cons x xs ih =>
    rw [List.mapM_cons, bind_eq_ok, List.forall₂_cons_left_iff]
    constructor
    · rintro ⟨y, head, h⟩
      obtain ⟨zs, tail, same⟩ := bind_eq_ok.1 h
      exact ⟨y, zs, head, ih.1 tail, (Except.ok.inj same).symm⟩
    · rintro ⟨y, zs, head, tail, rfl⟩
      exact ⟨y, head, bind_eq_ok.2 ⟨zs, ih.2 tail, rfl⟩⟩

theorem mapM_of_ok {f : α → Result β} {g : α → β} {xs : List α} (each : ∀ x ∈ xs, f x = .ok (g x)) :
    xs.mapM f = .ok (xs.map g) := by
  rw [mapM_eq_ok, List.forall₂_map_right_iff]
  exact List.forall₂_same.2 each

theorem mapM_map {γ : Type} (f : α → Result β) (g : β → γ) (xs : List α) :
    (xs.mapM fun x => (f x).map g) = (xs.mapM f).map (List.map g) := by
  induction xs with
  | nil => rfl
  | cons x xs ih =>
    rw [List.mapM_cons, List.mapM_cons, ih]
    cases f x with
    | error fault => rfl
    | ok y => cases xs.mapM f <;> rfl

/-- Results that may be missing, of which none is. -/
theorem mapM_of_some {f : α → Option β} {g : α → β} {xs : List α}
    (each : ∀ x ∈ xs, f x = some (g x)) : xs.mapM f = some (xs.map g) := by
  induction xs with
  | nil => rfl
  | cons x xs ih =>
    obtain ⟨first, rest⟩ := List.forall_mem_cons.1 each
    simp [List.mapM_cons, first, ih rest]

theorem exists_mapM_eq_ok {f : α → Result β} {P : β → Prop} {xs : List α}
    (each : ∀ x ∈ xs, ∃ y, f x = .ok y ∧ P y) : ∃ ys, xs.mapM f = .ok ys ∧ ∀ y ∈ ys, P y := by
  induction xs with
  | nil => exact ⟨[], rfl, by simp⟩
  | cons x xs ih =>
    obtain ⟨⟨y, first, holds⟩, others⟩ := List.forall_mem_cons.1 each
    obtain ⟨ys, rest, all⟩ := ih others
    refine ⟨y :: ys, ?_, List.forall_mem_cons.2 ⟨holds, all⟩⟩
    rw [List.mapM_cons, first, rest]
    rfl

theorem mapM_append_eq_ok {f : α → Result β} {xs ys : List α} {zs : List β} :
    (xs ++ ys).mapM f = .ok zs ↔
      ∃ as bs, xs.mapM f = .ok as ∧ ys.mapM f = .ok bs ∧ zs = as ++ bs := by
  rw [List.mapM_append]
  simp only [bind_eq_ok]
  constructor
  · rintro ⟨as, left, bs, right, ⟨⟩⟩
    exact ⟨as, bs, left, right, rfl⟩
  · rintro ⟨as, bs, left, right, rfl⟩
    exact ⟨as, left, bs, right, rfl⟩

/-- What is made of each answer after all have been answered can be made as they are answered. -/
theorem mapM_mapM_eq_ok {γ : Type} {f : α → Result β} {g : β → Result γ} {h : α → Result γ}
    (each : ∀ a c, (f a >>= g) = .ok c ↔ h a = .ok c) {xs : List α} {zs : List γ} :
    (xs.mapM f >>= (·.mapM g)) = .ok zs ↔ xs.mapM h = .ok zs := by
  rw [bind_eq_ok, mapM_eq_ok]
  constructor
  · rintro ⟨ys, first, second⟩
    rw [mapM_eq_ok] at first second
    induction first generalizing zs with
    | nil =>
      cases second
      exact .nil
    | cons here _ ih =>
      cases second with
      | cons there rest => exact .cons ((each _ _).1 (bind_eq_ok.2 ⟨_, here, there⟩)) (ih rest)
  · intro both
    induction both with
    | nil => exact ⟨[], rfl, rfl⟩
    | cons made _ ih =>
      obtain ⟨y, here, there⟩ := bind_eq_ok.1 ((each _ _).2 made)
      obtain ⟨ys, first, second⟩ := ih
      refine ⟨y :: ys, mapM_eq_ok.2 (.cons here (mapM_eq_ok.1 first)), ?_⟩
      exact mapM_eq_ok.2 (.cons there (mapM_eq_ok.1 second))

theorem exists_of_mem_right {R : α → β → Prop} {xs : List α} {ys : List β} {y : β}
    (h : List.Forall₂ R xs ys) (mem : y ∈ ys) : ∃ x ∈ xs, R x y := by
  induction h with
  | nil => cases mem
  | @cons x z xs ys head _ ih =>
    rcases List.mem_cons.1 mem with rfl | mem
    · exact ⟨x, List.mem_cons_self, head⟩
    · obtain ⟨x', inRest, related⟩ := ih mem
      exact ⟨x', List.mem_cons_of_mem _ inRest, related⟩

/-- What has been answered in a list of requests was asked for by one of them. -/
theorem exists_of_mem_mapM {f : α → Result β} {xs : List α} {ys : List β} {y : β}
    (h : xs.mapM f = .ok ys) (mem : y ∈ ys) : ∃ x ∈ xs, f x = .ok y :=
  exists_of_mem_right (R := fun x y => f x = .ok y) (mapM_eq_ok.1 h) mem

/-! ## Requests that are turned down -/

def IsRefused (r : Result α) : Prop :=
  ∃ fault, r = .error fault

section
variable {r : Result α} {f : α → Result β} {xs : List α}

theorem isRefused_error (fault : Fault) : IsRefused (.error fault : Result α) :=
  ⟨fault, rfl⟩

theorem not_isRefused_ok (a : α) : ¬ IsRefused (.ok a : Result α) := by
  rintro ⟨fault, h⟩
  cases h

theorem not_isRefused_iff : ¬ r.IsRefused ↔ ∃ a, r = .ok a := by
  cases r with
  | error fault => simp [IsRefused]
  | ok a => simp [IsRefused]

theorem isRefused_map_iff {g : α → β} : IsRefused (r.map g) ↔ r.IsRefused := by
  cases r with
  | error fault => simp [IsRefused, Except.map]
  | ok a => simp [IsRefused, Except.map]

theorem isRefused_bind_iff :
    IsRefused (r >>= f) ↔ r.IsRefused ∨ ∃ a, r = .ok a ∧ (f a).IsRefused := by
  cases r with
  | error fault => simp [IsRefused, bind, Except.bind]
  | ok a => simp [IsRefused, bind, Except.bind]

theorem isRefused_mapM_iff : IsRefused (xs.mapM f) ↔ ∃ x ∈ xs, (f x).IsRefused := by
  induction xs with
  | nil =>
    rw [List.mapM_nil]
    exact ⟨fun h => absurd h (not_isRefused_ok _), by simp⟩
  | cons x xs ih =>
    rw [List.mapM_cons, isRefused_bind_iff, List.exists_mem_cons_iff, ← ih]
    cases f x with
    | error fault => simp [isRefused_error]
    | ok y => cases xs.mapM f <;> simp [IsRefused, bind, Except.bind, pure, Except.pure]

/-- The first request that is turned down says why. -/
theorem mapM_eq_error_of_first {before after : List α} {x : α} {fault : Fault}
    (passed : ∀ y ∈ before, ∃ b, f y = .ok b) (refused : f x = .error fault) :
    (before ++ x :: after).mapM f = .error fault := by
  induction before with
  | nil =>
    rw [List.nil_append, List.mapM_cons, refused]
    rfl
  | cons y before ih =>
    obtain ⟨⟨b, first⟩, others⟩ := List.forall_mem_cons.1 passed
    rw [List.cons_append, List.mapM_cons, first, ih others]
    rfl

end

/-- Where a list of requests is turned down, those before have been answered. -/
theorem exists_first_of_mapM_eq_error {f : α → Result β} {xs : List α} {fault : Fault}
    (refused : xs.mapM f = .error fault) :
    ∃ before x after ys, xs = before ++ x :: after ∧ before.mapM f = .ok ys ∧
      f x = .error fault := by
  induction xs with
  | nil => cases refused
  | cons x xs ih =>
    rw [List.mapM_cons] at refused
    cases first : f x with
    | error fault' =>
      rw [first] at refused
      cases refused
      exact ⟨[], x, xs, [], rfl, rfl, first⟩
    | ok y =>
      cases others : xs.mapM f with
      | ok ys =>
        rw [first, others] at refused
        cases refused
      | error fault' =>
        rw [first, others] at refused
        cases refused
        obtain ⟨before, z, after, ys, rfl, answered, last⟩ := ih others
        refine ⟨x :: before, z, after, y :: ys, rfl, ?_, last⟩
        rw [List.mapM_cons, first, answered]
        rfl

/-! ## Two requests -/

/-- Both requests are answered, by related answers, or both are turned down. -/
inductive Agree {α β : Type} (S : α → β → Prop) : Result α → Result β → Prop
  | ok {a : α} {b : β} (related : S a b) : Agree S (.ok a) (.ok b)
  | error (fault fault' : Fault) : Agree S (.error fault) (.error fault')

section
variable {α' β' : Type} {S : α → α' → Prop} {T : β → β' → Prop}
variable {r : Result α} {r' : Result α'}

theorem agree_eq (r : Result α) : Agree Eq r r := by
  cases r with
  | ok a => exact .ok rfl
  | error fault => exact .error fault fault

theorem agree_of_isRefused (left : r.IsRefused) (right : r'.IsRefused) : Agree S r r' := by
  obtain ⟨fault, rfl⟩ := left
  obtain ⟨fault', rfl⟩ := right
  exact .error fault fault'

/-- Requests that agree on equal answers are answered alike. -/
theorem agree_eq_iff {r r' : Result α} : Agree Eq r r' ↔ ∀ a, r = .ok a ↔ r' = .ok a := by
  constructor
  · intro h a
    cases h with
    | ok related => rw [related]
    | error fault fault' => simp
  · intro same
    cases r with
    | ok a =>
      rw [(same a).1 rfl]
      exact .ok rfl
    | error fault =>
      cases r' with
      | ok a => cases (same a).2 rfl
      | error fault' => exact .error fault fault'

theorem Agree.bind {f : α → Result β} {f' : α' → Result β'} (h : Agree S r r')
    (rest : ∀ a a', S a a' → Agree T (f a) (f' a')) : Agree T (r >>= f) (r' >>= f') := by
  cases h with
  | ok related => exact rest _ _ related
  | error fault fault' => exact .error fault fault'

theorem Agree.map {f : α → β} {f' : α' → β'} (h : Agree S r r')
    (rest : ∀ a a', S a a' → T (f a) (f' a')) : Agree T (r.map f) (r'.map f') := by
  cases h with
  | ok related => exact .ok (rest _ _ related)
  | error fault fault' => exact .error fault fault'

theorem Agree.imp {S' : α → α' → Prop} (h : Agree S r r') (le : ∀ a a', S a a' → S' a a') :
    Agree S' r r' := by
  cases h with
  | ok related => exact .ok (le _ _ related)
  | error fault fault' => exact .error fault fault'

/-- The answers, with the request that the first one is for. -/
theorem Agree.answered (h : Agree S r r') : Agree (fun a a' => r = .ok a ∧ S a a') r r' := by
  cases h with
  | ok related => exact .ok ⟨rfl, related⟩
  | error fault fault' => exact .error fault fault'

/-- The same request twice, and then what is made of its answer. -/
theorem agree_bind_same {f : α → Result β} {f' : α → Result β'}
    (rest : ∀ a, Agree T (f a) (f' a)) : Agree T (r >>= f) (r >>= f') :=
  (agree_eq r).bind fun a _ same => same ▸ rest a

theorem agree_mapM {f : α → Result β} {f' : α' → Result β'} {xs : List α} {xs' : List α'}
    (related : List.Forall₂ S xs xs') (each : ∀ x x', S x x' → Agree T (f x) (f' x')) :
    Agree (List.Forall₂ T) (xs.mapM f) (xs'.mapM f') := by
  induction related with
  | nil => exact .ok .nil
  | cons first _ ih =>
    rw [List.mapM_cons, List.mapM_cons]
    exact (each _ _ first).bind fun y y' head => ih.bind fun ys ys' tail => .ok (.cons head tail)

end

/-! ## Two pieces of work on a state -/

section
variable {σ : Type} {α' : Type} {S : α → α' → Prop} {m m' : StateT σ Result α}

/-- From every state both are answered alike and leave the same state, or both are turned down. -/
def SameRuns (m m' : StateT σ Result α) : Prop :=
  ∀ s, Agree Eq (m.run s) (m'.run s)

theorem sameRuns_self (m : StateT σ Result α) : SameRuns m m :=
  fun s => agree_eq (m.run s)

theorem SameRuns.bind {f f' : α → StateT σ Result β} (h : SameRuns m m')
    (rest : ∀ a, SameRuns (f a) (f' a)) : SameRuns (m >>= f) (m' >>= f') := by
  intro s
  refine (h s).bind ?_
  rintro out _ rfl
  exact rest out.1 out.2

theorem sameRuns_lift_bind {r : Result α} {r' : Result α'} {f : α → StateT σ Result β}
    {f' : α' → StateT σ Result β} (h : Agree S r r')
    (rest : ∀ a a', S a a' → SameRuns (f a) (f' a')) :
    SameRuns (liftM r >>= f) (liftM r' >>= f') := by
  intro s
  cases h with
  | ok related => exact rest _ _ related s
  | error fault fault' => exact .error fault fault'

section
variable {T : α → α → Prop} {xs xs' : List α}

theorem sameRuns_mapM {f : α → StateT σ Result β} (related : List.Forall₂ T xs xs')
    (each : ∀ x x', T x x' → SameRuns (f x) (f x')) : SameRuns (xs.mapM f) (xs'.mapM f) := by
  induction related with
  | nil => exact sameRuns_self _
  | cons first _ ih =>
    rw [List.mapM_cons, List.mapM_cons]
    exact (each _ _ first).bind fun y => ih.bind fun ys => sameRuns_self _

theorem sameRuns_forM {f : α → StateT σ Result PUnit} (related : List.Forall₂ T xs xs')
    (each : ∀ x x', T x x' → SameRuns (f x) (f x')) : SameRuns (xs.forM f) (xs'.forM f) := by
  induction related with
  | nil => exact sameRuns_self _
  | cons first _ ih => exact (each _ _ first).bind fun _ => ih

end
end

end BoundQuery.Result
