import BoundQuery.GraphQuery.Pattern
import BoundQuery.Proofs.Result

/-!
# Work that takes numbers

Work that is put together from parts goes on while they are answered, and the counter goes on with
it. Work is atomic when it takes no number unless it is answered: all its checks come before the
first number that it takes.

## Main definitions

* `Minting.run` — what work answers, with the counter, unless it is turned down.
* `Minting.Gives` — what holds of every answer of some work.
* `Minting.Agree` — work that takes the same numbers, with related answers or none.
* `Minting.IsAtomic` — work that takes no number when it is turned down.

## Main statements

* `Minting.bind_eq_ok`, `Minting.run_bind_lift` — composed work that is answered.
* `Minting.isAtomic_bind_lift`, `Minting.IsAtomic.bind_total` — composed work that is atomic.
-/

namespace BoundQuery.Minting

variable {α β : Type} {m : Minting α} {f : α → Minting β} {n : Nat}

theorem outcome_bind (m : Minting α) (f : α → Minting β) (n : Nat) :
    (m >>= f).outcome n =
      match m.outcome n with
      | (.ok a, k) => (f a).outcome k
      | (.error fault, k) => (.error fault, k) := by
  have opened : (m >>= f).outcome n =
      (ExceptT.bindCont f (m.outcome n).1).run (m.outcome n).2 := rfl
  rw [opened]
  rcases m.outcome n with ⟨answer, k⟩
  cases answer <;> rfl

/-- The answer of some work and where the counter stands then, unless the work is turned down. -/
def run (m : Minting α) (counter : Nat) : Result (α × Nat) :=
  (m.outcome counter).1.map (·, (m.outcome counter).2)

theorem run_eq_ok {a : α} {k : Nat} : m.run n = .ok (a, k) ↔ m.outcome n = (.ok a, k) := by
  rw [run, Result.map_eq_ok]
  constructor
  · rintro ⟨b, answered, same⟩
    cases same
    rw [← answered]
  · intro h
    exact ⟨a, by rw [h], by rw [h]⟩

theorem run_eq_error {fault : Fault} : m.run n = .error fault ↔ (m.outcome n).1 = .error fault := by
  rw [run]
  cases (m.outcome n).1 <;> simp [Except.map]

theorem bind_eq_ok {b : β} {k : Nat} :
    (m >>= f).run n = .ok (b, k) ↔ ∃ a i, m.run n = .ok (a, i) ∧ (f a).run i = .ok (b, k) := by
  simp only [run_eq_ok, outcome_bind]
  rcases m.outcome n with ⟨answer, i⟩
  cases answer with
  | error fault => simp
  | ok a => simp

theorem run_bind_of_ok {a : α} {i : Nat} (h : m.run n = .ok (a, i)) :
    (m >>= f).run n = (f a).run i := by
  unfold run
  rw [outcome_bind, run_eq_ok.1 h]

theorem run_lift_of_ok {r : Result α} {a : α} (h : r = .ok a) :
    (liftM r : Minting α).run n = .ok (a, n) := by
  subst h
  rfl

theorem lift_eq_ok {r : Result α} {a : α} {k : Nat}
    (h : (liftM r : Minting α).run n = .ok (a, k)) : r = .ok a ∧ k = n := by
  cases r with
  | error fault => cases h
  | ok b =>
    cases h
    exact ⟨rfl, rfl⟩

theorem exists_of_bind_lift {r : Result α} {x : β × Nat}
    (h : (liftM r >>= f : Minting β).run n = .ok x) : ∃ a, r = .ok a ∧ (f a).run n = .ok x := by
  obtain ⟨b, k⟩ := x
  obtain ⟨a, i, lifted, rest⟩ := bind_eq_ok.1 h
  obtain ⟨answered, rfl⟩ := lift_eq_ok lifted
  exact ⟨a, answered, rest⟩

theorem run_bind_lift {r : Result α} {a : α} (h : r = .ok a) :
    (liftM r >>= f : Minting β).run n = (f a).run n :=
  run_bind_of_ok (run_lift_of_ok h)

theorem mapM_lift (g : α → Result β) (xs : List α) :
    xs.mapM (fun x => (liftM (g x) : Minting β)) = liftM (xs.mapM g) := by
  induction xs with
  | nil => rfl
  | cons x xs ih =>
    funext n
    rw [List.mapM_cons, List.mapM_cons, ih]
    cases first : g x with
    | error fault => rfl
    | ok y =>
      cases rest : xs.mapM g with
      | error fault => rfl
      | ok ys => rfl

/-! ## Answers of work -/

/-- What holds of every answer, wherever the counter stands. -/
def Gives (m : Minting α) (P : α → Prop) : Prop :=
  ∀ n a k, m.run n = .ok (a, k) → P a

section
variable {P : α → Prop} {Q : β → Prop}

theorem gives_pure {a : α} (h : P a) : Gives (pure a) P := by
  intro n b k answered
  cases answered
  exact h

theorem Gives.bind (h : m.Gives P) (rest : ∀ a, P a → (f a).Gives Q) : (m >>= f).Gives Q := by
  intro n b k answered
  obtain ⟨a, i, first, last⟩ := bind_eq_ok.1 answered
  exact rest a (h n a i first) i b k last

theorem gives_bind_lift {r : Result α} (rest : ∀ a, r = .ok a → (f a).Gives Q) :
    (liftM r >>= f : Minting β).Gives Q := by
  intro n b k answered
  obtain ⟨a, first, last⟩ := exists_of_bind_lift answered
  exact rest a first n b k last

end

/-! ## Two pieces of work -/

/-- Wherever the counter stands, both take the same numbers, and they agree on their answers. -/
def Agree {α' : Type} (S : α → α' → Prop) (m : Minting α) (m' : Minting α') : Prop :=
  ∀ n, Result.Agree S (m.outcome n).1 (m'.outcome n).1 ∧ (m.outcome n).2 = (m'.outcome n).2

section
variable {α' β' : Type} {S : α → α' → Prop} {T : β → β' → Prop}
variable {m' : Minting α'} {f' : α' → Minting β'}

theorem agree_pure {a : α} {a' : α'} (h : S a a') : Agree S (pure a) (pure a') :=
  fun _ => ⟨.ok h, rfl⟩

theorem agree_throw (fault fault' : Fault) :
    Agree S (throw fault : Minting α) (throw fault' : Minting α') :=
  fun _ => ⟨.error fault fault', rfl⟩

theorem Agree.bind (h : Agree S m m') (rest : ∀ a a', S a a' → Agree T (f a) (f' a')) :
    Agree T (m >>= f) (m' >>= f') := by
  intro n
  obtain ⟨answers, counters⟩ := h n
  rw [outcome_bind, outcome_bind]
  generalize m.outcome n = first at answers counters ⊢
  generalize m'.outcome n = first' at answers counters ⊢
  obtain ⟨answer, k⟩ := first
  obtain ⟨answer', k'⟩ := first'
  cases counters
  cases answers with
  | ok related => exact rest _ _ related k
  | error fault fault' => exact ⟨.error fault fault', rfl⟩

theorem agree_lift {r : Result α} {r' : Result α'} (h : Result.Agree S r r') :
    Agree S (liftM r) (liftM r') :=
  fun _ => ⟨h, rfl⟩

/-- The same request twice, and then what is made of its answer. -/
theorem agree_bind_same {r : Result α} {f f' : α → Minting β} {T : β → β → Prop}
    (rest : ∀ a, Agree T (f a) (f' a)) : Agree T (liftM r >>= f) (liftM r >>= f') :=
  (agree_lift (Result.agree_eq r)).bind fun a _ same => same ▸ rest a

end

/-! ## Atomic work -/

/-- Work that takes no number when it is turned down. -/
def IsAtomic (m : Minting α) : Prop :=
  ∀ n fault, (m.outcome n).1 = .error fault → (m.outcome n).2 = n

/-- Work that is never turned down. -/
def IsTotal (m : Minting α) : Prop :=
  ∀ n, ∃ a, (m.outcome n).1 = .ok a

theorem IsAtomic.outcome_of_error {fault : Fault} (h : m.IsAtomic)
    (turned : m.run n = .error fault) : m.outcome n = (.error fault, n) :=
  Prod.ext (run_eq_error.1 turned) (h n fault (run_eq_error.1 turned))

theorem IsTotal.isAtomic (h : m.IsTotal) : m.IsAtomic := by
  intro n fault turned
  obtain ⟨a, answered⟩ := h n
  rw [answered] at turned
  cases turned

theorem isTotal_pure (a : α) : IsTotal (pure a) :=
  fun _ => ⟨a, rfl⟩

theorem isAtomic_throw (fault : Fault) : IsAtomic (throw fault : Minting α) :=
  fun _ _ _ => rfl

theorem isAtomic_lift (r : Result α) : IsAtomic (liftM r) :=
  fun _ _ _ => rfl

theorem IsTotal.bind (h : m.IsTotal) (rest : ∀ a, (f a).IsTotal) : (m >>= f).IsTotal := by
  intro n
  obtain ⟨a, answered⟩ := h n
  have first : m.outcome n = (.ok a, (m.outcome n).2) := Prod.ext answered rfl
  rw [outcome_bind, first]
  exact rest a _

theorem isAtomic_bind_lift {r : Result α} (rest : ∀ a, r = .ok a → (f a).IsAtomic) :
    (liftM r >>= f : Minting β).IsAtomic := by
  intro n fault
  cases r with
  | error fault' => exact fun _ => rfl
  | ok a => exact rest a rfl n fault

/-- Nothing is turned down any more after the part that takes numbers. -/
theorem IsAtomic.bind_total (h : m.IsAtomic) (rest : ∀ a, (f a).IsTotal) : (m >>= f).IsAtomic := by
  intro n fault
  have first := h n
  rw [outcome_bind]
  generalize m.outcome n = ended at first ⊢
  obtain ⟨answer, k⟩ := ended
  cases answer with
  | error fault' => exact fun _ => first fault' rfl
  | ok a =>
    intro turned
    obtain ⟨b, answered⟩ := rest a k
    rw [answered] at turned
    cases turned

theorem isTotal_name (stem : Str) : IsTotal (name stem) :=
  fun _ => ⟨_, rfl⟩

theorem isTotal_fill (t : Template) : IsTotal (fill t) :=
  fun _ => ⟨_, rfl⟩

end BoundQuery.Minting
