import BoundQuery.CommandLine.World
import BoundQuery.Proofs.CommandLine.Files

/-!
# Writes to the world

A write takes place unless an obstacle stands before it, and a write that is turned down changes
nothing but the obstacles still to come.

## Main definitions

* `World.TurnsDown` — the faults that the obstacles of a world can give rise to.
* `Running.Prints` — work that leaves the files alone and fails by obstacles only.

## Main statements

* `outcome_printLine` — a line is printed, or else nothing.
* `outcome_writeFile` — a file is written, or else no text is touched.
-/

namespace BoundQuery

namespace World

variable {world world' : World} {fault : Fault}

/-- A fault with the words of an obstacle. -/
def TurnsDown (world : World) (fault : Fault) : Prop :=
  ∃ text, fault = .outside text ∧ some text ∈ world.obstacles

theorem turnsDown_of_hindrance? {text : Str} (h : world.hindrance? = some text) :
    world.TurnsDown (.outside text) := by
  refine ⟨text, rfl, List.mem_of_mem_head? ?_⟩
  exact Option.join_eq_some_iff.1 h

/-- A world later in a run: obstacles are only left behind. -/
def Later (world world' : World) : Prop :=
  world'.obstacles <:+ world.obstacles

theorem Later.refl (world : World) : world.Later world :=
  List.suffix_refl _

theorem Later.trans {world'' : World} (h : world.Later world') (h' : world'.Later world'') :
    world.Later world'' :=
  List.IsSuffix.trans h' h

theorem later_next (world : World) : world.Later world.next :=
  List.tail_suffix _

theorem TurnsDown.of_later (h : world'.TurnsDown fault) (later : world.Later world') :
    world.TurnsDown fault := by
  obtain ⟨text, same, mem⟩ := h
  exact ⟨text, same, later.subset mem⟩

@[simp] theorem files_print (channel : Channel) (s : Str) (world : World) :
    (world.print channel s).files = world.files := by
  cases channel <;> rfl

@[simp] theorem obstacles_print (channel : Channel) (s : Str) (world : World) :
    (world.print channel s).obstacles = world.obstacles := by
  cases channel <;> rfl

end World

namespace Running

variable {α β : Type}

theorem outcome_bind_attempt (m : Running α) (world : World) :
    (attempt >>= fun _ => m).outcome world =
      match world.hindrance? with
      | some text => (.error (.outside text), world.next)
      | none => m.outcome world.next := by
  have opened : (attempt >>= fun _ => m).outcome world =
      ((match world.hindrance? with
        | some text => throw (.outside text)
        | none => return ()) >>= fun _ => m : Running α).outcome world.next := rfl
  rw [opened]
  cases world.hindrance? <;> rfl

/-- Work that leaves the files as they are and is turned down by obstacles only. -/
def Prints (m : Running α) : Prop :=
  ∀ world, (m.outcome world).2.files = world.files ∧ world.Later (m.outcome world).2 ∧
    ∀ fault, (m.outcome world).1 = .error fault → world.TurnsDown fault

theorem prints_pure (a : α) : Prints (pure a : Running α) :=
  fun world => ⟨rfl, .refl world, nofun⟩

theorem Prints.bind {m : Running α} {f : α → Running β} (first : Prints m)
    (rest : ∀ a, Prints (f a)) : Prints (m >>= f) := by
  intro world
  obtain ⟨files, later, turned⟩ := first world
  rw [Work.outcome_bind]
  generalize m.outcome world = made at files later turned ⊢
  obtain ⟨answer, world'⟩ := made
  cases answer with
  | error fault =>
    refine ⟨files, later, fun fault' failed => turned fault' ?_⟩
    cases failed
    rfl
  | ok a =>
    obtain ⟨files', later', turned'⟩ := rest a world'
    exact ⟨files'.trans files, later.trans later', fun fault failed =>
      (turned' fault failed).of_later later⟩

end Running

open Running

theorem outcome_printLine (channel : Channel) (s : Str) (world : World) :
    (printLine channel s).outcome world =
      match world.hindrance? with
      | some text => (.error (.outside text), world.next)
      | none => (.ok (), world.next.print channel (line s)) := by
  rw [printLine, outcome_bind_attempt]
  cases world.hindrance? <;> rfl

theorem prints_printLine (channel : Channel) (s : Str) : Prints (printLine channel s) := by
  intro world
  rw [outcome_printLine]
  cases hindered : world.hindrance? with
  | some text =>
    refine ⟨rfl, world.later_next, fun fault failed => ?_⟩
    cases failed
    exact World.turnsDown_of_hindrance? hindered
  | none =>
    refine ⟨by simp [World.next], ?_, nofun⟩
    rw [World.Later, World.obstacles_print]
    exact world.later_next

theorem prints_printLines (channel : Channel) (lines : List Str) :
    Prints (printLines channel lines) := by
  induction lines with
  | nil => exact prints_pure ()
  | cons s rest ih => exact (prints_printLine channel s).bind fun _ => ih

/-- The directories above a file come first; an obstacle then leaves its text as it was. -/
theorem outcome_writeFile (path s : Str) (world : World) :
    (writeFile path s).outcome world =
      match (Files.prepare path).outcome world.files with
      | (.error fault, files) => (.error fault, { world with files })
      | (.ok place, files) =>
        match world.hindrance? with
        | some text => (.error (.outside text), { world.next with files })
        | none => (.ok (), { world.next with files := files.write place s }) := by
  have prepared : (onFiles (Files.prepare path)).outcome world =
      (((Files.prepare path).outcome world.files).1,
        { world with files := ((Files.prepare path).outcome world.files).2 }) := rfl
  rw [writeFile, Work.outcome_bind, prepared]
  rcases (Files.prepare path).outcome world.files with ⟨answer, files⟩
  cases answer with
  | error fault => rfl
  | ok place =>
    dsimp only
    rw [outcome_bind_attempt]
    cases hindered : world.hindrance? <;>
      rw [show World.hindrance? { world with files } = _ from hindered] <;> rfl

end BoundQuery
