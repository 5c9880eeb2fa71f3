import BoundQuery.CommandLine.Files
import BoundQuery.Proofs.Result

/-!
# Work on files

Work on files goes on while it is answered. The directories above a file are made before it is
written, which is how the file is found by its path afterwards; nothing that is turned down touches
the texts of the files.

## Main definitions

* `Files.Extends` — files with the same texts and at least the same directories.

## Main statements

* `Files.extends_prepare` — no text is touched before a file is written.
* `Files.find_write` — a file that has been written is found.
-/

namespace BoundQuery

namespace Work

variable {State α β : Type}

theorem outcome_bind (m : Work State α) (f : α → Work State β) (state : State) :
    (m >>= f).outcome state =
      match m.outcome state with
      | (.ok a, state) => (f a).outcome state
      | (.error fault, state) => (.error fault, state) := by
  have opened : (m >>= f).outcome state =
      (ExceptT.bindCont f (m.outcome state).1).run (m.outcome state).2 := rfl
  rw [opened]
  rcases m.outcome state with ⟨answer, state⟩
  cases answer <;> rfl

/-- A request does not touch the state. -/
theorem outcome_bind_lift (r : Result α) (f : α → Work State β) (state : State) :
    (liftM r >>= f : Work State β).outcome state =
      match r with
      | .ok a => (f a).outcome state
      | .error fault => (.error fault, state) := by
  cases r <;> rfl

theorem outcome_bind_get (f : State → Work State α) (state : State) :
    (get >>= f : Work State α).outcome state = (f state).outcome state :=
  rfl

end Work

namespace Files

/-- Files with the same texts, in which every directory is still one. -/
structure Extends (files files' : Files) : Prop where
  texts : files'.texts = files.texts
  directories {place : List Str} :
    files.isDirectory place = true → files'.isDirectory place = true

variable {files files' : Files} {place : List Str}

theorem Extends.refl (files : Files) : files.Extends files :=
  ⟨rfl, id⟩

theorem Extends.trans {files'' : Files} (h : files.Extends files') (h' : files'.Extends files'') :
    files.Extends files'' :=
  ⟨h'.texts.trans h.texts, h'.directories ∘ h.directories⟩

theorem extends_addDirectory (files : Files) (place : List Str) :
    files.Extends { files with directories := place :: files.directories } := by
  refine ⟨rfl, fun {other} h => ?_⟩
  simp only [isDirectory, List.contains_cons, Bool.or_eq_true] at h ⊢
  rcases h with (h | h) | h
  · exact .inl (.inl h)
  · exact .inl (.inr (.inr h))
  · exact .inr h

/-! ## Ways -/

/-- Where a way leads does not change when there are more directories. -/
theorem walk?_mono
    (grows : ∀ place, files.isDirectory place = true → files'.isDirectory place = true)
    {steps folder : List Str} (h : files.walk? place steps = some folder) :
    files'.walk? place steps = some folder := by
  induction steps generalizing place with
  | nil => exact h
  | cons part rest ih =>
    rw [walk?] at h ⊢
    split at h
    · cases h
    · next open' =>
      rw [if_neg ?_]
      · exact ih h
      · simp only [Bool.and_eq_true, Bool.not_eq_true', not_and, Bool.not_eq_false] at open' ⊢
        exact fun up => grows place (open' up)

theorem walk?_append (files : Files) (place steps : List Str) (name : Str) :
    files.walk? place (steps ++ [name]) =
      (files.walk? place steps).bind fun folder => files.walk? folder [name] := by
  induction steps generalizing place with
  | nil => rfl
  | cons part rest ih =>
    rw [List.cons_append, walk?, walk?]
    split
    · rfl
    · exact ih _

theorem walk?_single (here : files.isDirectory place = true) (name : Str) :
    files.walk? place [name] = some (step place name) := by
  rw [walk?, here, Bool.not_true, Bool.and_false]
  rfl

theorem outcome_makeWay_cons (missing : Bool) (place : List Str) (part : Str)
    (rest : List Str) (files : Files) :
    (makeWay missing place (part :: rest)).outcome files =
      if (files.textAt? (step place part)).isSome then
        (.error (.file (if missing || rest.isEmpty then .alreadyExists else .notDirectory)), files)
      else if files.isDirectory (step place part) then
        (makeWay missing (step place part) rest).outcome files
      else
        (makeWay true (step place part) rest).outcome
          { files with directories := step place part :: files.directories } := by
  have opened : (makeWay missing place (part :: rest)).outcome files =
    Work.outcome (if (files.textAt? (step place part)).isSome then
        throw (.file (if missing || rest.isEmpty then .alreadyExists else .notDirectory))
      else if files.isDirectory (step place part) then makeWay missing (step place part) rest
      else do
        set { files with directories := step place part :: files.directories }
        makeWay true (step place part) rest) files := rfl
  rw [opened]
  split
  · rfl
  · split <;> rfl

/-- Making a way only adds directories, also when something stands in it. -/
theorem extends_makeWay (missing : Bool) (place steps : List Str) (files : Files) :
    files.Extends ((makeWay missing place steps).outcome files).2 := by
  induction steps generalizing missing place files with
  | nil => exact .refl files
  | cons part rest ih =>
    rw [outcome_makeWay_cons]
    split
    · exact .refl files
    · split
      · exact ih missing _ files
      · exact (extends_addDirectory files _).trans (ih true _ _)

/-- A way that has been made leads to a directory. -/
theorem walk?_of_makeWay {missing : Bool} {steps folder : List Str}
    (start : files.isDirectory place = true)
    (made : (makeWay missing place steps).outcome files = (.ok folder, files')) :
    files'.isDirectory folder = true ∧ files'.walk? place steps = some folder := by
  induction steps generalizing missing place files with
  | nil =>
    cases made
    exact ⟨start, rfl⟩
  | cons part rest ih =>
    have within := extends_makeWay missing place (part :: rest) files
    rw [made] at within
    have entered : files'.walk? place (part :: rest) = files'.walk? (step place part) rest := by
      rw [walk?, within.directories start, Bool.not_true, Bool.and_false]
      rfl
    rw [entered]
    rw [outcome_makeWay_cons] at made
    split at made
    · cases made
    · split at made
      · next there => exact ih there made
      · exact ih (by simp [isDirectory]) made

/-! ## Writing -/

theorem lookup_put (place : List Str) (s : Str) (texts : List (List Str × Str)) :
    (put place s texts).lookup place = some s := by
  induction texts with
  | nil => simp [put]
  | cons entry texts ih =>
    obtain ⟨path, old⟩ := entry
    by_cases same : path = place
    · simp [put, same]
    · have other : (place == path) = false := by simpa using Ne.symm same
      rw [put, if_neg (by simpa using same), List.lookup_cons, other, ih]

/-- Every path with a text still has one, so that what lies above it is still a directory. -/
theorem mem_put {path : List Str} {old : Str} {texts : List (List Str × Str)}
    (mem : (path, old) ∈ texts) (place : List Str) (s : Str) :
    ∃ text, (path, text) ∈ put place s texts := by
  induction texts with
  | nil => cases mem
  | cons entry texts ih =>
    obtain ⟨first, text⟩ := entry
    rw [put]
    rcases List.mem_cons.1 mem with same | later
    · cases same
      split
      · exact ⟨s, List.mem_cons_self⟩
      · exact ⟨old, List.mem_cons_self⟩
    · split
      · exact ⟨old, List.mem_cons_of_mem _ later⟩
      · obtain ⟨text', inside⟩ := ih later
        exact ⟨text', List.mem_cons_of_mem _ inside⟩

theorem isDirectory_write {other : List Str} (h : files.isDirectory other = true)
    (place : List Str) (s : Str) : (files.write place s).isDirectory other = true := by
  simp only [write, isDirectory, Bool.or_eq_true, List.any_eq_true] at h ⊢
  refine h.imp_right ?_
  rintro ⟨⟨path, old⟩, mem, above⟩
  obtain ⟨text, inside⟩ := mem_put mem place s
  exact ⟨(path, text), inside, above⟩

/-- The directories above a file come first, and then, if nothing stands in the way, its place. -/
theorem outcome_prepare (path : Str) (files : Files) :
    (prepare path).outcome files =
      match (makeWay false [] (parts path).dropLast).outcome files with
      | (.error fault, made) => (.error fault, made)
      | (.ok folder, made) =>
        match (parts path).getLast? with
        | none => (.error (.file .isDirectory), made)
        | some name =>
          if made.isDirectory (step folder name) then (.error (.file .isDirectory), made)
          else (.ok (step folder name), made) := by
  rw [prepare, Work.outcome_bind]
  rcases (makeWay false [] (parts path).dropLast).outcome files with ⟨answer, made⟩
  cases answer with
  | error fault => rfl
  | ok folder =>
    cases (parts path).getLast? with
    | none => rfl
    | some name =>
      dsimp only
      have opened : Work.outcome (do
          if (← get).isDirectory (step folder name) then throw (.file .isDirectory)
          return step folder name) made =
        Work.outcome (if made.isDirectory (step folder name) then
            throw (.file .isDirectory)
          else return step folder name) made := by
        change Work.outcome (if made.isDirectory (step folder name) then _ else _) made = _
        split <;> rfl
      refine opened.trans ?_
      split <;> rfl

/-- Looking for the place of a file leaves all texts as they were. -/
theorem extends_prepare (path : Str) (files : Files) :
    files.Extends ((prepare path).outcome files).2 := by
  have within := extends_makeWay false [] (parts path).dropLast files
  rw [outcome_prepare]
  generalize (makeWay false [] (parts path).dropLast).outcome files = way at within ⊢
  obtain ⟨answer, made⟩ := way
  cases answer with
  | error fault => exact within
  | ok folder =>
    dsimp only
    split
    · exact within
    · split <;> exact within

/-- A file that has been written at the place prepared for it is found by its path. -/
theorem find_write {path : Str} {place : List Str}
    (prepared : (prepare path).outcome files = (.ok place, files')) (s : Str) :
    (files'.write place s).find path = .text s := by
  rw [outcome_prepare] at prepared
  cases way : (makeWay false [] (parts path).dropLast).outcome files with | mk answer made =>
  rw [way] at prepared
  cases answer with
  | error fault => cases prepared
  | ok folder =>
    cases last : (parts path).getLast? with
    | none =>
      rw [last] at prepared
      cases prepared
    | some name =>
      rw [last] at prepared
      dsimp only at prepared
      split at prepared
      · cases prepared
      · cases prepared
        obtain ⟨above, leads⟩ := walk?_of_makeWay rfl way
        have steps : parts path = (parts path).dropLast ++ [name] :=
          (List.dropLast_append_getLast? name last).symm
        have grows := fun other (h : files'.isDirectory other = true) =>
          isDirectory_write h (step folder name) s
        have placed : place? (files'.write (step folder name) s) path =
            some (step folder name) := by
          rw [place?, steps, walk?_append, walk?_mono grows leads]
          exact walk?_single (grows folder above) name
        rw [find, placed]
        dsimp only
        rw [textAt?, write, lookup_put]

end Files
end BoundQuery
