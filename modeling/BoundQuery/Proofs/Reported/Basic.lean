import BoundQuery.Call
import BoundQuery.Error.Report
import BoundQuery.Name
import BoundQuery.Proofs.Condition.Answers
import BoundQuery.Proofs.GraphQuery.Minting
import BoundQuery.Proofs.Json.Written
import BoundQuery.Validation

/-!
# Failures that can be reported

A failure is reported with the details of its cause, which are written as JSON: that must not fail
in its turn. What a request is turned down for can be reported when the values that it names are
data, for all else that details hold is text and numbers.

## Main definitions

* `Fault.IsReported` — a failure whose details can be written.
* `Result.Reports` — a request that is turned down with such a failure, if it is.
* `Result.ReportsFrom`, `Effect.Reports`, `Minting.Reports` — the same of steps on a state, of
  effects and of work that takes names.

## Main statements

* `Name.reports_gate`, `Document.reports_require` and the other checks, each of any data.
-/

namespace BoundQuery

/-! ## Details -/

namespace Value

/-- A value that can be written once comparators and patterns in it have been opened. -/
def IsTold (v : Value) : Prop :=
  v.opened.IsWritable

theorem openedList_eq (xs : List Value) : openedList xs = xs.map opened := by
  induction xs with
  | nil => rfl
  | cons x xs ih => rw [openedList, ih, List.map_cons]

theorem openedEntries_eq (entries : List (Value × Value)) :
    openedEntries entries = entries.map fun e => (opened e.1, opened e.2) := by
  induction entries with
  | nil => rfl
  | cons e entries ih => rw [openedEntries, ih, List.map_cons]

/-- Data holds neither comparators nor patterns. -/
theorem opened_of_isData {v : Value} (data : v.IsData) : v.opened = v := by
  induction data with
  | null | bool _ | int _ | float _ | str _ => rfl
  | list _ ih => rw [opened, openedList_eq, List.map_congr_left ih, List.map_id']
  | @map entries keys _ _ ih =>
    have same : ∀ e ∈ entries, (opened e.1, opened e.2) = e := by
      intro e mem
      obtain ⟨s, key⟩ := keys e mem
      have kept : opened e.1 = e.1 := by
        rw [key]
        rfl
      rw [ih e mem, kept]
    rw [opened, openedEntries_eq, List.map_congr_left same, List.map_id']

theorem IsData.isTold {v : Value} (data : v.IsData) : v.IsTold := by
  rw [IsTold, opened_of_isData data]
  exact data.isWritable

theorem isTold_text (t : Text) : (text t).IsTold :=
  ⟨_, rfl⟩

theorem isTold_texts (ts : List Text) : (list (ts.map text)).IsTold := by
  have trees : Json.ofList true (openedList (ts.map text)) =
      .ok (ts.map fun t => .str t.spelling) := by
    induction ts with
    | nil => rfl
    | cons t ts ih =>
      rw [List.map_cons, openedList, Json.ofList, ih]
      rfl
  exact ⟨_, Result.map_eq_ok.2 ⟨_, trees, rfl⟩⟩

theorem isTold_strings (ss : List Str) : (list (strings ss)).IsTold := by
  have texts : strings ss = (ss.map Text.plain).map text := by
    rw [List.map_map]
    rfl
  rw [texts]
  exact isTold_texts _

end Value

/-- What a failure tells of its cause can be written. -/
def Fault.IsReported : Fault → Prop
  | .refusal r => ∀ detail ∈ r.problem.details, detail.2.IsTold
  | _ => True

/-! ## Requests -/

namespace Result

variable {α β : Type}

/-- Turned down with a failure that can be reported, if at all. -/
def Reports (r : Result α) : Prop :=
  ∀ fault, r = .error fault → fault.IsReported

theorem reports_ok (a : α) : Reports (.ok a) :=
  nofun

theorem reports_error {fault : Fault} (h : fault.IsReported) :
    Reports (.error fault : Result α) := by
  rintro _ ⟨⟩
  exact h

section
variable {r : Result α} {f : α → Result β}

theorem Reports.bind (h : r.Reports) (rest : ∀ a, r = .ok a → (f a).Reports) :
    (r >>= f).Reports := by
  cases r with
  | ok a => exact rest a rfl
  | error fault => exact reports_error (h fault rfl)

theorem Reports.map {g : α → β} (h : r.Reports) : Reports (r.map g) := by
  cases r with
  | ok a => exact reports_ok _
  | error fault => exact reports_error (h fault rfl)

theorem reports_mapM {xs : List α} (each : ∀ x ∈ xs, (f x).Reports) : (xs.mapM f).Reports := by
  induction xs with
  | nil => exact reports_ok _
  | cons x xs ih =>
    obtain ⟨first, others⟩ := List.forall_mem_cons.1 each
    rw [List.mapM_cons]
    exact first.bind fun _ _ => (ih others).bind fun _ _ => reports_ok _

end

/-! ## Steps on a state -/

section
variable {σ : Type} {I : σ → Prop}

/-- From a state with `I` the steps lead to a state with `I` again, or are turned down with a
failure that can be reported. -/
structure ReportsFrom (I : σ → Prop) (m : StateT σ Result α) : Prop where
  reports {s : σ} : I s → (m.run s).Reports
  kept {s s' : σ} {a : α} : I s → m.run s = .ok (a, s') → I s'

theorem reportsFrom_pure (a : α) : ReportsFrom I (pure a) where
  reports _ := reports_ok _
  kept holds h := by
    cases h
    exact holds

theorem ReportsFrom.bind {m : StateT σ Result α} {f : α → StateT σ Result β}
    (h : ReportsFrom I m) (rest : ∀ a, ReportsFrom I (f a)) : ReportsFrom I (m >>= f) where
  reports holds := (h.reports holds).bind fun out made =>
    (rest out.1).reports (h.kept holds made)
  kept holds made := by
    obtain ⟨out, first, made⟩ := bind_eq_ok.1 made
    exact (rest out.1).kept (h.kept holds first) made

/-- What a request answers is known to what comes after it. -/
theorem reportsFrom_bind_lift {r : Result α} {f : α → StateT σ Result β} (h : r.Reports)
    (rest : ∀ a, r = .ok a → ReportsFrom I (f a)) : ReportsFrom I (liftM r >>= f) := by
  cases r with
  | ok a => exact rest a rfl
  | error fault =>
    exact ⟨fun _ => reports_error (h fault rfl), nofun⟩

theorem reportsFrom_lift {r : Result α} (h : r.Reports) :
    ReportsFrom I (liftM r : StateT σ Result α) := by
  have pure := reportsFrom_bind_lift (f := pure) h fun a _ => reportsFrom_pure (I := I) a
  rwa [bind_pure] at pure

theorem reportsFrom_mapM {xs : List α} {f : α → StateT σ Result β}
    (each : ∀ x ∈ xs, ReportsFrom I (f x)) : ReportsFrom I (xs.mapM f) := by
  induction xs with
  | nil => exact reportsFrom_pure _
  | cons x xs ih =>
    obtain ⟨first, others⟩ := List.forall_mem_cons.1 each
    rw [List.mapM_cons]
    exact first.bind fun _ => (ih others).bind fun _ => reportsFrom_pure _

theorem reportsFrom_forM {xs : List α} {f : α → StateT σ Result PUnit}
    (each : ∀ x ∈ xs, ReportsFrom I (f x)) : ReportsFrom I (xs.forM f) := by
  induction xs with
  | nil => exact reportsFrom_pure _
  | cons x xs ih =>
    obtain ⟨first, others⟩ := List.forall_mem_cons.1 each
    exact first.bind fun _ => ih others

end
end Result

/-! ## Effects -/

open Result

namespace Effect

variable {α ε : Type}

/-- What has cut an effect short can be reported. -/
def Reports (e : Effect ε) : Prop :=
  ∀ fault ∈ e.fault, fault.IsReported

theorem reports_ofResult {r : Result (List ε)} (h : r.Reports) : (ofResult r).Reports := by
  cases r with
  | ok _ => simp [Reports, ofResult]
  | error fault => simpa [Reports, ofResult] using h fault rfl

theorem reports_ofSingle {r : Result ε} (h : r.Reports) : (ofSingle r).Reports :=
  reports_ofResult h.map

theorem reports_upToFault {f : α → Result ε} {xs : List α} (each : ∀ x ∈ xs, (f x).Reports) :
    (upToFault f xs).Reports := by
  induction xs with
  | nil => simp [Reports, upToFault]
  | cons x xs ih =>
    obtain ⟨first, others⟩ := List.forall_mem_cons.1 each
    rw [upToFault]
    cases made : f x with
    | error fault => simpa [Reports] using first fault made
    | ok edit => exact ih others

theorem reports_upToFaultOf {f : α → Result ε} {r : Result (List α)} (h : r.Reports)
    (each : ∀ xs, r = .ok xs → ∀ x ∈ xs, (f x).Reports) : (upToFaultOf f r).Reports := by
  cases r with
  | ok xs => exact reports_upToFault (each xs rfl)
  | error fault => simpa [Reports, upToFaultOf] using h fault rfl

end Effect

/-! ## Work that takes names -/

namespace Minting

variable {α β : Type} {m : Minting α}

/-- Turned down with a failure that can be reported, if at all, wherever the counter stands. -/
def Reports (m : Minting α) : Prop :=
  ∀ n, Result.Reports (m.outcome n).1

theorem reports_pure (a : α) : Reports (pure a) :=
  fun _ => reports_ok a

theorem Reports.bind {f : α → Minting β} (h : m.Reports) (rest : ∀ a, (f a).Reports) :
    (m >>= f).Reports := by
  intro n
  have first := h n
  rw [outcome_bind]
  generalize m.outcome n = out at first ⊢
  obtain ⟨answer, k⟩ := out
  cases answer with
  | ok a => exact rest a k
  | error fault => exact reports_error (first fault rfl)

theorem reports_bind_lift {r : Result α} {f : α → Minting β} (h : r.Reports)
    (rest : ∀ a, r = .ok a → (f a).Reports) : (liftM r >>= f : Minting β).Reports := by
  cases r with
  | ok a => exact rest a rfl
  | error fault => exact fun _ => reports_error (h fault rfl)

theorem reports_lift {r : Result α} (h : r.Reports) : Reports (liftM r) :=
  fun _ => h

theorem reports_name (stem : Str) : (name stem).Reports :=
  fun _ => reports_ok _

theorem reports_fill (t : Template) : (fill t).Reports :=
  fun _ => reports_ok _

end Minting

/-! ## Checks of data -/

theorem Fault.isReported_argument {f : ArgumentFault}
    (told : ∀ detail ∈ f.details, detail.2.IsTold) : (argument f).IsReported :=
  told

theorem Fault.isReported_condition {f : ConditionFault}
    (told : ∀ detail ∈ f.details, detail.2.IsTold) : (condition f).IsReported :=
  told

theorem Name.reports_gate (language : List Chr → Bool) (context : Str) {name : Value}
    (data : name.IsData) : (gate language context name).Reports := by
  have refused : (Fault.identifier name context).IsReported :=
    List.forall_mem_cons.2 ⟨data.isTold, List.forall_mem_singleton.2 (Value.isTold_text _)⟩
  unfold gate
  split
  · split
    · exact reports_ok _
    · exact reports_error refused
  · exact reports_error refused

section
variable {v : Value} (data : v.IsData)
include data

/-- The only detail is the value itself. -/
theorem reports_checkCount (what : Str) : (checkCount what v).Reports := by
  have refused : (Fault.argument (.notCount what v)).IsReported :=
    Fault.isReported_argument (List.forall_mem_singleton.2 data.isTold)
  unfold checkCount
  split
  · split
    · exact reports_error refused
    · exact reports_ok _
  · exact reports_error refused

theorem reports_checkDirection : (checkDirection v).Reports := by
  unfold checkDirection
  split
  · exact reports_ok _
  · exact reports_error (Fault.isReported_argument (List.forall_mem_singleton.2 data.isTold))

theorem reports_checkJoinType : (checkJoinType v).Reports := by
  unfold checkJoinType
  split
  · exact reports_ok _
  · exact reports_error (Fault.isReported_argument (List.forall_mem_singleton.2 data.isTold))

theorem reports_checkRelDirection : (checkRelDirection v).Reports := by
  unfold checkRelDirection
  split
  · exact reports_ok _
  · exact reports_error (Fault.isReported_argument (List.forall_mem_singleton.2 data.isTold))

end

/-! ## Taking values apart -/

namespace Value

theorem IsData.entries {v : Value} {entries : List (Value × Value)} {member : Str}
    (data : v.IsData) (h : v.entriesFor member = .ok entries) :
    ∀ e ∈ entries, e.1.IsData ∧ e.2.IsData := by
  cases data with
  | map keys _ each =>
    cases h
    intro e mem
    obtain ⟨s, key⟩ := keys e mem
    exact ⟨key ▸ .str s, each e mem⟩
  | _ => cases h

theorem IsData.asList {v : Value} {xs : List Value} (data : v.IsData) (h : v.asList = .ok xs) :
    ∀ x ∈ xs, x.IsData := by
  unfold Value.asList at h
  split at h
  · cases h
    exact List.forall_mem_singleton.2 data
  · exact data.elements h

theorem IsData.elementsOrNone {v : Value} {xs : List Value} (data : v.IsData)
    (h : v.elementsOrNone = .ok xs) : ∀ x ∈ xs, x.IsData := by
  unfold Value.elementsOrNone at h
  split at h
  · exact data.elements h
  · cases h
    simp

theorem reports_elements (v : Value) : v.elements.Reports := by
  unfold elements
  split <;> first | exact reports_ok _ | exact reports_error trivial

theorem reports_elementsOrNone (v : Value) : v.elementsOrNone.Reports := by
  unfold elementsOrNone
  split
  · exact v.reports_elements
  · exact reports_ok _

theorem reports_entriesFor (member : Str) (v : Value) : (v.entriesFor member).Reports := by
  unfold entriesFor
  split
  · exact reports_ok _
  · exact reports_error trivial

theorem reports_asList (v : Value) : v.asList.Reports := by
  unfold asList
  split
  · exact reports_ok _
  · exact reports_elements _

theorem reports_checkKey (v : Value) : (checkKey v).Reports := by
  unfold checkKey
  split
  · exact reports_error trivial
  · exact reports_ok _

theorem reports_pairs (index : Nat) (xs : List Value) (made : List (Value × Value)) :
    (pairs index xs made).Reports := by
  induction xs generalizing index made with
  | nil => exact reports_ok _
  | cons x xs ih =>
    refine x.reports_elements.bind fun pair _ => ?_
    split
    · exact (reports_checkKey _).bind fun _ _ => ih _ _
    · exact reports_error trivial

theorem reports_toMapping (v : Value) : v.toMapping.Reports := by
  unfold toMapping
  split
  · exact reports_ok _
  · exact (reports_elements _).bind fun xs _ => (reports_pairs 0 xs []).bind fun _ _ => reports_ok _

end Value

theorem reports_spellings (index : Nat) (vs : List Value) : (spellings index vs).Reports := by
  fun_induction spellings index vs with
  | case1 => exact reports_ok _
  | case2 _ _ _ ih => exact ih.map
  | case3 => exact reports_error trivial

end BoundQuery
