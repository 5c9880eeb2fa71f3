import BoundQuery.Proofs.Condition.Miscount
import BoundQuery.Proofs.Marker.Decomposition
import BoundQuery.Proofs.Parameters.Rewriting
import BoundQuery.Proofs.Placeholder.Bindings
import BoundQuery.Proofs.Placeholder.Word

/-!
# Fragments bound to their values

A store takes the values of a fragment all at once or not at all. When there are as many values as
markers, the text is that of the fragment with a new placeholder in the place of each marker, and
the values follow those that the store had; otherwise the store stays as it was. What stands between
the markers is not looked at, so a marker in a quoted literal stays in the text.

## Main definitions

* `Marker.interleave` — pieces of text with placeholders between them.
* `Named.IsAhead` — a store in which no name is taken that its counter will come to.

## Main statements

* `Positional.fill_weave`, `Named.fill_weave` — a fragment with a value for each marker.
* `Store.run_bindMarkers` — what a store of either kind makes of a fragment and values.
-/

namespace BoundQuery

namespace Marker

/-- The first piece, and then each placeholder with the piece after it. -/
def interleave : List (List Chr) → List Str → Str
  | [], _ => ""
  | first :: rest, placeholders =>
    Str.ofList first ++ Str.join
      (List.zipWith (fun placeholder piece => placeholder ++ Str.ofList piece) placeholders rest)

end Marker

/-- The names that a counter gives to `count` values, from the next one on. -/
def Named.upcoming (counter count : Nat) : List Str :=
  (List.range' (counter + 1) count).map (Mark.word Named.defaultStem)

/-- No name is taken that the counter will come to. -/
def Named.IsAhead (counter : Nat) (values : Bindings) : Prop :=
  ∀ n > counter, Mark.word Named.defaultStem n ∉ values.keys

namespace Template

variable {pieces : List (List Chr)} {values : List Value}

/-- The induction is on the values, one for each piece but the first. -/
theorem written_weave (stem : Str) (n : Nat) (count : pieces.length = values.length + 1) :
    ((weave pieces values).inscribe stem n).written = Marker.interleave pieces
      ((List.range' (n + 1) values.length).map fun m => Str.of "$" ++ Mark.word stem m) := by
  induction values generalizing n pieces with
  | nil =>
    obtain ⟨first, rfl⟩ := List.length_eq_one_iff.1 count
    simp [weave, inscribe, Marker.interleave]
  | cons v values ih =>
    obtain ⟨first, rest, rfl⟩ := List.exists_cons_of_length_eq_add_one count
    obtain ⟨second, rest, rfl⟩ := List.exists_cons_of_length_eq_add_one
      (Nat.succ.inj count : rest.length = values.length + 1)
    have others : ((weave (second :: rest) values).inscribe stem (n + 1)).written = _ :=
      ih (n + 1) (Nat.succ.inj count)
    rw [weave, inscribe, inscribe, Inscription.written_text, Inscription.written_name, others]
    simp [Marker.interleave, List.range'_succ, Str.append_assoc]

theorem bindings_inscribe_eq_zip (stem : Str) (n : Nat) (t : Template) :
    (t.inscribe stem n).bindings =
      ((List.range' (n + 1) t.values.length).map (Mark.word stem)).zip t.values :=
  List.zip_of_prod (names_inscribe stem n t) (values_inscribe stem n t)

end Template

section
variable {pieces : List (List Chr)} {values : List Value}

theorem Positional.fill_weave (p : Positional) (count : pieces.length = values.length + 1) :
    p.fill (Template.weave pieces values) =
      (Marker.interleave pieces
        ((List.range' (p.values.length + 1) values.length).map Positional.placeholder),
        ⟨p.values ++ values⟩) := by
  have placeholders : (fun m => Str.of "$" ++ Mark.word "" m) = Positional.placeholder := by
    funext m
    simp [Mark.word, placeholder]
  rw [fill_eq, Template.written_weave _ _ count, Template.values_weave count, placeholders]

theorem Named.nodup_upcoming (counter count : Nat) : (upcoming counter count).Nodup := by
  refine List.Nodup.map (fun m n same => ?_) List.nodup_range'
  exact (Mark.word_inj (by decide) (by decide) same).2

theorem Named.fill_weave {p : Named} (ahead : IsAhead p.counter p.values)
    (count : pieces.length = values.length + 1) :
    p.fill (Template.weave pieces values) =
      (Marker.interleave pieces ((upcoming p.counter values.length).map ("$" ++ ·)),
        { counter := p.counter + values.length
          values := p.values ++ (upcoming p.counter values.length).zip values }) := by
  have bound := Template.values_weave count
  have length : (upcoming p.counter values.length).length = values.length := by simp [upcoming]
  have keys : Bindings.keys ((upcoming p.counter values.length).zip values) =
      upcoming p.counter values.length := List.map_fst_zip length.le
  have merged : p.values.merge ((upcoming p.counter values.length).zip values) =
      p.values ++ (upcoming p.counter values.length).zip values := by
    refine Bindings.merge_of_disjoint ?_ ?_
    · rw [keys]
      exact nodup_upcoming _ _
    · rw [keys]
      intro name mem
      obtain ⟨n, within, rfl⟩ := List.mem_map.1 mem
      exact ahead n (List.mem_range'_1.1 within).1
  have placeholders : (upcoming p.counter values.length).map (Str.of "$" ++ ·) =
      (List.range' (p.counter + 1) values.length).map fun m =>
        Str.of "$" ++ Mark.word defaultStem m := by
    rw [upcoming, List.map_map]
    rfl
  rw [fill_eq, Template.written_weave _ _ count, Template.bindings_inscribe_eq_zip, bound,
    placeholders]
  exact congrArg _ (congrArg _ merged)

end

namespace Store

/-- Nothing of a call that is turned down is kept. -/
theorem run_of_miscount {marker fragment : Text} {values : List Value} (given : marker.chars ≠ [])
    (other : Marker.count marker.chars fragment.chars ≠ values.length) (s : Store) (i : Nat) :
    s.run i (.bindMarkers (.text fragment) (.list values) (.text marker)) =
      (.error (Marker.miscount marker.chars fragment values), s) := by
  have refused := Marker.template_eq_error_of_count given other
  rw [← Marker.template_text given] at refused
  cases s with
  | kindless =>
    rw [run, runKindless, refused]
    rfl
  | positional p =>
    rw [run, runPositional, refused]
    rfl
  | named f =>
    rw [run, runNamed, refused]
    rfl

/-- A fragment has as many values as markers, and then a store of either kind has its text and takes
all values after its own, or it is turned down by every store, which stays as it was. -/
theorem run_bindMarkers {marker : Text} (given : marker.chars ≠ []) (fragment : Text)
    (values : List Value) :
    ∃ pieces, Marker.split marker.chars fragment.chars = .ok pieces ∧
      Marker.IsDecomposition marker.chars fragment.chars pieces ∧
      (pieces.length - 1 ≠ values.length → ∀ (s : Store) (i : Nat),
        s.run i (.bindMarkers (.text fragment) (.list values) (.text marker)) =
          (.error (.refusal (.markerCount (.text fragment) (pieces.length - 1 : Nat)
            values.length)), s)) ∧
      (pieces.length - 1 = values.length →
        (∀ (p : Positional) (i : Nat),
          (positional p).run i (.bindMarkers (.text fragment) (.list values) (.text marker)) =
            (.ok (.str (Marker.interleave pieces
                ((List.range' (p.values.length + 1) values.length).map Positional.placeholder))),
              positional ⟨p.values ++ values⟩)) ∧
        ∀ (f : Family) (i : Nat) (old : Bindings), f.stores[i]? = some old →
          Named.IsAhead f.counter old →
          (named f).run i (.bindMarkers (.text fragment) (.list values) (.text marker)) =
            (.ok (.str (Marker.interleave pieces
                ((Named.upcoming f.counter values.length).map ("$" ++ ·)))),
              named ⟨f.counter + values.length, f.stores.set i
                (old ++ (Named.upcoming f.counter values.length).zip values)⟩)) := by
  obtain ⟨pieces, cut, decomposed⟩ := Marker.exists_split given fragment.chars
  refine ⟨pieces, cut, decomposed, fun other s i => ?_, fun same => ?_⟩
  · obtain rfl : Marker.splitFrom marker.chars 0 false fragment.chars = pieces :=
      Except.ok.inj ((Marker.split_of_ne_nil given _).symm.trans cut)
    exact run_of_miscount given other s i
  · have nonempty := List.length_pos_iff.2 decomposed.nonempty
    have count : pieces.length = values.length + 1 := by omega
    have made := Marker.template_of_split given cut count
    refine ⟨fun p i => ?_, fun f i old there ahead => ?_⟩
    · rw [run, runPositional, made]
      change (Except.ok (Value.str (p.fill _).1), positional (p.fill _).2) = _
      rw [p.fill_weave count]
    · have store : f.store i = ⟨f.counter, old⟩ := by rw [Family.store, there, Option.getD_some]
      rw [run, runNamed, made]
      change (Except.ok (Value.str ((f.store i).fill _).1),
        named (f.update i ((f.store i).fill _).2)) = _
      rw [store, Named.fill_weave ahead count]
      rfl

theorem run_bindMarkers_ages :
    (Text.plain "?").chars ≠ [] ∧ Named.IsAhead 4 [("param4", .int 7)] ∧
    (∀ s : Store, s.run 0 (.bindMarkers (.text (.plain "note <> '?' AND age BETWEEN ? AND ?"))
        (.list [.int 18]) (.text (.plain "?"))) =
      (.error (.refusal (.markerCount (.text (.plain "note <> '?' AND age BETWEEN ? AND ?")) 2 1)),
        s)) ∧
    (positional ⟨[.int 7]⟩).run 0 (.bindMarkers
        (.text (.plain "note <> '?' AND age BETWEEN ? AND ?")) (.list [.int 18, .str "?"])
        (.text (.plain "?"))) =
      (.ok (.str "note <> '?' AND age BETWEEN $2 AND $3"),
        positional ⟨[.int 7, .int 18, .str "?"]⟩) ∧
    (named ⟨4, [[("param4", .int 7)]]⟩).run 0 (.bindMarkers
        (.text (.plain "note <> '?' AND age BETWEEN ? AND ?")) (.list [.int 18, .str "?"])
        (.text (.plain "?"))) =
      (.ok (.str "note <> '?' AND age BETWEEN $param5 AND $param6"),
        named ⟨6, [[("param4", .int 7), ("param5", .int 18), ("param6", .str "?")]]⟩) := by
  have given : (Text.plain "?").chars ≠ [] := by simp [Text.chars, Text.spelling]
  have ahead : Named.IsAhead 4 [("param4", .int 7)] := by
    intro n later taken
    have same : Mark.word Named.defaultStem n = Mark.word Named.defaultStem 4 :=
      List.mem_singleton.1 taken
    have := (Mark.word_inj (by decide) (by decide) same).2
    omega
  obtain ⟨pieces, cut, _, short, _⟩ := run_bindMarkers given
    (.plain "note <> '?' AND age BETWEEN ? AND ?") [.int 18]
  obtain ⟨pieces', cut', _, _, enough⟩ := run_bindMarkers given
    (.plain "note <> '?' AND age BETWEEN ? AND ?") [.int 18, .str "?"]
  obtain rfl : [Str.toList "note <> '?' AND age BETWEEN ", Str.toList " AND ", []] = pieces :=
    Except.ok.inj cut
  obtain rfl : [Str.toList "note <> '?' AND age BETWEEN ", Str.toList " AND ", []] = pieces' :=
    Except.ok.inj cut'
  obtain ⟨relational, graph⟩ := enough (by rfl)
  exact ⟨given, ahead, fun s => short (by simp) s 0, relational _ 0,
    graph ⟨4, [[("param4", .int 7)]]⟩ 0 _ rfl ahead⟩

end Store
end BoundQuery
