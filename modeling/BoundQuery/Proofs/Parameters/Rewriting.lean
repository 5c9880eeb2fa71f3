import BoundQuery.Parameters.Store
import BoundQuery.Proofs.Condition.Clean
import BoundQuery.Proofs.Config.Marker
import BoundQuery.Proofs.Marker.Decomposition
import Mathlib.Data.List.TakeWhile

/-!
# Placeholders read from a rewritten fragment

A marker is replaced by a placeholder and the piece after it follows at once. Whoever reads the text
takes the longest run of word characters for the name, so that the word characters with which a
piece begins go to the name before it. The placeholders that are read are those that were minted
just when no piece after a marker begins with a word character.

## Main definitions

* `Placeholder.glued` — the names that are read.

## Main statements

* `Template.names_weave` — these names are read from the text of a fragment.
* `Store.names_of_bindMarkers` — when they are the names that were minted.
-/

namespace BoundQuery

namespace Placeholder

/-- The names from number `n` on, each with the word characters that the piece after it begins
with. -/
def glued (d : Dialect) (stem : Str) : Nat → List (List Chr) → List Str
  | _, [] => []
  | n, piece :: pieces =>
    (Mark.word stem n ++ Str.ofList (piece.takeWhile d.isWordChar)) ::
      glued d stem (n + 1) pieces

variable {d : Dialect} {stem : Str}

theorem takeWhile_isWordChar_eq_nil {piece : List Chr} :
    piece.takeWhile d.isWordChar = [] ↔ ∀ c ∈ piece.head?, d.isWordChar c = false := by
  cases piece with
  | nil => simp
  | cons c piece => cases word : d.isWordChar c <;> simp [word]

/-- Nothing is glued to a name just when no piece begins with a word character. -/
theorem glued_eq_words_iff (n : Nat) (pieces : List (List Chr)) :
    glued d stem n pieces = (List.range' n pieces.length).map (Mark.word stem) ↔
      ∀ piece ∈ pieces, ∀ c ∈ piece.head?, d.isWordChar c = false := by
  induction pieces generalizing n with
  | nil => simp [glued]
  | cons piece pieces ih =>
    have first : Mark.word stem n ++ Str.ofList (piece.takeWhile d.isWordChar) =
        Mark.word stem n ↔ ∀ c ∈ piece.head?, d.isWordChar c = false := by
      rw [← takeWhile_isWordChar_eq_nil, ← Str.toList_inj]
      simp
    rw [glued, List.length_cons, List.range'_succ, List.map_cons, List.cons_eq_cons, first, ih,
      List.forall_mem_cons]

theorem filterMap_name?_chars (cs : List Chr) :
    (cs.map Part.char).filterMap Part.name? = [] := by
  simp [Part.name?, Function.comp_def]

/-- A name that is minted and the piece after it, in front of a text that no name runs on into. -/
theorem scan_glued {word piece rest : List Chr} (nonempty : word ≠ [])
    (all : ∀ c ∈ word, d.isWordChar c = true) (dollar : .scalar '$' ∉ piece)
    (stop : ∀ c ∈ rest.head?, d.isWordChar c = false) :
    scan d (.scalar '$' :: (word ++ (piece ++ rest))) =
      .name (word ++ piece.takeWhile d.isWordChar) ::
        ((piece.dropWhile d.isWordChar).map .char ++ scan d rest) := by
  have regrouped : word ++ (piece ++ rest) =
      (word ++ piece.takeWhile d.isWordChar) ++ (piece.dropWhile d.isWordChar ++ rest) := by
    rw [List.append_assoc, ← List.append_assoc (piece.takeWhile _), List.takeWhile_append_dropWhile]
  have longer : ∀ c ∈ word ++ piece.takeWhile d.isWordChar, d.isWordChar c = true :=
    List.forall_mem_append.2 ⟨all, fun c mem => List.mem_takeWhile_imp mem⟩
  have after : ∀ c ∈ (piece.dropWhile d.isWordChar ++ rest).head?, d.isWordChar c = false := by
    intro c mem
    rw [List.head?_append, Option.mem_def] at mem
    rcases Option.or_eq_some_iff.1 mem with inPiece | ⟨_, inRest⟩
    · have found := List.head?_dropWhile_not d.isWordChar piece
      rw [inPiece] at found
      simpa using found
    · exact stop c inRest
  have plain : .scalar '$' ∉ piece.dropWhile d.isWordChar :=
    fun mem => dollar ((List.dropWhile_sublist _).subset mem)
  rw [regrouped, scan_dollar_append (by simp [nonempty]) longer after,
    scan_append_of_notMem d plain]

end Placeholder

namespace Template

variable {d : Dialect} {stem : Str}

/-- The text of a fragment is its first piece and then a text that begins with a dollar sign, if
there is more; the induction is on the values, one for each of the pieces that follow. -/
theorem exists_written_weave (word : ∀ c ∈ stem.toList, d.isWordChar c = true) (n : Nat)
    (first : List Chr) {pieces : List (List Chr)} {vs : List Value}
    (count : pieces.length = vs.length) (dollar : ∀ piece ∈ pieces, .scalar '$' ∉ piece) :
    ∃ rest, ((weave (first :: pieces) vs).inscribe stem n).written.toList = first ++ rest ∧
      (∀ c ∈ rest.head?, d.isWordChar c = false) ∧
      (Placeholder.scan d rest).filterMap Placeholder.Part.name? =
        Placeholder.glued d stem (n + 1) pieces := by
  induction vs generalizing n first pieces with
  | nil =>
    obtain rfl : pieces = [] := List.length_eq_zero_iff.1 count
    exact ⟨[], by simp [weave, inscribe], by simp, by simp [Placeholder.glued]⟩
  | cons v vs ih =>
    obtain ⟨piece, pieces, rfl⟩ := List.exists_cons_of_length_eq_add_one count
    obtain ⟨plain, others⟩ := List.forall_mem_cons.1 dollar
    obtain ⟨rest, written, stop, names⟩ := ih (n + 1) piece (by simpa using count) others
    refine ⟨.scalar '$' :: ((Mark.word stem (n + 1)).toList ++ (piece ++ rest)), ?_, by simp, ?_⟩
    · rw [weave, inscribe, inscribe, Inscription.written_text, Inscription.written_name]
      simp [written]
    · have read := Placeholder.scan_glued (Inscription.toList_word_ne_nil stem (n + 1))
        (Inscription.isWordChar_of_mem_word word) plain stop
      rw [read, List.filterMap_cons, List.filterMap_append, Placeholder.filterMap_name?_chars,
        names]
      simp [Placeholder.glued, Placeholder.Part.name?, Str.ofList_append]

/-- The names that are read from a fragment whose markers have been replaced. -/
theorem names_weave (word : ∀ c ∈ stem.toList, d.isWordChar c = true) (n : Nat)
    {pieces : List (List Chr)} {vs : List Value} (count : pieces.length = vs.length + 1)
    (dollar : ∀ piece ∈ pieces, .scalar '$' ∉ piece) :
    Placeholder.names d ((weave pieces vs).inscribe stem n).written =
      Placeholder.glued d stem (n + 1) pieces.tail := by
  obtain ⟨first, pieces, rfl⟩ := List.exists_cons_of_length_eq_add_one count
  obtain ⟨plain, others⟩ := List.forall_mem_cons.1 dollar
  obtain ⟨rest, written, _, names⟩ :=
    exists_written_weave word n first (by simpa using count) others
  rw [Placeholder.names, written, Placeholder.scan_append_of_notMem d plain, List.filterMap_append,
    Placeholder.filterMap_name?_chars, names]
  rfl

/-- They are the names that have been minted just when no piece after a marker begins with a word
character. -/
theorem names_weave_eq_iff (d : Dialect) (stem : Str)
    (word : ∀ c ∈ stem.toList, d.isWordChar c = true) (n : Nat) {pieces : List (List Chr)}
    {vs : List Value} (count : pieces.length = vs.length + 1)
    (dollar : ∀ piece ∈ pieces, .scalar '$' ∉ piece) :
    Placeholder.names d ((weave pieces vs).inscribe stem n).written =
        (List.range' (n + 1) vs.length).map (Mark.word stem) ↔
      ∀ piece ∈ pieces.tail, ∀ c ∈ piece.head?, d.isWordChar c = false := by
  have length : vs.length = pieces.tail.length := by simp [count]
  rw [names_weave word n count dollar, length, Placeholder.glued_eq_words_iff]

end Template

/-! ## Fragments -/

namespace Marker

/-- The call that replaces the markers of a fragment. -/
def replacing (config : Config) (fragment : Text) (values : List Value) : Store.Call :=
  .bindMarkers (.text fragment) (.list values) (.text config.rawMarker)

variable {marker fragment : Text} {pieces : List (List Chr)} {values : List Value}

/-- A text is a fragment for every marker that is not empty. -/
theorem template_text (nonempty : marker.chars ≠ []) :
    Fragment.template (.text fragment) (.list values) (.text marker) =
      template marker.chars fragment values := by
  have given : (Value.text marker).isTruthy = true := by
    simpa [Value.isTruthy, Text.isEmpty, Text.chars] using nonempty
  rw [Fragment.template, if_neg (by simp [given])]
  rfl

theorem template_of_split (nonempty : marker.chars ≠ [])
    (cut : split marker.chars fragment.chars = .ok pieces)
    (count : pieces.length = values.length + 1) :
    Fragment.template (.text fragment) (.list values) (.text marker) =
      .ok (Template.weave pieces values) := by
  rw [template_text nonempty, template, cut]
  exact if_pos (by simpa using count)

end Marker

namespace Store

/-- The names that are minted for a fragment are the ones that are read from it, in a store of
either kind, just when no piece after a marker begins with a word character. -/
theorem names_of_bindMarkers {settings : Settings} {config : Config}
    (accepted : Config.ofSettings settings = .ok config) {fragment : Text}
    (dollar : .scalar '$' ∉ fragment.chars) :
    ∃ pieces, Marker.split config.marker fragment.chars = .ok pieces ∧
      ∀ values : List Value, pieces.length = values.length + 1 →
        (∀ p : Positional, ∃ text,
          runPositional p (Marker.replacing config fragment values) =
            .ok (.str text, ⟨p.values ++ values⟩) ∧
          (Placeholder.names .relational text =
              (List.range' (p.values.length + 1) values.length).map Str.ofNat ↔
            ∀ piece ∈ pieces.tail, ∀ c ∈ piece.head?, c.isDigit = false)) ∧
        ∀ (f : Family) (i : Nat), ∃ text f',
          runNamed f i (Marker.replacing config fragment values) = .ok (.str text, f') ∧
          f'.counter = f.counter + values.length ∧
          (Placeholder.names .graph text =
              (List.range' (f.counter + 1) values.length).map (fun n => "param" ++ Str.ofNat n) ↔
            ∀ piece ∈ pieces.tail, ∀ c ∈ piece.head?, Name.isNameChar c = false) := by
  have nonempty := Config.marker_ne_nil accepted
  obtain ⟨pieces, cut, _⟩ := Marker.exists_split nonempty fragment.chars
  refine ⟨pieces, cut, fun values count => ?_⟩
  have made := Marker.template_of_split nonempty cut count
  have bound := Template.values_weave count
  have plain : ∀ piece ∈ pieces, .scalar '$' ∉ piece :=
    fun piece inPieces inPiece => dollar (Marker.mem_of_mem_split cut inPieces inPiece)
  constructor
  · intro p
    have bare : Mark.word "" = Str.ofNat := by
      funext n
      simp [Mark.word]
    have names := Template.names_weave_eq_iff .relational "" (by simp) p.values.length count plain
    rw [bare] at names
    refine ⟨_, ?_, names⟩
    rw [Marker.replacing, runPositional, made]
    change Except.ok (Value.str (p.fill _).1, (p.fill _).2) = _
    rw [Positional.fill_eq, bound]
  · intro f i
    have word : ∀ c ∈ Named.defaultStem.toList, Dialect.graph.isWordChar c = true :=
      Placeholder.isWordChar_of_all (by decide)
    have names := Template.names_weave_eq_iff .graph Named.defaultStem word f.counter count plain
    refine ⟨_, f.update i ((f.store i).fill (Template.weave pieces values)).2, ?_, ?_, names⟩
    · rw [Marker.replacing, runNamed, made]
      change Except.ok (Value.str ((f.store i).fill _).1, f.update i ((f.store i).fill _).2) = _
      rw [Named.fill_eq]
      rfl
    · rw [Named.fill_eq, bound]
      rfl

theorem names_of_bindMarkers_ages :
    Config.ofSettings {} = .ok Config.standard ∧
    .scalar '$' ∉ (Text.plain "note <> '?' AND age BETWEEN ? AND ?").chars ∧
    (∃ text, runPositional ⟨[.int 7]⟩ (Marker.replacing Config.standard
        (.plain "note <> '?' AND age BETWEEN ? AND ?") [.int 18, .int 65]) =
          .ok (.str text, ⟨[.int 7, .int 18, .int 65]⟩) ∧
      Placeholder.names .relational text = (["2", "3"] : List Str)) ∧
    ∃ text f', runNamed ⟨4, [[]]⟩ 0 (Marker.replacing Config.standard
        (.plain "note <> '?' AND age BETWEEN ? AND ?") [.int 18, .int 65]) = .ok (.str text, f') ∧
      Placeholder.names .graph text = (["param5", "param6"] : List Str) := by
  have accepted : Config.ofSettings {} = .ok Config.standard := by rfl
  have dollar : .scalar '$' ∉ (Text.plain "note <> '?' AND age BETWEEN ? AND ?").chars := by
    simp [Text.chars, Text.spelling]
  obtain ⟨pieces, cut, filled⟩ := names_of_bindMarkers accepted dollar
  obtain rfl : [Str.toList "note <> '?' AND age BETWEEN ", Str.toList " AND ", []] = pieces :=
    Except.ok.inj cut
  obtain ⟨relational, graph⟩ := filled [.int 18, .int 65] (by simp)
  refine ⟨accepted, dollar, ?_, ?_⟩
  · obtain ⟨text, ran, names⟩ := relational ⟨[.int 7]⟩
    exact ⟨text, ran, names.2 (by simp)⟩
  · obtain ⟨text, f', ran, _, names⟩ := graph ⟨4, [[]]⟩ 0
    exact ⟨text, f', ran, names.2 (by simp; decide)⟩

/-- A digit after a marker is read as part of its number, and a letter as part of its name. -/
theorem bindMarkers_glued :
    runPositional {} (Marker.replacing Config.standard (.plain "age > ?5") [.int 18]) =
      .ok (.str "age > $15", ⟨[.int 18]⟩) ∧
    Placeholder.names .relational "age > $15" = (["15"] : List Str) ∧
    runNamed {} 0 (Marker.replacing Config.standard (.plain "n.age > ?OR n.old") [.int 18]) =
      .ok (.str "n.age > $param1OR n.old", ⟨1, [[("param1", .int 18)]]⟩) ∧
    Placeholder.names .graph "n.age > $param1OR n.old" = (["param1OR"] : List Str) := by
  refine ⟨by rfl, by decide +kernel, by rfl, by decide +kernel⟩

end Store

end BoundQuery
