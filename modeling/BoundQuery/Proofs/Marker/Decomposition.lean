import BoundQuery.Marker
import Mathlib.Algebra.Group.Nat.Even
import Mathlib.Data.List.Basic

/-!
# The decomposition of a fragment

A marker counts at a place of a fragment when it stands there, the place holds no quote, and the
quotes since the last cut come in pairs. A fragment is cut at every marker that counts and nowhere
else. This rule alone says what the pieces are: doubled quotes, literals that are never closed, and
markers that overlap each other or a quote need no rules of their own.

## Main definitions

* `Marker.CountsAt` — a marker that counts stands at a place.
* `Marker.IsDecomposition` — the pieces of a fragment that is cut by the rule.

## Main statements

* `Marker.isDecomposition_splitFrom` — the scanner finds such pieces.
* `Marker.IsDecomposition.unique` — there are no others.
-/

namespace BoundQuery.Marker

/-- A marker that counts stands at `place`, where the last cut, or the start of the fragment, is at
`start`. -/
structure CountsAt (marker fragment : List Chr) (start place : Nat) : Prop where
  occurs : marker <+: fragment.drop place
  unquoted : fragment[place]? ≠ some (.scalar '\'')
  even : Even (((fragment.take place).drop start).count (.scalar '\''))

/-- The place in the fragment where a piece starts. -/
def startOf (marker : List Chr) (pieces : List (List Chr)) (index : Nat) : Nat :=
  ((pieces.take index).flatMap fun piece => piece ++ marker).length

/-- The pieces make up the fragment with the marker between each two, a marker that counts stands
after each piece but the last, and none stands inside a piece, whatever it overlaps. -/
structure IsDecomposition (marker fragment : List Chr) (pieces : List (List Chr)) : Prop where
  nonempty : pieces ≠ []
  joined : marker.intercalate pieces = fragment
  cut : ∀ i (_ : i + 1 < pieces.length), CountsAt marker fragment (startOf marker pieces i)
    (startOf marker pieces i + pieces[i].length)
  uncut : ∀ i (_ : i < pieces.length), ∀ j < pieces[i].length,
    ¬ CountsAt marker fragment (startOf marker pieces i) (startOf marker pieces i + j)

variable {marker fragment rest piece : List Chr} {pieces : List (List Chr)}

/-! ## One cut at a time -/

/-- What has been read before the last cut does not matter. -/
theorem countsAt_append (before rest : List Chr) (start place : Nat) :
    CountsAt marker (before ++ rest) (before.length + start) (before.length + place) ↔
      CountsAt marker rest start place := by
  have after : (before ++ rest).drop (before.length + place) = rest.drop place := by
    rw [← List.drop_drop, List.drop_left]
  have between : ((before ++ rest).take (before.length + place)).drop (before.length + start) =
      (rest.take place).drop start := by
    rw [List.take_length_add_append, ← List.drop_drop, List.drop_left]
  have here : (before ++ rest)[before.length + place]? = rest[place]? := by
    rw [List.getElem?_append_right (by omega), Nat.add_sub_cancel_left]
  constructor
  · rintro ⟨occurs, unquoted, even⟩
    exact ⟨after ▸ occurs, here ▸ unquoted, between ▸ even⟩
  · rintro ⟨occurs, unquoted, even⟩
    exact ⟨after ▸ occurs, here ▸ unquoted, between ▸ even⟩

@[simp] theorem startOf_zero (marker : List Chr) (pieces : List (List Chr)) :
    startOf marker pieces 0 = 0 := rfl

theorem startOf_cons_succ (marker piece : List Chr) (pieces : List (List Chr)) (i : Nat) :
    startOf marker (piece :: pieces) (i + 1) =
      (piece ++ marker).length + startOf marker pieces i := by
  rw [startOf, List.take_succ_cons, List.flatMap_cons, List.length_append]
  rfl

theorem isDecomposition_singleton :
    IsDecomposition marker fragment [piece] ↔
      piece = fragment ∧ ∀ j < piece.length, ¬ CountsAt marker fragment 0 j := by
  constructor
  · intro h
    exact ⟨by simpa using h.joined, fun j inside => by simpa using h.uncut 0 (by simp) j inside⟩
  · rintro ⟨rfl, uncut⟩
    refine ⟨by simp, by simp, fun i last => absurd last (by simp), fun i first j inside => ?_⟩
    obtain rfl : i = 0 := by simpa using first
    simpa using uncut j inside

/-- The first piece ends at the first marker that counts, and the others are those of the rest. -/
theorem isDecomposition_cons (nonempty : pieces ≠ []) :
    IsDecomposition marker (piece ++ marker ++ rest) (piece :: pieces) ↔
      CountsAt marker (piece ++ marker ++ rest) 0 piece.length ∧
      (∀ j < piece.length, ¬ CountsAt marker (piece ++ marker ++ rest) 0 j) ∧
      IsDecomposition marker rest pieces := by
  have joined : marker.intercalate (piece :: pieces) =
      piece ++ marker ++ marker.intercalate pieces := by
    rw [List.intercalate_cons_of_ne_nil nonempty, List.append_assoc]
  have later (i place : Nat) :
      CountsAt marker (piece ++ marker ++ rest) (startOf marker (piece :: pieces) (i + 1))
          (startOf marker (piece :: pieces) (i + 1) + place) ↔
        CountsAt marker rest (startOf marker pieces i) (startOf marker pieces i + place) := by
    rw [startOf_cons_succ, Nat.add_assoc]
    exact countsAt_append (piece ++ marker) rest _ _
  constructor
  · intro h
    refine ⟨?_, fun j inside => ?_, nonempty, ?_, fun i bound => ?_, fun i bound j inside => ?_⟩
    · simpa using h.cut 0 (by simpa [List.length_pos_iff] using nonempty)
    · simpa using h.uncut 0 (by simp) j inside
    · exact List.append_cancel_left (joined.symm.trans h.joined)
    · exact (later i _).1 (h.cut (i + 1) (by simpa using bound))
    · exact fun counts => h.uncut (i + 1) (by simpa using bound) j inside ((later i j).2 counts)
  · rintro ⟨counts, uncut, h⟩
    refine ⟨by simp, by rw [joined, h.joined], fun i bound => ?_, fun i bound j inside => ?_⟩
    · cases i with
      | zero => simpa using counts
      | succ i => exact (later i _).2 (h.cut i (by simpa using bound))
    · cases i with
      | zero => simpa using uncut j inside
      | succ i =>
        intro counts
        exact h.uncut i (by simpa using bound) j inside ((later i j).1 counts)

/-! ## The scanner -/

/-- A place right after what has been read, where `quoted` says whether a quote is open. -/
theorem countsAt_length_iff {before cs : List Chr} {c : Chr} {quoted : Bool}
    (parity : quoted = false ↔ Even (before.count (.scalar '\''))) :
    CountsAt marker (before ++ c :: cs) 0 before.length ↔
      marker <+: c :: cs ∧ c ≠ '\'' ∧ quoted = false := by
  constructor
  · rintro ⟨occurs, unquoted, even⟩
    exact ⟨by simpa using occurs, by simpa using unquoted, parity.2 (by simpa using even)⟩
  · rintro ⟨occurs, unquoted, closed⟩
    exact ⟨by simpa using occurs, by simpa using unquoted, by simpa using parity.1 closed⟩

theorem modifyHead_nil_append (pieces : List (List Chr)) :
    pieces.modifyHead ([] ++ ·) = pieces := by
  cases pieces <;> rfl

/-- A character at which no marker counts goes to what has been read. -/
theorem uncut_concat {before cs : List Chr} {c : Chr}
    (uncut : ∀ j < before.length, ¬ CountsAt marker (before ++ c :: cs) 0 j)
    (here : ¬ CountsAt marker (before ++ c :: cs) 0 before.length) :
    ∀ j < (before ++ [c]).length, ¬ CountsAt marker (before ++ [c] ++ cs) 0 j := by
  intro j inside
  rw [List.append_assoc, List.singleton_append]
  rcases Nat.lt_succ_iff_lt_or_eq.1 (by simpa using inside) with earlier | rfl
  · exact uncut j earlier
  · exact here

/-- The pieces that are found from a place on, the first of which goes on with what has been read
since the last cut. The induction is on the scan; its invariant is that no marker counts in what has
been read and that `quoted` tells whether a quote is open there. -/
theorem isDecomposition_splitFrom (nonempty : marker ≠ []) (skip : Nat) (quoted : Bool)
    (cs before : List Chr) (parity : quoted = false ↔ Even (before.count (.scalar '\'')))
    (uncut : ∀ j < before.length, ¬ CountsAt marker (before ++ cs.drop skip) 0 j) :
    IsDecomposition marker (before ++ cs.drop skip)
      ((splitFrom marker skip quoted cs).modifyHead (before ++ ·)) := by
  fun_induction splitFrom marker skip quoted cs generalizing before with
  | case1 skip quoted =>
    rw [List.drop_nil] at uncut ⊢
    exact isDecomposition_singleton.2 ⟨rfl, by simpa using uncut⟩
  | case2 skip quoted c cs ih => exact ih before parity uncut
  | case3 quoted c cs quote ih =>
    obtain rfl : c = '\'' := by simpa using quote
    have here : ¬ CountsAt marker (before ++ .scalar '\'' :: cs) 0 before.length :=
      fun counts => ((countsAt_length_iff parity).1 counts).2.1 rfl
    have toggled : (!quoted) = false ↔ Even ((before ++ [('\'' : Chr)]).count (.scalar '\'')) := by
      rw [List.count_append, List.count_singleton_self, Nat.even_add_one, ← parity]
      simp
    have found := ih (before ++ [('\'' : Chr)]) toggled (by simpa using uncut_concat uncut here)
    simpa [List.modifyHead_modifyHead, Function.comp_def] using found
  | case4 quoted c cs quote found ih =>
    simp only [Bool.and_eq_true, Bool.not_eq_true', List.isPrefixOf_iff_prefix] at found
    obtain ⟨rfl, occurs⟩ := found
    have counts := (countsAt_length_iff parity).2 ⟨occurs, by simpa using quote, rfl⟩
    obtain ⟨rest, same⟩ := occurs
    have skipped : cs.drop (marker.length - 1) = rest := by
      obtain ⟨m, ms, rfl⟩ := List.exists_cons_of_ne_nil nonempty
      obtain ⟨rfl, rfl⟩ := List.cons_eq_cons.1 same
      simp
    have others := ih [] (by simp) (by simp)
    rw [modifyHead_nil_append, List.nil_append, skipped] at others
    rw [List.drop_zero] at uncut ⊢
    rw [← same, ← List.append_assoc] at uncut counts ⊢
    rw [List.modifyHead_cons, List.append_nil]
    exact (isDecomposition_cons others.nonempty).2 ⟨counts, uncut, others⟩
  | case5 quoted c cs quote other ih =>
    have here : ¬ CountsAt marker (before ++ c :: cs) 0 before.length := by
      intro counts
      obtain ⟨occurs, _, closed⟩ := (countsAt_length_iff parity).1 counts
      exact other (by simp [closed, occurs])
    have kept : quoted = false ↔ Even ((before ++ [c]).count (.scalar '\'')) := by
      rw [parity, List.count_append, List.count_singleton, if_neg (by simpa using quote)]
      simp
    have found := ih (before ++ [c]) kept (by simpa using uncut_concat uncut here)
    simpa [List.modifyHead_modifyHead, Function.comp_def] using found

theorem exists_split (nonempty : marker ≠ []) (fragment : List Chr) :
    ∃ pieces, split marker fragment = .ok pieces ∧ IsDecomposition marker fragment pieces := by
  have found := isDecomposition_splitFrom nonempty 0 false fragment [] (by simp) (by simp)
  rw [modifyHead_nil_append, List.nil_append, List.drop_zero] at found
  refine ⟨splitFrom marker 0 false fragment, ?_, found⟩
  rw [split, if_neg (by simpa using nonempty)]

/-! ## Uniqueness -/

namespace IsDecomposition

variable {first second : List Chr} {others : List (List Chr)}

theorem isPrefix (h : IsDecomposition marker fragment (piece :: pieces)) : piece <+: fragment := by
  rw [← h.joined]
  cases pieces with
  | nil => simp
  | cons next others => simp [List.intercalate_cons_of_ne_nil]

theorem exists_rest (nonempty : pieces ≠ [])
    (h : IsDecomposition marker fragment (piece :: pieces)) :
    ∃ rest, fragment = piece ++ marker ++ rest := by
  refine ⟨marker.intercalate pieces, ?_⟩
  rw [← h.joined, List.intercalate_cons_of_ne_nil nonempty, List.append_assoc]

/-- A first piece goes on as long as no marker counts, so it is no shorter than another. -/
theorem length_le (h : IsDecomposition marker fragment (first :: pieces))
    (h' : IsDecomposition marker fragment (second :: others)) : second.length ≤ first.length := by
  by_contra shorter
  rw [not_le] at shorter
  cases pieces with
  | nil =>
    have whole : first = fragment := by simpa using h.joined
    have bound := h'.isPrefix.length_le
    subst whole
    omega
  | cons next pieces =>
    have counts := h.cut 0 (by simp)
    exact h'.uncut 0 (by simp) first.length shorter (by simpa using counts)

theorem eq_nil_of_isLast (nonempty : marker ≠ []) (h : IsDecomposition marker fragment [piece])
    (h' : IsDecomposition marker fragment (piece :: others)) : others = [] := by
  by_contra more
  obtain ⟨rest, same⟩ := h'.exists_rest more
  have whole : piece = fragment := by simpa using h.joined
  have length := congrArg List.length (whole.trans same)
  have positive := List.length_pos_iff.2 nonempty
  simp only [List.length_append] at length
  omega

/-- The rule leaves no choice. -/
theorem unique (nonempty : marker ≠ []) (h : IsDecomposition marker fragment pieces)
    (h' : IsDecomposition marker fragment others) : others = pieces := by
  induction pieces generalizing fragment others with
  | nil => exact absurd rfl h.nonempty
  | cons first pieces ih =>
    obtain ⟨second, others, rfl⟩ := List.exists_cons_of_ne_nil h'.nonempty
    have length := Nat.le_antisymm (h.length_le h') (h'.length_le h)
    have starts := List.prefix_of_prefix_length_le h'.isPrefix h.isPrefix (Nat.le_of_eq length)
    obtain rfl := starts.eq_of_length length
    by_cases last : pieces = []
    · subst last
      rw [h.eq_nil_of_isLast nonempty h']
    · have more : others ≠ [] := by
        rintro rfl
        exact last (h'.eq_nil_of_isLast nonempty h)
      obtain ⟨rest, rfl⟩ := h.exists_rest last
      have tail := ((isDecomposition_cons last).1 h).2.2
      have tail' := ((isDecomposition_cons more).1 h').2.2
      rw [ih tail tail']

end IsDecomposition

/-! ## Joined pieces -/

/-- A marker that stands somewhere begins with the character there. -/
theorem CountsAt.head?_eq {start place : Nat} (nonempty : marker ≠ [])
    (h : CountsAt marker fragment start place) : marker.head? = fragment[place]? := by
  obtain ⟨m, ms, rfl⟩ := List.exists_cons_of_ne_nil nonempty
  obtain ⟨tail, same⟩ := h.occurs
  rw [← List.head?_drop, ← same, List.cons_append, List.head?_cons, List.head?_cons]

/-- No marker counts inside a piece that holds no character of it. -/
theorem not_countsAt_of_absent (nonempty : marker ≠ []) (absent : ∀ c ∈ marker, c ∉ piece)
    (rest : List Chr) : ∀ j < piece.length, ¬ CountsAt marker (piece ++ rest) 0 j := by
  intro j inside counts
  have first := counts.head?_eq nonempty
  rw [List.getElem?_append_left inside, List.getElem?_eq_getElem inside] at first
  exact absent _ (List.mem_of_mem_head? first) (List.getElem_mem inside)

/-- Pieces that hold no quote and no character of the marker are cut where they were joined. -/
theorem isDecomposition_intercalate (nonempty : marker ≠ [])
    (unquoted : marker.head? ≠ some (.scalar '\'')) (present : pieces ≠ [])
    (plain : ∀ piece ∈ pieces, .scalar '\'' ∉ piece ∧ ∀ c ∈ marker, c ∉ piece) :
    IsDecomposition marker (marker.intercalate pieces) pieces := by
  induction pieces with
  | nil => exact absurd rfl present
  | cons piece pieces ih =>
    obtain ⟨quotes, absent⟩ := plain piece List.mem_cons_self
    by_cases last : pieces = []
    · subst last
      refine isDecomposition_singleton.2 ⟨by simp, ?_⟩
      simpa using not_countsAt_of_absent nonempty absent []
    · have counts :
          CountsAt marker (piece ++ marker ++ marker.intercalate pieces) 0 piece.length := by
        refine ⟨by simp, ?_, by simp [List.count_eq_zero_of_not_mem quotes]⟩
        rw [List.append_assoc, List.getElem?_append_right (Nat.le_refl _), Nat.sub_self,
          ← List.head?_eq_getElem?, List.head?_append_of_ne_nil _ nonempty]
        exact unquoted
      have uncut := not_countsAt_of_absent nonempty absent (marker ++ marker.intercalate pieces)
      have others := ih last fun p mem => plain p (List.mem_cons_of_mem _ mem)
      rw [List.intercalate_cons_of_ne_nil last]
      exact (isDecomposition_cons last).2 ⟨counts, by simpa using uncut, others⟩

/-- A marker that begins with a quote never counts. -/
theorem isDecomposition_of_quote (quote : marker.head? = some (.scalar '\''))
    (fragment : List Chr) :
    IsDecomposition marker fragment [fragment] := by
  have nonempty : marker ≠ [] := by
    rintro rfl
    cases quote
  refine isDecomposition_singleton.2 ⟨rfl, fun j _ counts => counts.unquoted ?_⟩
  rw [← counts.head?_eq nonempty, quote]

/-- Joined pieces are found again by every marker that does not begin with a quote, and by no
other. -/
theorem split_intercalate_eq_ok_iff (nonempty : marker ≠ []) (two : 2 ≤ pieces.length)
    (plain : ∀ piece ∈ pieces, .scalar '\'' ∉ piece ∧ ∀ c ∈ marker, c ∉ piece) :
    split marker (marker.intercalate pieces) = .ok pieces ↔ marker.head? ≠ some (.scalar '\'') := by
  obtain ⟨found, split, decomposed⟩ := exists_split nonempty (marker.intercalate pieces)
  rw [split]
  constructor
  · intro same quote
    cases same
    have single := decomposed.unique nonempty (isDecomposition_of_quote quote _)
    rw [← single] at two
    simp at two
  · intro unquoted
    have present : pieces ≠ [] := by
      rintro rfl
      simp at two
    rw [decomposed.unique nonempty (isDecomposition_intercalate nonempty unquoted present plain)]

/-! ## The scanner and the rule -/

/-- A fragment is cut into the pieces of the rule, and no others fit it. -/
theorem split_decomposes (nonempty : marker ≠ []) (fragment : List Chr) :
    ∃ pieces, split marker fragment = .ok pieces ∧ IsDecomposition marker fragment pieces ∧
      ∀ others, IsDecomposition marker fragment others → others = pieces := by
  obtain ⟨pieces, found, decomposed⟩ := exists_split nonempty fragment
  exact ⟨pieces, found, decomposed, fun others h => decomposed.unique nonempty h⟩

/-- Three marks in a row hold one marker of two; the ones in a literal that is closed by a doubled
quote and never again do not count. -/
theorem split_decomposes_overlapping :
    (['?', '?'] : List Chr) ≠ [] ∧
      split ['?', '?'] (Str.toList "???'??''a'??b'??") =
        .ok [[], Str.toList "?'??''a'", Str.toList "b'??"] ∧
      ∀ others, IsDecomposition ['?', '?'] (Str.toList "???'??''a'??b'??") others →
        others = [[], Str.toList "?'??''a'", Str.toList "b'??"] := by
  refine ⟨by simp, by rfl, ?_⟩
  obtain ⟨pieces, found, _, unique⟩ :=
    @split_decomposes ['?', '?'] (by simp) (Str.toList "???'??''a'??b'??")
  obtain rfl : [[], Str.toList "?'??''a'", Str.toList "b'??"] = pieces := Except.ok.inj found
  exact unique

end BoundQuery.Marker
