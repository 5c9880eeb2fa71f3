import BoundQuery.Proofs.Placeholder.Scan

/-!
# Texts between placeholders

A text is read apart from the text after it when that one does not begin with a word character. A
text separates when it ends the name before it and neither holds a name nor begins one that the text
after it would end; joined with such a text, texts keep the names that they have by themselves.

## Main definitions

* `Placeholder.Separates` — the texts that may stand between others.

## Main statements

* `Placeholder.names_intercalate` — the names of texts that are joined with a separating text.
* `Placeholder.separates_of_names` — no other text leaves the names alone.
-/

namespace BoundQuery.Placeholder

variable {d : Dialect} {before word keyword after rest cs sep : List Chr}

/-- The names in a text, given by its characters. -/
def namesIn (d : Dialect) (cs : List Chr) : List Str :=
  (scan d cs).filterMap Part.name?

/-! ## Reading two texts -/

theorem takeWhile_append_of_head (stop : ∀ c ∈ rest.head?, d.isWordChar c = false) :
    (cs ++ rest).takeWhile d.isWordChar = cs.takeWhile d.isWordChar := by
  induction cs with
  | nil => exact @takeWhile_isWordChar d [] rest (by simp) stop
  | cons c cs ih => simp [List.takeWhile_cons, ih]

theorem dropWhile_append_of_head (stop : ∀ c ∈ rest.head?, d.isWordChar c = false) :
    (cs ++ rest).dropWhile d.isWordChar = cs.dropWhile d.isWordChar ++ rest := by
  induction cs with
  | nil => exact @dropWhile_isWordChar d [] rest (by simp) stop
  | cons c cs ih =>
    cases word : d.isWordChar c with
    | true => simp [word, ih]
    | false => simp [word]

/-- A text is read apart from one that begins with no word character. -/
theorem scan_append_of_head (stop : ∀ c ∈ rest.head?, d.isWordChar c = false) :
    scan d (cs ++ rest) = scan d cs ++ scan d rest := by
  fun_induction scan d cs with
  | case1 => rfl
  | case2 c cs named ih =>
    rw [List.cons_append, scan, takeWhile_append_of_head stop, dropWhile_append_of_head stop,
      if_pos named, ih]
    rfl
  | case3 c cs plain ih =>
    rw [List.cons_append, scan, takeWhile_append_of_head stop, if_neg plain, ih]
    rfl

theorem namesIn_append_of_head (stop : ∀ c ∈ rest.head?, d.isWordChar c = false) :
    namesIn d (cs ++ rest) = namesIn d cs ++ namesIn d rest := by
  rw [namesIn, scan_append_of_head stop, List.filterMap_append]
  rfl

/-! ## Separating texts -/

/-- Whatever stands after a text, no name begins in it: within the text a character that is no word
character follows each dollar sign. -/
def BeginsNoName (d : Dialect) (cs : List Chr) : Prop :=
  ∀ before after, cs = before ++ .scalar '$' :: after → ∃ c ∈ after.head?, d.isWordChar c = false

/-- A text that ends the name before it, and in which no name begins. -/
structure Separates (d : Dialect) (cs : List Chr) : Prop where
  ends : ∃ c ∈ cs.head?, d.isWordChar c = false
  beginsNoName : BeginsNoName d cs

theorem beginsNoName_nil (d : Dialect) : BeginsNoName d [] := by
  intro before after same
  cases before <;> cases same

theorem beginsNoName_cons {c : Chr} :
    BeginsNoName d (c :: cs) ↔
      (c = '$' → ∃ c ∈ cs.head?, d.isWordChar c = false) ∧ BeginsNoName d cs := by
  constructor
  · intro h
    refine ⟨?_, fun before after same => h (c :: before) after (congrArg _ same)⟩
    rintro rfl
    exact h [] cs rfl
  · rintro ⟨here, later⟩ before after same
    cases before with
    | nil =>
      cases same
      exact here rfl
    | cons c' before =>
      cases same
      exact later before after rfl

/-- Only the first character is looked at, not every character there is. -/
instance (d : Dialect) (cs : List Chr) : Decidable (∃ c ∈ cs.head?, d.isWordChar c = false) :=
  Option.decidableExistsMem cs.head?

instance instDecidableBeginsNoName (d : Dialect) : (cs : List Chr) → Decidable (BeginsNoName d cs)
  | [] => isTrue (beginsNoName_nil d)
  | _ :: cs =>
    have := instDecidableBeginsNoName d cs
    decidable_of_iff _ beginsNoName_cons.symm

instance (d : Dialect) (cs : List Chr) : Decidable (Separates d cs) :=
  decidable_of_iff ((∃ c ∈ cs.head?, d.isWordChar c = false) ∧ BeginsNoName d cs)
    ⟨fun h => ⟨h.1, h.2⟩, fun h => ⟨h.ends, h.beginsNoName⟩⟩

theorem beginsNoName_of_notMem (dollar : .scalar '$' ∉ cs) : BeginsNoName d cs := by
  rintro before after rfl
  simp at dollar

theorem scan_append_of_beginsNoName (h : BeginsNoName d cs) (rest : List Chr) :
    scan d (cs ++ rest) = cs.map .char ++ scan d rest := by
  induction cs with
  | nil => rfl
  | cons c cs ih =>
    obtain ⟨here, later⟩ := beginsNoName_cons.1 h
    have plain : ¬ (c = '$' ∧ (cs ++ rest).takeWhile d.isWordChar ≠ []) := by
      rintro ⟨dollar, named⟩
      obtain ⟨c, head, stop⟩ := here dollar
      obtain ⟨cs', rfl⟩ := List.head?_eq_some_iff.1 head
      simp [stop] at named
    rw [List.cons_append, scan, if_neg plain, ih later]
    rfl

theorem namesIn_append_of_beginsNoName (h : BeginsNoName d cs) (rest : List Chr) :
    namesIn d (cs ++ rest) = namesIn d rest := by
  rw [namesIn, scan_append_of_beginsNoName h, List.filterMap_append]
  simp [namesIn, Part.name?, Function.comp_def]

/-- Texts that are joined with a separating text keep the names that they have by themselves. -/
theorem names_intercalate {separator : Str} (h : Separates d separator.toList)
    (texts : List Str) :
    names d (Str.intercalate separator texts) = texts.flatMap (names d) := by
  induction texts with
  | nil => simp [names]
  | cons s texts ih =>
    cases texts with
    | nil => simp
    | cons next texts =>
      obtain ⟨c, head, stop⟩ := h.ends
      have between (cs : List Chr) : ∀ c ∈ (separator.toList ++ cs).head?,
          d.isWordChar c = false := by
        obtain ⟨cs', same⟩ := List.head?_eq_some_iff.1 head
        simpa [same] using stop
      rw [Str.intercalate_cons_cons, List.flatMap_cons, ← ih]
      change namesIn d _ = namesIn d _ ++ namesIn d _
      rw [Str.toList_append, Str.toList_append, List.append_assoc,
        namesIn_append_of_head (between _), namesIn_append_of_beginsNoName h.beginsNoName]

/-! ## Other texts do not separate -/

/-- The name that a dollar sign begins goes as far as word characters go. -/
theorem namesIn_dollar (named : ∃ c ∈ cs.head?, d.isWordChar c = true) :
    namesIn d (.scalar '$' :: cs) =
      Str.ofList (cs.takeWhile d.isWordChar) :: namesIn d (cs.dropWhile d.isWordChar) := by
  obtain ⟨c, head, word⟩ := named
  obtain ⟨cs', rfl⟩ := List.head?_eq_some_iff.1 head
  rw [namesIn, scan, if_pos ⟨rfl, by simp [word]⟩]
  rfl

theorem namesIn_before_dollar (d : Dialect) (before cs : List Chr) :
    namesIn d (before ++ .scalar '$' :: cs) = namesIn d before ++ namesIn d (.scalar '$' :: cs) :=
  namesIn_append_of_head (by simp)

theorem exists_head_of_word (someWord : word ≠ []) (allWord : ∀ c ∈ word, d.isWordChar c = true)
    (cs : List Chr) : ∃ c ∈ (word ++ cs).head?, d.isWordChar c = true := by
  obtain ⟨c, word', rfl⟩ := List.exists_cons_of_ne_nil someWord
  exact ⟨c, rfl, allWord c List.mem_cons_self⟩

/-- A text begins no name if there is none in it even with a word after it. -/
theorem beginsNoName_of_namesIn (someWord : word ≠ []) (allWord : ∀ c ∈ word, d.isWordChar c = true)
    (none : namesIn d (cs ++ word) = []) : BeginsNoName d cs := by
  rintro inside behind split
  have unnamed : ¬ ∃ c ∈ (behind ++ word).head?, d.isWordChar c = true := by
    intro named
    rw [split, List.append_assoc, List.cons_append, namesIn_before_dollar, namesIn_dollar named]
      at none
    simp at none
  cases behind with
  | nil => exact absurd (by simpa using exists_head_of_word someWord allWord []) unnamed
  | cons c behind =>
    cases isWord : d.isWordChar c with
    | true => exact absurd ⟨c, rfl, isWord⟩ unnamed
    | false => exact ⟨c, rfl, isWord⟩

/-- If nothing goes on into a text with a word after it, the text stops it. -/
theorem exists_head_of_takeWhile (someWord : word ≠ [])
    (allWord : ∀ c ∈ word, d.isWordChar c = true)
    (stopped : (cs ++ (word ++ rest)).takeWhile d.isWordChar = []) :
    ∃ c ∈ cs.head?, d.isWordChar c = false := by
  cases cs with
  | nil =>
    obtain ⟨c, word', rfl⟩ := List.exists_cons_of_ne_nil someWord
    simp [allWord c List.mem_cons_self] at stopped
  | cons c cs =>
    cases isWord : d.isWordChar c with
    | true => simp [isWord] at stopped
    | false => exact ⟨c, rfl, isWord⟩

/-- When a text stands between a name and a word and the names around it are read as if it were not
there, it separates. -/
theorem separates_of_names (someWord : word ≠ []) (allWord : ∀ c ∈ word, d.isWordChar c = true)
    (someKeyword : keyword ≠ []) (allKeyword : ∀ c ∈ keyword, d.isWordChar c = true)
    (stop : ∀ c ∈ after.head?, d.isWordChar c = false)
    (same : namesIn d (.scalar '$' :: word ++ (sep ++ (keyword ++ after))) =
      Str.ofList word :: namesIn d after) :
    Separates d sep := by
  rw [List.cons_append, namesIn_dollar (exists_head_of_word someWord allWord _),
    List.cons_eq_cons] at same
  obtain ⟨first, others⟩ := same
  have ends : ∃ c ∈ sep.head?, d.isWordChar c = false := by
    -- otherwise the name before it goes on
    rw [List.takeWhile_append_of_pos allWord, Str.ofList_inj] at first
    exact exists_head_of_takeWhile someKeyword allKeyword (List.append_right_eq_self.1 first)
  refine ⟨ends, beginsNoName_of_namesIn someKeyword allKeyword ?_⟩
  obtain ⟨c, head, isNoWord⟩ := ends
  obtain ⟨sep', rfl⟩ := List.head?_eq_some_iff.1 head
  rw [dropWhile_isWordChar allWord (by simpa using isNoWord), ← List.append_assoc,
    namesIn_append_of_head stop] at others
  exact List.append_left_eq_self.1 others

end BoundQuery.Placeholder
