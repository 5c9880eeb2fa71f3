import BoundQuery.Json.Read
import BoundQuery.Json.Text
import BoundQuery.Proofs.Placeholder.Word
import Mathlib.Tactic.SplitIfs

/-!
# Reading back what has been written

A tree that is written without spaces can be read again, and what is read is the tree that was
written, as long as its numbers are integers. So no two such trees have the same text: strings end
at their closing quote, and a list or a mapping at its closing bracket.

## Main definitions

* `Json.IsWhole` — trees whose numbers are integers.

## Main statements

* `Json.readValue_write` — a written tree is read up to its end, whatever follows it.
* `Json.read?_text` — what has been written is read back.
* `Json.text_injective` — a text without spaces belongs to one tree.
-/

namespace BoundQuery.Json

/-- Trees whose numbers are integers. -/
inductive IsWhole : Json → Prop
  | null : IsWhole .null
  | bool (b : Bool) : IsWhole (.bool b)
  | int (i : Int) : IsWhole (.int i)
  | str (s : Str) : IsWhole (.str s)
  | arr {xs : List Json} (each : ∀ x ∈ xs, IsWhole x) : IsWhole (.arr xs)
  | obj {fields : List (Str × Json)} (each : ∀ f ∈ fields, IsWhole f.2) : IsWhole (.obj fields)

/-- What may follow a tree: the end of the text, a comma or a closing bracket. -/
def Ends (rest : List Chr) : Prop :=
  ∀ c ∈ rest.head?, c = ',' ∨ c = ']' ∨ c = '\x7d'

theorem ends_cons {c : Chr} (h : c = ',' ∨ c = ']' ∨ c = '\x7d') (rest : List Chr) :
    Ends (c :: rest) := by
  intro d mem
  cases mem
  exact h

/-! ## Strings -/

/-- The ways to write a character between quotes. -/
inductive Escaped (c : Chr) : List Chr → Prop
  | letter {l : Chr} (code : escape? l = some c) (notUnit : l ≠ 'u') : Escaped c ['\\', l]
  | unit (low : c.toNat < 0x20) : Escaped c (.scalar '\\' :: .scalar 'u' :: Chars.hex 4 c.toNat)
  | plain (quote : c ≠ '"') (backslash : c ≠ '\\') (high : 0x20 ≤ c.toNat) : Escaped c [c]

theorem escaped_escapeChar (c : Chr) : Escaped c (escapeChar c) := by
  have named {n : Nat} (h : c.toNat = n) : c = Chr.ofNat n := by rw [← h, Chr.ofNat_toNat]
  unfold escapeChar
  split_ifs with quote backslash newline back tab feed bell low
  · exact .letter (by simp_all [escape?]) (by decide)
  · exact .letter (by simp_all [escape?]) (by decide)
  · exact .letter (by simp_all [escape?]) (by decide)
  · exact .letter (by simp_all [escape?]) (by decide)
  · exact .letter (by simp_all [escape?]) (by decide)
  · exact .letter (by simp [escape?, named (by simpa using feed)]) (by decide)
  · exact .letter (by simp [escape?, named (by simpa using bell)]) (by decide)
  · exact .unit low
  · exact .plain (by simpa using quote) (by simpa using backslash) (by omega)

theorem Escaped.length_pos {c : Chr} {cs : List Chr} (h : Escaped c cs) : 0 < cs.length := by
  cases h <;> simp

theorem hexValue?_hex {n : Nat} (h : n < 0x20) : hexValue? (Chars.hex 4 n) = some n := by
  revert n
  decide

theorem readString_escaped {c : Chr} {cs : List Chr} (h : Escaped c cs) (fuel : Nat)
    (rest : List Chr) :
    readString (fuel + 1) (cs ++ rest) =
      (readString fuel rest).map fun read => (c :: read.1, read.2) := by
  cases h with
  | @letter l code notUnit =>
    have step : readString (fuel + 1) (.scalar '\\' :: l :: rest) =
        ((escape? l).bind fun c => (readString fuel rest).bind fun read =>
          some (c :: read.1, read.2)) := by
      rw [readString]
      · rfl
      · exact notUnit
    rw [List.cons_append, List.singleton_append, step, code]
    cases readString fuel rest <;> rfl
  | unit low =>
    have value := hexValue?_hex low
    have length : (Chars.hex 4 c.toNat).length = 4 := Chars.length_hex 4 _
    simp only [List.cons_append, readString]
    rw [List.take_left' length, List.drop_left' length, value]
    simp only [Option.bind_eq_bind, Option.bind_some, Chr.ofNat_toNat]
    cases readString fuel rest <;> rfl
  | plain quote backslash high =>
    have step : readString (fuel + 1) (c :: rest) =
        ((readString fuel rest).bind fun read => some (c :: read.1, read.2)) := by
      rw [readString]
      · simp only [if_neg (show ¬c.toNat < 0x20 by omega)]
        rfl
      · exact quote
      · exact fun _ same _ => backslash same
      · exact fun _ _ same _ => backslash same
    rw [List.singleton_append, step]
    cases readString fuel rest <;> rfl

/-- A string is read up to its closing quote. -/
theorem readString_quoted (cs rest : List Chr) {fuel : Nat} (enough : cs.length < fuel) :
    readString fuel (cs.flatMap escapeChar ++ .scalar '"' :: rest) = some (cs, rest) := by
  induction cs generalizing fuel with
  | nil =>
    obtain ⟨fuel, rfl⟩ := Nat.exists_eq_add_of_lt enough
    simp [readString]
  | cons c cs ih =>
    obtain ⟨fuel, rfl⟩ := Nat.exists_eq_add_of_lt enough
    have more : cs.length < (c :: cs).length + fuel := by simp; omega
    rw [List.flatMap_cons, List.append_assoc, readString_escaped (escaped_escapeChar c), ih more]
    rfl

theorem length_le_flatMap_escapeChar (cs : List Chr) :
    cs.length ≤ (cs.flatMap escapeChar).length := by
  induction cs with
  | nil => simp
  | cons c cs ih =>
    have written := (escaped_escapeChar c).length_pos
    simp only [List.flatMap_cons, List.length_append, List.length_cons]
    omega

/-- The length of the text is fuel enough. -/
theorem readString_escapes (s : Str) (rest : List Chr) :
    readString ((s.toList.flatMap escapeChar ++ .scalar '"' :: rest).length + 1)
      (s.toList.flatMap escapeChar ++ .scalar '"' :: rest) = some (s.toList, rest) := by
  have length := length_le_flatMap_escapeChar s.toList
  exact readString_quoted s.toList rest (by simp only [List.length_append]; omega)

theorem toList_stringText (s : Str) :
    (stringText s).toList = .scalar '"' :: (s.toList.flatMap escapeChar ++ [('"' : Chr)]) := by
  rfl

/-! ## Integers -/

/-- The digits of an integer behind its sign. -/
theorem toList_ofInt (i : Int) :
    (Str.ofInt i).toList = (if i < 0 then [.scalar '-'] else []) ++ Chr.digits i.natAbs := by
  rw [Str.ofInt, Str.toList_append]
  split <;> rfl

theorem digitsValue_digits (n : Nat) : Literal.digitsValue (Chr.digits n) = n := by
  rw [Literal.digitsValue, Chr.digits, List.foldl_map]
  exact Nat.ofDigitChars_ten_toDigits

theorem Ends.isDigit_eq_false {rest : List Chr} (h : Ends rest) :
    ∀ c ∈ rest.head?, c.isDigit = false := by
  intro c mem
  rcases h c mem with rfl | rfl | rfl <;> rfl

theorem spanDigits_append {digits rest : List Chr} (all : ∀ c ∈ digits, c.isDigit = true)
    (stop : Ends rest) : Literal.spanDigits (digits ++ rest) = (digits, rest) :=
  Prod.ext (Placeholder.takeWhile_isWordChar (d := .relational) all stop.isDigit_eq_false)
    (Placeholder.dropWhile_isWordChar (d := .relational) all stop.isDigit_eq_false)

theorem scanFraction_of_ends {rest : List Chr} (stop : Ends rest) :
    Literal.scanFraction rest = ([], rest) := by
  cases rest with
  | nil => rfl
  | cons c rest => rcases stop c rfl with rfl | rfl | rfl <;> rfl

theorem scanExponent_of_ends {rest : List Chr} (stop : Ends rest) :
    Literal.scanExponent rest = (none, rest) := by
  cases rest with
  | nil => rfl
  | cons c rest => rcases stop c rfl with rfl | rfl | rfl <;> rfl

/-- The literal of an integer with the given sign and digits. -/
def wholeLiteral (negative : Bool) (digits : List Chr) : Literal where
  negative
  mantissa := Literal.digitsValue digits
  exponent := 0
  whole := true

theorem scan?_of_scanSign {negative : Bool} {cs digits rest : List Chr}
    (sign : Literal.scanSign cs = (negative, digits ++ rest))
    (all : ∀ c ∈ digits, c.isDigit = true) (nonempty : digits ≠ []) (stop : Ends rest) :
    Literal.scan? cs = some (wholeLiteral negative digits, rest) := by
  have span := spanDigits_append all stop
  obtain ⟨c, cs', rfl⟩ := List.exists_cons_of_ne_nil nonempty
  simp only [Literal.scan?, sign, span, scanFraction_of_ends stop, scanExponent_of_ends stop]
  simp [wholeLiteral]

theorem scanSign_digit {c : Chr} (digit : c.isDigit = true) (rest : List Chr) :
    Literal.scanSign (c :: rest) = (false, c :: rest) := by
  unfold Literal.scanSign
  split
  next same =>
    cases same
    cases digit
  next same =>
    cases same
    cases digit
  next => rfl

theorem scanSign_ofInt (i : Int) (rest : List Chr) :
    Literal.scanSign ((Str.ofInt i).toList ++ rest) =
      (decide (i < 0), Chr.digits i.natAbs ++ rest) := by
  rw [toList_ofInt]
  by_cases negative : i < 0
  · simp [Literal.scanSign, negative]
  · have nonempty : Chr.digits i.natAbs ≠ [] := (Chr.digits_ne_nil _)
    obtain ⟨c, cs, same⟩ := List.exists_cons_of_ne_nil nonempty
    have digit : c.isDigit = true := Chr.isDigit_of_mem_digits (same ▸ List.mem_cons_self)
    simp [negative, same, scanSign_digit digit]

theorem readNumber_ofInt (i : Int) {rest : List Chr} (stop : Ends rest) :
    readNumber ((Str.ofInt i).toList ++ rest) = some (.int i, rest) := by
  have scanned := scan?_of_scanSign (scanSign_ofInt i rest)
    (fun _ => Chr.isDigit_of_mem_digits) (Chr.digits_ne_nil _) stop
  have value := digitsValue_digits i.natAbs
  have sign : Binary64.signed (decide (i < 0)) i.natAbs = i := by
    unfold Binary64.signed
    grind
  rw [readNumber, scanned]
  simp [wholeLiteral, Literal.integer, value, sign]

/-- An integer begins with its sign or with a digit. -/
theorem exists_toList_ofInt (i : Int) :
    ∃ c cs, (Str.ofInt i).toList = c :: cs ∧ (c = '-' ∨ c.isDigit = true) := by
  rw [toList_ofInt]
  by_cases negative : i < 0
  · exact ⟨'-', _, by simp [negative]; rfl, .inl rfl⟩
  · have nonempty : Chr.digits i.natAbs ≠ [] := (Chr.digits_ne_nil _)
    obtain ⟨c, cs, same⟩ := List.exists_cons_of_ne_nil nonempty
    exact ⟨c, cs, by simp [negative, same],
      .inr (Chr.isDigit_of_mem_digits (same ▸ List.mem_cons_self))⟩

/-! ## One step of reading -/

section
variable {fuel : Nat} {cs rest rest' : List Chr} {x : Json} {xs : List Json}
variable {key : List Chr} {fields : List (Str × Json)}

theorem readItems_last (first : readValue fuel cs = some (x, .scalar ']' :: rest)) :
    readItems (fuel + 1) cs = some ([x], rest) := by
  rw [readItems, first]
  rfl

theorem readItems_more (first : readValue fuel cs = some (x, .scalar ',' :: rest))
    (others : readItems fuel rest = some (xs, rest')) :
    readItems (fuel + 1) cs = some (x :: xs, rest') := by
  simp [readItems, first, others, skipSpace, isSpace]

theorem readFields_last (name : readString (cs.length + 1) cs = some (key, .scalar ':' :: rest))
    (first : readValue fuel rest = some (x, .scalar '\x7d' :: rest')) :
    readFields (fuel + 1) (.scalar '"' :: cs) = some ([(Str.ofList key, x)], rest') := by
  simp [readFields, name, first, skipSpace, isSpace]

theorem readFields_more {rest'' : List Chr}
    (name : readString (cs.length + 1) cs = some (key, .scalar ':' :: rest))
    (first : readValue fuel rest = some (x, .scalar ',' :: rest'))
    (others : readFields fuel rest' = some (fields, rest'')) :
    readFields (fuel + 1) (.scalar '"' :: cs) = some ((Str.ofList key, x) :: fields, rest'') := by
  simp [readFields, name, first, others, skipSpace, isSpace]

theorem readValue_string (read : readString (cs.length + 1) cs = some (key, rest)) :
    readValue (fuel + 1) (.scalar '"' :: cs) = some (.str (Str.ofList key), rest) := by
  simp [readValue, skipSpace, isSpace, read]

theorem skipSpace_cons {c : Chr} (space : isSpace c = false) :
    skipSpace (c :: cs) = c :: cs := by
  simp [skipSpace, space]

theorem readValue_items {c : Chr} (space : isSpace c = false) (more : c ≠ ']')
    (read : readItems fuel (c :: cs) = some (xs, rest)) :
    readValue (fuel + 1) (.scalar '[' :: c :: cs) = some (.arr xs, rest) := by
  rw [readValue, skipSpace_cons rfl]
  simp only [skipSpace_cons space]
  split
  · next same => exact absurd (List.cons.inj same).1 more
  · simp [read]

theorem readValue_fields (read : readFields fuel (.scalar '"' :: cs) = some (fields, rest)) :
    readValue (fuel + 1) (.scalar '\x7b' :: .scalar '"' :: cs) = some (.obj fields, rest) := by
  simp [readValue, skipSpace, isSpace, read]

theorem isSpace_of_isDigit {c : Chr} (digit : c.isDigit = true) : isSpace c = false := by
  cases space : isSpace c with
  | false => rfl
  | true =>
    have named : (c = ' ' ∨ c = '\n') ∨ c = '\r' := by simpa [isSpace] using space
    rcases named with (rfl | rfl) | rfl <;> cases digit

theorem readValue_minus :
    readValue (fuel + 1) (.scalar '-' :: cs) = readNumber (.scalar '-' :: cs) := by
  simp [readValue, skipSpace, isSpace]

theorem readValue_digit {c : Chr} (digit : c.isDigit = true) :
    readValue (fuel + 1) (c :: cs) = readNumber (c :: cs) := by
  have other {d : Chr} (h : d.isDigit = false) : c ≠ d := by
    rintro rfl
    rw [h] at digit
    cases digit
  rw [readValue, skipSpace_cons (isSpace_of_isDigit digit)]
  split
  all_goals first | rfl | next same => exact absurd (List.cons.inj same).1 (other rfl)

end

/-! ## Trees -/

section
variable (depth : Nat)

/-- The items of a list with commas between them. -/
def itemsText (xs : List Json) : Str :=
  Str.intercalate "," (writeList .compact depth xs)

/-- A key and its value. -/
def fieldText (f : Str × Json) : Str :=
  stringText f.1 ++ ":" ++ f.2.write .compact depth

/-- The fields of a mapping with commas between them. -/
def fieldsText (fields : List (Str × Json)) : Str :=
  Str.intercalate "," (writeFields .compact depth fields)

theorem itemsText_singleton (x : Json) : itemsText depth [x] = x.write .compact depth := by
  simp [itemsText, writeList]

theorem itemsText_cons (x y : Json) (xs : List Json) :
    itemsText depth (x :: y :: xs) =
      x.write .compact depth ++ "," ++ itemsText depth (y :: xs) := by
  simp [itemsText, writeList]

theorem fieldsText_singleton (f : Str × Json) : fieldsText depth [f] = fieldText depth f := by
  simp [fieldsText, writeFields, fieldText, Layout.colon]

theorem fieldsText_cons (f g : Str × Json) (fields : List (Str × Json)) :
    fieldsText depth (f :: g :: fields) =
      fieldText depth f ++ "," ++ fieldsText depth (g :: fields) := by
  simp [fieldsText, writeFields, fieldText, Layout.colon]

theorem enclose_compact (left right : Str) (items : List Str) :
    Layout.compact.enclose left right depth items =
      left ++ Str.intercalate "," items ++ right := by
  cases items <;> simp [Layout.enclose]

theorem write_arr (xs : List Json) :
    write .compact depth (.arr xs) = "[" ++ itemsText (depth + 1) xs ++ "]" := by
  rw [write, enclose_compact, itemsText]

theorem write_obj (fields : List (Str × Json)) :
    write .compact depth (.obj fields) = "\x7b" ++ fieldsText (depth + 1) fields ++ "\x7d" := by
  rw [write, enclose_compact, fieldsText]

/-- A field begins with the opening quote of its key. -/
theorem toList_fieldText (f : Str × Json) (rest : List Chr) :
    (fieldText depth f).toList ++ rest =
      .scalar '"' :: (f.1.toList.flatMap escapeChar ++ .scalar '"' ::
      .scalar ':' :: ((f.2.write .compact depth).toList ++ rest)) := by
  simp [fieldText, toList_stringText]

end

/-- A tree is read up to its end, whatever stands after it. -/
def Reads (j : Json) : Prop :=
  ∀ (depth fuel : Nat) (rest : List Chr), Ends rest →
    (j.write .compact depth).length < fuel →
    readValue fuel ((j.write .compact depth).toList ++ rest) = some (j, rest)

/-- A written tree begins with neither a space nor a closing bracket. -/
theorem exists_toList_write (depth : Nat) {j : Json} (whole : j.IsWhole) :
    ∃ c cs, (j.write .compact depth).toList = c :: cs ∧ isSpace c = false ∧ c ≠ ']' := by
  cases whole with
  | null => exact ⟨'n', ['u', 'l', 'l'], by simp [write], rfl, by decide⟩
  | bool b => cases b with
    | true => exact ⟨'t', ['r', 'u', 'e'], by simp [write], rfl, by decide⟩
    | false => exact ⟨'f', ['a', 'l', 's', 'e'], by simp [write], rfl, by decide⟩
  | int i =>
    obtain ⟨c, cs, same, rfl | digit⟩ := exists_toList_ofInt i
    · exact ⟨'-', cs, by rw [write, same], rfl, by decide⟩
    · refine ⟨c, cs, by rw [write, same], isSpace_of_isDigit digit, ?_⟩
      rintro rfl
      cases digit
  | str s => exact ⟨'"', _, by rw [write, toList_stringText], rfl, by decide⟩
  | arr _ =>
    rw [write_arr, Str.append_assoc, Str.toList_append]
    exact ⟨'[', _, rfl, rfl, by decide⟩
  | obj _ =>
    rw [write_obj, Str.append_assoc, Str.toList_append]
    exact ⟨'\x7b', _, rfl, rfl, by decide⟩

theorem exists_toList_itemsText (depth : Nat) {x : Json} (xs : List Json) (whole : x.IsWhole) :
    ∃ c cs, (itemsText depth (x :: xs)).toList = c :: cs ∧ isSpace c = false ∧ c ≠ ']' := by
  obtain ⟨c, cs, same, rest⟩ := exists_toList_write depth whole
  cases xs with
  | nil => exact ⟨c, cs, by rw [itemsText_singleton, same], rest⟩
  | cons y ys =>
    refine ⟨c, cs ++ (.scalar ',' :: (itemsText depth (y :: ys)).toList), ?_, rest⟩
    rw [itemsText_cons, Str.toList_append, Str.toList_append, same]
    simp

theorem exists_toList_fieldsText (depth : Nat) (f : Str × Json) (fields : List (Str × Json)) :
    ∃ cs, (fieldsText depth (f :: fields)).toList = .scalar '"' :: cs := by
  cases fields with
  | nil =>
    rw [fieldsText_singleton, ← List.append_nil (fieldText depth f).toList, toList_fieldText]
    exact ⟨_, rfl⟩
  | cons g gs =>
    rw [fieldsText_cons, Str.append_assoc, Str.toList_append, toList_fieldText]
    exact ⟨_, rfl⟩

theorem readItems_itemsText {xs : List Json} (each : ∀ x ∈ xs, Reads x) (nonempty : xs ≠ [])
    {depth fuel : Nat} (rest : List Chr) (enough : (itemsText depth xs).length + 1 < fuel) :
    readItems fuel ((itemsText depth xs).toList ++ .scalar ']' :: rest) = some (xs, rest) := by
  induction xs generalizing fuel with
  | nil => exact absurd rfl nonempty
  | cons x xs ih =>
    obtain ⟨fuel, rfl⟩ : ∃ n, fuel = n + 1 := ⟨fuel - 1, by omega⟩
    have head := each x List.mem_cons_self depth fuel
    have tail := ih (fun y mem => each y (List.mem_cons_of_mem x mem))
    cases xs with
    | nil =>
      rw [itemsText_singleton] at enough ⊢
      exact readItems_last (head _ (ends_cons (.inr (.inl rfl)) rest) (by omega))
    | cons y ys =>
      have comma : (Str.of ",").length = 1 := rfl
      simp only [itemsText_cons, Str.length_append, comma] at enough
      simp only [itemsText_cons, Str.toList_append, List.append_assoc]
      refine readItems_more (head _ (ends_cons (.inl rfl) _) (by omega)) ?_
      exact tail (List.cons_ne_nil y ys) (by omega)

theorem readFields_fieldsText {fields : List (Str × Json)} (each : ∀ f ∈ fields, Reads f.2)
    (nonempty : fields ≠ []) {depth fuel : Nat} (rest : List Chr)
    (enough : (fieldsText depth fields).length + 1 < fuel) :
    readFields fuel ((fieldsText depth fields).toList ++ .scalar '\x7d' :: rest) =
      some (fields, rest) := by
  induction fields generalizing fuel with
  | nil => exact absurd rfl nonempty
  | cons f fields ih =>
    obtain ⟨fuel, rfl⟩ : ∃ n, fuel = n + 1 := ⟨fuel - 1, by omega⟩
    have head := each f List.mem_cons_self depth fuel
    have tail := ih (fun g mem => each g (List.mem_cons_of_mem f mem))
    have size : (f.2.write .compact depth).length < (fieldText depth f).length := by
      simp only [fieldText, Str.length_append, show (Str.of ":").length = 1 from rfl]
      omega
    cases fields with
    | nil =>
      rw [fieldsText_singleton] at enough ⊢
      have read := readFields_last (readString_escapes f.1 _)
        (head _ (ends_cons (.inr (.inr rfl)) rest) (by omega))
      rwa [Str.ofList_toList, ← toList_fieldText] at read
    | cons g gs =>
      have comma : (Str.of ",").length = 1 := rfl
      simp only [fieldsText_cons, Str.length_append, comma] at enough
      have room : (fieldsText depth (g :: gs)).length + 1 < fuel := by omega
      have others := tail (List.cons_ne_nil g gs) room
      have read := readFields_more (readString_escapes f.1 _)
        (head _ (ends_cons (.inl rfl) _) (by omega)) others
      rw [Str.ofList_toList, ← toList_fieldText] at read
      rw [fieldsText_cons, Str.toList_append, Str.toList_append, List.append_assoc,
        List.append_assoc]
      exact read

theorem reads_of_succ {j : Json}
    (h : ∀ (depth fuel : Nat) (rest : List Chr), Ends rest →
      (j.write .compact depth).length ≤ fuel →
      readValue (fuel + 1) ((j.write .compact depth).toList ++ rest) = some (j, rest)) :
    j.Reads := by
  intro depth fuel rest stop enough
  obtain ⟨n, rfl⟩ : ∃ n, fuel = n + 1 := ⟨fuel - 1, by omega⟩
  exact h depth n rest stop (Nat.le_of_lt_succ enough)

theorem reads_arr {xs : List Json} (whole : ∀ x ∈ xs, IsWhole x) (each : ∀ x ∈ xs, Reads x) :
    Reads (.arr xs) := by
  refine reads_of_succ fun depth fuel rest _ enough => ?_
  rw [write_arr, Str.length_append, Str.length_append] at enough
  rw [write_arr, Str.toList_append, Str.toList_append, List.append_assoc, List.append_assoc]
  cases xs with
  | nil => rfl
  | cons x xs =>
    have room : (itemsText (depth + 1) (x :: xs)).length + 1 < fuel := by
      have brackets : (Str.of "[").length = 1 ∧ (Str.of "]").length = 1 := ⟨rfl, rfl⟩
      omega
    have read := readItems_itemsText each (List.cons_ne_nil x xs) rest room
    have first := whole x List.mem_cons_self
    obtain ⟨c, cs, same, space, more⟩ := exists_toList_itemsText (depth + 1) xs first
    rw [same] at read ⊢
    exact readValue_items space more read

theorem reads_obj {fields : List (Str × Json)} (each : ∀ f ∈ fields, Reads f.2) :
    Reads (.obj fields) := by
  refine reads_of_succ fun depth fuel rest _ enough => ?_
  rw [write_obj, Str.length_append, Str.length_append] at enough
  rw [write_obj, Str.toList_append, Str.toList_append, List.append_assoc, List.append_assoc]
  cases fields with
  | nil => rfl
  | cons f fields =>
    have room : (fieldsText (depth + 1) (f :: fields)).length + 1 < fuel := by
      have brackets : (Str.of "\x7b").length = 1 ∧ (Str.of "\x7d").length = 1 := ⟨rfl, rfl⟩
      omega
    have read := readFields_fieldsText each (List.cons_ne_nil f fields) rest room
    obtain ⟨cs, same⟩ := exists_toList_fieldsText (depth + 1) f fields
    rw [same] at read ⊢
    exact readValue_fields read

/-- A tree whose numbers are integers is read up to its end. -/
theorem readValue_write {j : Json} (whole : j.IsWhole) : j.Reads := by
  induction whole with
  | null =>
    refine reads_of_succ fun depth fuel rest _ _ => ?_
    simp [write, readValue, skipSpace, isSpace, readWord, show "null".length = 4 from rfl]
  | bool b =>
    refine reads_of_succ fun depth fuel rest _ _ => ?_
    cases b <;>
      simp [write, readValue, skipSpace, isSpace, readWord, show "true".length = 4 from rfl,
        show "false".length = 5 from rfl]
  | int i =>
    refine reads_of_succ fun depth fuel rest stop _ => ?_
    have read := readNumber_ofInt i stop
    obtain ⟨c, cs, same, rfl | digit⟩ := exists_toList_ofInt i
    · rwa [write, same, List.cons_append, readValue_minus, ← List.cons_append, ← same]
    · rwa [write, same, List.cons_append, readValue_digit digit, ← List.cons_append, ← same]
  | str s =>
    refine reads_of_succ fun depth fuel rest _ _ => ?_
    have read : readValue (fuel + 1) _ = _ := readValue_string (readString_escapes s rest)
    rw [Str.ofList_toList] at read
    simpa [write, toList_stringText] using read
  | arr whole each => exact reads_arr whole each
  | obj _ each => exact reads_obj each

/-- What has been written without spaces is read back. -/
theorem read?_text {j : Json} (whole : j.IsWhole) : read? (j.text .compact) = some j := by
  obtain ⟨c, cs, same, space, _⟩ := exists_toList_write 0 whole
  have enough : (j.write .compact 0).length < (c :: cs).length + 1 := by
    rw [← same, Str.length_toList]
    exact Nat.lt_succ_self _
  have read := readValue_write whole 0 _ [] (by simp [Ends]) enough
  rw [List.append_nil, same] at read
  simp only [read?, text, same, skipSpace_cons space, read]
  rfl

/-- A text without spaces belongs to one tree. -/
theorem text_injective {j j' : Json} (whole : j.IsWhole) (whole' : j'.IsWhole)
    (same : j.text .compact = j'.text .compact) : j = j' := by
  have read := read?_text whole
  rw [same, read?_text whole'] at read
  exact (Option.some.inj read).symm

end BoundQuery.Json
