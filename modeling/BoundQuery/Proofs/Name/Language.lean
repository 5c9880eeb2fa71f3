import BoundQuery.Proofs.Name.Characters
import BoundQuery.Proofs.Name.Gates
import Mathlib.Computability.Language
import Mathlib.Order.CompletePartialOrder

/-!
# The languages of names

The three languages of names as languages over characters: sequences, choices and repetitions of
single ASCII characters. A gate lets exactly the texts of its language through, as they are, and
refuses every other value under the name of its use.

## Main definitions

* `Name.names`, `Name.qualifiedNames`, `Name.expressions` — the languages.
* `Name.Recognises` — a gate that lets through exactly the texts of a language.

## Main statements

* `Name.mem_names`, `Name.mem_qualifiedNames`, `Name.mem_expressions` — the tests of the gates.
* `Name.gates_recognise` — the gates, and how their languages lie within each other.
-/

namespace BoundQuery.Name

open scoped Computability

/-- The texts of one character of a class. -/
def single (chars : Set Chr) : Language Chr :=
  {cs | ∃ c ∈ chars, cs = [c]}

/-- The letters of ASCII and the underscore. -/
def letters : Set Chr :=
  {c | 'A' ≤ c ∧ c ≤ 'Z' ∨ 'a' ≤ c ∧ c ≤ 'z' ∨ c = '_'}

/-- The digits of ASCII. -/
def digits : Set Chr :=
  {c | '0' ≤ c ∧ c ≤ '9'}

/-- One or more letters, digits and underscores. -/
def names : Language Chr :=
  single (letters ∪ digits) * (single (letters ∪ digits))∗

/-- Names with single dots between them. -/
def qualifiedNames : Language Chr :=
  names * (single {('.' : Chr)} * names)∗

/-- Names that do not start with a digit. -/
def functions : Language Chr :=
  single letters * (single (letters ∪ digits))∗

def arguments : Language Chr :=
  single {('*' : Chr)} + names + names * single {('.' : Chr)} * names

def calls : Language Chr :=
  functions * single {('(' : Chr)} * arguments * single {(')' : Chr)}

def expressions : Language Chr :=
  qualifiedNames + calls

/-- The gate lets through the texts of the language, as they are, and refuses every other value
under the name of its use. -/
def Recognises (gate : Str → Value → Result Text) (language : Language Chr) : Prop :=
  ∀ (context : Str) (v : Value),
    (∃ t, v = .text t ∧ t.chars ∈ language ∧ gate context v = .ok t) ∨
      (∀ t, v = .text t → t.chars ∉ language) ∧ gate context v = .error (.identifier v context)

variable {chars : Set Chr} {language : Language Chr} {cs : List Chr}

/-! ## Characters -/

theorem mem_single_mul :
    cs ∈ single chars * language ↔ ∃ c ∈ chars, ∃ rest ∈ language, cs = c :: rest := by
  rw [Language.mem_mul]
  constructor
  · rintro ⟨_, ⟨c, mem, rfl⟩, rest, inLanguage, rfl⟩
    exact ⟨c, mem, rest, inLanguage, rfl⟩
  · rintro ⟨c, mem, rest, inLanguage, rfl⟩
    exact ⟨[c], ⟨c, mem, rfl⟩, rest, inLanguage, rfl⟩

theorem mem_mul_single :
    cs ∈ language * single chars ↔ ∃ c ∈ chars, ∃ front ∈ language, cs = front ++ [c] := by
  rw [Language.mem_mul]
  constructor
  · rintro ⟨front, inLanguage, _, ⟨c, mem, rfl⟩, rfl⟩
    exact ⟨c, mem, front, inLanguage, rfl⟩
  · rintro ⟨c, mem, front, inLanguage, rfl⟩
    exact ⟨front, inLanguage, [c], ⟨c, mem, rfl⟩, rfl⟩

theorem mem_kstar_single : cs ∈ (single chars)∗ ↔ ∀ c ∈ cs, c ∈ chars := by
  rw [Language.mem_kstar]
  constructor
  · rintro ⟨texts, rfl, each⟩ c mem
    obtain ⟨text, inTexts, inText⟩ := List.mem_flatten.1 mem
    obtain ⟨d, inClass, rfl⟩ := each text inTexts
    rwa [List.mem_singleton.1 inText]
  · intro each
    refine ⟨cs.map fun c => [c], by rw [← List.flatMap_def, List.flatMap_singleton'],
      fun text mem => ?_⟩
    obtain ⟨c, inText, rfl⟩ := List.mem_map.1 mem
    exact ⟨c, each c inText, rfl⟩

theorem mem_letters {c : Chr} : c ∈ letters ↔ c.isAlpha = true ∨ c = '_' := by
  cases c with
  | scalar c =>
    have spelled : c.isAlpha = (decide (c.val ≥ 'A'.val ∧ c.val ≤ 'Z'.val) ||
        decide (c.val ≥ 'a'.val) && decide (c.val ≤ 'z'.val)) := rfl
    rw [Chr.isAlpha_scalar, spelled, Chr.scalar.injEq]
    simp only [letters, Set.mem_ofPred_eq, Bool.or_eq_true, Bool.and_eq_true, decide_eq_true_eq,
      or_assoc, Chr.scalar.injEq]
    rfl
  | lone unit =>
    have above : ¬Chr.lone unit ≤ 'Z' ∧ ¬Chr.lone unit ≤ 'z' := by
      constructor <;> exact Nat.not_le.2 (Nat.lt_of_lt_of_le (by decide) (Nat.le_add_right _ _))
    simp [letters, Chr.isAlpha, above]

theorem mem_digits {c : Chr} : c ∈ digits ↔ c.isDigit = true := by
  cases c with
  | scalar c =>
    simp only [digits, Set.mem_ofPred_eq, Chr.isDigit, Char.isDigit, Bool.and_eq_true,
      decide_eq_true_eq]
    rfl
  | lone unit =>
    have above : ¬Chr.lone unit ≤ '9' :=
      Nat.not_le.2 (Nat.lt_of_lt_of_le (by decide) (Nat.le_add_right _ _))
    simp [digits, Chr.isDigit, above]

/-- The digits stand before all letters. -/
theorem isDigit_eq_false_of_mem_letters {c : Chr} (mem : c ∈ letters) : c.isDigit = false := by
  rw [← Bool.not_eq_true, ← mem_digits]
  rintro ⟨-, digit⟩
  have last : c.toNat ≤ 57 := digit
  rcases mem with ⟨first, -⟩ | ⟨first, -⟩ | rfl
  · have first : 65 ≤ c.toNat := first
    omega
  · have first : 97 ≤ c.toNat := first
    omega
  · exact absurd digit (by decide)

theorem mem_letters_union_digits {c : Chr} : c ∈ letters ∪ digits ↔ isNameChar c = true := by
  rw [Set.mem_union, mem_letters, mem_digits, isNameChar, Chr.isAlphanum_eq]
  simp only [Bool.or_eq_true, beq_iff_eq]
  tauto

/-! ## Names -/

theorem mem_names : cs ∈ names ↔ isPlain cs = true := by
  rw [names, mem_single_mul]
  simp only [mem_kstar_single, mem_letters_union_digits]
  constructor
  · rintro ⟨c, first, rest, others, rfl⟩
    simpa [isPlain] using ⟨first, others⟩
  · intro plain
    cases cs with
    | nil => cases plain
    | cons c rest =>
      have all := isNameChar_of_isPlain plain
      exact ⟨c, all c List.mem_cons_self, rest, fun d mem => all d (List.mem_cons_of_mem _ mem),
        rfl⟩

theorem mem_functions : cs ∈ functions ↔ isFunction cs = true := by
  rw [functions, mem_single_mul]
  simp only [mem_kstar_single, mem_letters_union_digits]
  constructor
  · rintro ⟨c, letter, rest, others, rfl⟩
    have first := mem_letters_union_digits.1 (.inl letter)
    have notDigit := isDigit_eq_false_of_mem_letters letter
    simpa [isFunction, isPlain] using ⟨⟨first, others⟩, notDigit⟩
  · intro function
    cases cs with
    | nil => cases function
    | cons c rest =>
      simp only [isFunction, isPlain, List.all_cons, List.isEmpty_cons, Bool.not_false,
        Bool.true_and, Bool.and_eq_true, List.all_eq_true, List.headD_cons, Bool.not_eq_true']
        at function
      obtain ⟨⟨first, others⟩, notDigit⟩ := function
      refine ⟨c, mem_letters.2 ?_, rest, others, rfl⟩
      simpa [isNameChar, Chr.isAlphanum_eq, notDigit] using first

/-- A text that is cut at a dot is qualified when both of its parts are. -/
theorem mem_qualifiedNames : cs ∈ qualifiedNames ↔ isQualified cs = true := by
  constructor
  · rintro ⟨first, plain, _, ⟨texts, rfl, each⟩, rfl⟩
    have start := isQualified_of_isPlain (mem_names.1 plain)
    clear plain
    induction texts generalizing first with
    | nil => simpa using start
    | cons text texts ih =>
      obtain ⟨dotted, others⟩ := List.forall_mem_cons.1 each
      obtain ⟨_, rfl, name, plain, rfl⟩ := mem_single_mul.1 dotted
      have joined : isQualified (first ++ .scalar '.' :: name) = true := by
        rw [isQualified_append_dot, start, isQualified_of_isPlain (mem_names.1 plain)]
        rfl
      simpa using ih _ others joined
  · intro qualified
    induction length : cs.length using Nat.strongRecOn generalizing cs with
    | ind n ih =>
      by_cases dotted : .scalar '.' ∈ cs
      · obtain ⟨name, rest, rfl, dotless⟩ := List.eq_append_cons_of_mem dotted
        rw [isQualified_append_dot, Bool.and_eq_true] at qualified
        have plain : isPlain name = true := isQualified_eq_isPlain dotless ▸ qualified.1
        have shorter : rest.length < n := by simp [← length]; omega
        obtain ⟨first, inNames, others, ⟨texts, rfl, each⟩, rfl⟩ :=
          ih rest.length shorter qualified.2 rfl
        refine ⟨name, mem_names.2 plain, _, ⟨(.scalar '.' :: first) :: texts, rfl, ?_⟩, by simp⟩
        exact List.forall_mem_cons.2 ⟨mem_single_mul.2 ⟨'.', rfl, first, inNames, rfl⟩, each⟩
      · have plain : isPlain cs = true := isQualified_eq_isPlain dotted ▸ qualified
        exact ⟨cs, mem_names.2 plain, [], Language.nil_mem_kstar _, by simp⟩

/-! ## Calls -/

theorem mem_names_dot_names : cs ∈ names * single {('.' : Chr)} * names ↔
    ∃ first second, isPlain first = true ∧ isPlain second = true ∧
      cs = first ++ .scalar '.' :: second := by
  constructor
  · rintro ⟨_, dotted, second, plain, rfl⟩
    obtain ⟨_, rfl, first, plain', rfl⟩ := mem_mul_single.1 dotted
    exact ⟨first, second, mem_names.1 plain', mem_names.1 plain, by simp⟩
  · rintro ⟨first, second, plain, plain', rfl⟩
    have dotted : first ++ [('.' : Chr)] ∈ names * single {('.' : Chr)} :=
      mem_mul_single.2 ⟨'.', rfl, first, mem_names.2 plain, rfl⟩
    exact ⟨_, dotted, second, mem_names.2 plain', by simp⟩

theorem length_pieces_pos (cs : List Chr) : 0 < (Chars.pieces '.' cs).length :=
  List.length_pos_iff.2 (Chars.pieces_ne_nil '.' cs)

theorem mem_arguments : cs ∈ arguments ↔ isArgument cs = true := by
  have star : cs ∈ single {('*' : Chr)} ↔ cs = [.scalar '*'] :=
    ⟨fun ⟨_, same, written⟩ => same ▸ written, fun written => ⟨'*', rfl, written⟩⟩
  simp only [arguments, Language.mem_add, star, mem_names, mem_names_dot_names, isArgument,
    Bool.or_eq_true, Bool.and_eq_true, beq_iff_eq, decide_eq_true_eq, or_assoc]
  refine or_congr_right ⟨?_, ?_⟩
  · rintro (plain | ⟨first, second, plain, plain', rfl⟩)
    · refine ⟨isQualified_of_isPlain plain, ?_⟩
      simp [Chars.pieces_of_notMem (dot_notMem_of_isPlain plain)]
    · refine ⟨?_, ?_⟩
      · simp [isQualified_append_dot, isQualified_of_isPlain, plain, plain']
      · simp [Chars.pieces_append_cons, Chars.pieces_of_notMem, dot_notMem_of_isPlain, plain,
          plain']
  · rintro ⟨qualified, short⟩
    by_cases dotted : .scalar '.' ∈ cs
    · obtain ⟨first, second, rfl, dotless⟩ := List.eq_append_cons_of_mem dotted
      rw [isQualified_append_dot, Bool.and_eq_true, isQualified_eq_isPlain dotless] at qualified
      have dotless' : .scalar '.' ∉ second := by
        intro again
        obtain ⟨third, fourth, rfl, -⟩ := List.eq_append_cons_of_mem again
        have pieces := length_pieces_pos first
        have pieces' := length_pieces_pos third
        have pieces'' := length_pieces_pos fourth
        simp only [Chars.pieces_append_cons, List.length_append] at short
        omega
      rw [isQualified_eq_isPlain dotless'] at qualified
      exact .inr ⟨first, second, qualified.1, qualified.2, rfl⟩
    · exact .inl (isQualified_eq_isPlain dotted ▸ qualified)

/-- A call is a function name, up to the first character that is in no name, and an argument. -/
theorem isCall_iff : isCall cs = true ↔ ∃ function argument, isFunction function = true ∧
    isArgument argument = true ∧ cs = function ++ .scalar '(' :: (argument ++ [(')' : Chr)]) := by
  constructor
  · intro call
    unfold isCall at call
    split at call
    · next rest cut =>
      simp only [Bool.and_eq_true, beq_iff_eq] at call
      obtain ⟨⟨named, last⟩, inside⟩ := call
      obtain ⟨argument, rfl⟩ := List.getLast?_eq_some_iff.1 last
      rw [List.dropLast_concat] at inside
      refine ⟨_, argument, named, inside, ?_⟩
      rw [← cut, List.takeWhile_append_dropWhile]
    · cases call
  · rintro ⟨function, argument, named, inside, rfl⟩
    have plain : isPlain function = true := (Bool.and_eq_true_iff.1 named).1
    have all := isNameChar_of_isPlain plain
    have none : isNameChar '(' = false := rfl
    rw [isCall, List.dropWhile_append_of_pos all, List.takeWhile_append_of_pos all]
    simp [none, named, inside]

theorem mem_calls : cs ∈ calls ↔ isCall cs = true := by
  rw [isCall_iff]
  constructor
  · intro closed
    obtain ⟨_, rfl, _, ⟨_, opened, argument, inside, rfl⟩, rfl⟩ := mem_mul_single.1 closed
    obtain ⟨_, rfl, function, named, rfl⟩ := mem_mul_single.1 opened
    exact ⟨function, argument, mem_functions.1 named, mem_arguments.1 inside, by simp⟩
  · rintro ⟨function, argument, named, inside, rfl⟩
    have opened : function ++ [('(' : Chr)] ∈ functions * single {('(' : Chr)} :=
      mem_mul_single.2 ⟨'(', rfl, function, mem_functions.2 named, rfl⟩
    have body := Language.append_mem_mul opened (mem_arguments.2 inside)
    exact mem_mul_single.2 ⟨')', rfl, _, body, by simp⟩

theorem mem_expressions : cs ∈ expressions ↔ isExpression cs = true := by
  rw [expressions, Language.mem_add, mem_qualifiedNames, mem_calls, isExpression, Bool.or_eq_true,
    or_comm]

/-! ## Gates -/

theorem recognises_gate {test : List Chr → Bool} (same : ∀ cs, cs ∈ language ↔ test cs = true) :
    Recognises (gate test) language := by
  intro context v
  cases v with
  | text t =>
    by_cases spoken : test t.chars = true
    · exact .inl ⟨t, rfl, (same _).2 spoken, gate_eq_ok_iff.2 ⟨rfl, spoken⟩⟩
    · refine .inr ⟨?_, by simp [gate, spoken]⟩
      rintro _ ⟨⟩ mem
      exact spoken ((same _).1 mem)
  | _ =>
    refine .inr ⟨fun t same => ?_, rfl⟩
    cases same

/-- Each language is part of the next one, and not all of it. -/
theorem names_lt_qualifiedNames : names < qualifiedNames := by
  refine lt_iff_le_not_ge.2 ⟨fun cs mem => ?_, fun all => ?_⟩
  · exact mem_qualifiedNames.2 (isQualified_of_isPlain (mem_names.1 mem))
  · have dotted : Str.toList "users.id" ∈ names := all (mem_qualifiedNames.2 (by decide))
    exact absurd (mem_names.1 dotted) (by decide)

theorem qualifiedNames_lt_expressions : qualifiedNames < expressions := by
  refine lt_iff_le_not_ge.2 ⟨fun cs mem => .inl mem, fun all => ?_⟩
  have call : Str.toList "COUNT(*)" ∈ qualifiedNames := all (mem_expressions.2 (by decide))
  exact absurd (mem_qualifiedNames.1 call) (by decide)

/-- The gates let exactly the texts of their languages through, each of which is part of the
next. -/
theorem gates_recognise :
    Recognises plain names ∧ Recognises qualified qualifiedNames ∧
      Recognises expression expressions ∧ names < qualifiedNames ∧ qualifiedNames < expressions ∧
      ∀ v, isValid v = true ↔ ∃ t, v = .text t ∧ t.chars ∈ names := by
  refine ⟨recognises_gate fun _ => mem_names, recognises_gate fun _ => mem_qualifiedNames,
    recognises_gate fun _ => mem_expressions, names_lt_qualifiedNames,
    qualifiedNames_lt_expressions, fun v => ?_⟩
  cases v with
  | text t => simp [isValid, mem_names]
  | _ => simp [isValid]

end BoundQuery.Name
