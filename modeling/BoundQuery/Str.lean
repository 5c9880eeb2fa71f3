/-!
# Texts

A text is a list of code points. Surrogates are code points as well: one that is not part of a pair
may stand in a text, though no encoding has bytes for it. The characters of the standard library
leave the surrogates out, so texts are lists of their own.
-/

namespace BoundQuery

/-- A code point: a character, or a surrogate. -/
inductive Chr where
  | scalar (c : Char)
  | lone (unit : Fin 0x800)
  deriving DecidableEq, Repr

namespace Chr

instance : Coe Char Chr := ⟨scalar⟩

instance : Inhabited Chr := ⟨'\x00'⟩

def toNat : Chr → Nat
  | scalar c => c.toNat
  | lone unit => 0xd800 + unit

/-- The code point with a number below `0x110000`. -/
def ofNat (n : Nat) : Chr :=
  if h : 0xd800 ≤ n ∧ n < 0xe000 then lone ⟨n - 0xd800, by omega⟩ else scalar (Char.ofNat n)

@[simp] theorem toNat_scalar (c : Char) : (scalar c).toNat = c.toNat := rfl

/-- No character has the number of a surrogate. -/
theorem toNat_inj {c d : Chr} : c.toNat = d.toNat ↔ c = d := by
  refine ⟨fun h => ?_, congrArg toNat⟩
  cases c with
  | scalar c =>
    have proper := c.valid
    cases d with
    | scalar d => exact congrArg scalar (Char.toNat_inj.1 h)
    | lone unit =>
      change c.val.toNat = 0xd800 + unit at h
      rcases proper with proper | proper <;> omega
  | lone unit =>
    cases d with
    | scalar d =>
      have proper := d.valid
      change 0xd800 + unit = d.val.toNat at h
      rcases proper with proper | proper <;> omega
    | lone unit' => exact congrArg lone (Fin.ext (Nat.add_left_cancel h))

def toUpper : Chr → Chr
  | scalar c => scalar c.toUpper
  | lone unit => lone unit

def toLower : Chr → Chr
  | scalar c => scalar c.toLower
  | lone unit => lone unit

instance : LE Chr := ⟨fun c d => c.toNat ≤ d.toNat⟩

instance (c d : Chr) : Decidable (c ≤ d) :=
  inferInstanceAs (Decidable (c.toNat ≤ d.toNat))

def char? : Chr → Option Char
  | scalar c => some c
  | lone _ => none

def isDigit : Chr → Bool
  | scalar c => c.isDigit
  | lone _ => false

def isAlpha : Chr → Bool
  | scalar c => c.isAlpha
  | lone _ => false

def isAlphanum : Chr → Bool
  | scalar c => c.isAlphanum
  | lone _ => false

@[simp] theorem isDigit_scalar (c : Char) : (scalar c).isDigit = c.isDigit := rfl

@[simp] theorem isAlpha_scalar (c : Char) : (scalar c).isAlpha = c.isAlpha := rfl

@[simp] theorem isAlphanum_scalar (c : Char) : (scalar c).isAlphanum = c.isAlphanum := rfl

@[simp] theorem char?_scalar (c : Char) : (scalar c).char? = some c := rfl

theorem toNat_ofNat {n : Nat} (h : n < 0x110000) : (ofNat n).toNat = n := by
  unfold ofNat
  split
  · next surrogate =>
    change 0xd800 + (n - 0xd800) = n
    omega
  · next scalar =>
    have valid : n.isValidChar := by
      simp only [Nat.isValidChar]
      omega
    rw [toNat_scalar, Char.ofNat, dif_pos valid]
    rfl

/-- A number that is too large stands for the first code point. -/
theorem ofNat_of_le {n : Nat} (h : 0x110000 ≤ n) : ofNat n = '\x00' := by
  have invalid : ¬n.isValidChar := by
    simp only [Nat.isValidChar]
    omega
  rw [ofNat, dif_neg (by omega), Char.ofNat, dif_neg invalid]
  rfl

@[simp] theorem ofNat_toNat (c : Chr) : ofNat c.toNat = c := by
  refine toNat_inj.1 (toNat_ofNat ?_)
  cases c with
  | scalar c =>
    have proper := c.valid
    change c.val.toNat < 0x110000
    rcases proper with proper | proper <;> omega
  | lone unit =>
    change 0xd800 + unit.val < 0x110000
    omega

@[simp] theorem filterMap_char?_map_scalar (cs : List Char) :
    (cs.map scalar).filterMap char? = cs := by
  simp [List.filterMap_map, Function.comp_def]

/-- The decimal digits of a number. -/
def digits (n : Nat) : List Chr :=
  (Nat.toDigits 10 n).map scalar

/-- The number that some decimal digits say. -/
def numberOf (cs : List Chr) : Nat :=
  Nat.ofDigitChars 10 (cs.filterMap char?) 0

@[simp] theorem numberOf_digits (n : Nat) : numberOf (digits n) = n := by
  rw [numberOf, digits, filterMap_char?_map_scalar, Nat.ofDigitChars_ten_toDigits]

@[simp] theorem digits_ne_nil (n : Nat) : digits n ≠ [] := by
  simp [digits, Nat.toDigits_ne_nil]

theorem isDigit_of_mem_digits {n : Nat} {c : Chr} (h : c ∈ digits n) : c.isDigit = true := by
  obtain ⟨digit, mem, rfl⟩ := List.mem_map.1 h
  exact Nat.isDigit_of_mem_toDigits (by decide) (by decide) mem

theorem isAlphanum_eq (c : Chr) : c.isAlphanum = (c.isAlpha || c.isDigit) := by
  cases c <;> rfl

theorem isAlphanum_of_isDigit {c : Chr} (h : c.isDigit = true) : c.isAlphanum = true := by
  rw [isAlphanum_eq, h, Bool.or_true]

end Chr

/-- A text: any code points, one after another. -/
structure Str where
  ofList ::
  toList : List Chr
  deriving DecidableEq, Repr

namespace Str

/-- The text of a string of characters. -/
def of (s : String) : Str :=
  ⟨s.toList.map .scalar⟩

instance : Coe String Str := ⟨of⟩

instance : Inhabited Str := ⟨""⟩

instance : Append Str := ⟨fun s t => ⟨s.toList ++ t.toList⟩⟩

def ofNat (n : Nat) : Str :=
  ⟨Chr.digits n⟩

def ofInt (i : Int) : Str :=
  (if i < 0 then "-" else "") ++ ofNat i.natAbs

def length (s : Str) : Nat :=
  s.toList.length

def isEmpty (s : Str) : Bool :=
  s.toList.isEmpty

def singleton (c : Chr) : Str :=
  ⟨[c]⟩

def startsWith (s start : Str) : Bool :=
  start.toList.isPrefixOf s.toList

def join : List Str → Str
  | [] => ""
  | s :: rest => s ++ join rest

def intercalate (separator : Str) : List Str → Str
  | [] => ""
  | [s] => s
  | s :: t :: rest => s ++ separator ++ intercalate separator (t :: rest)

/-- The string of a text without surrogates. -/
def string? (s : Str) : Option String :=
  (s.toList.mapM Chr.char?).map String.ofList

/-- Texts are ordered by the numbers of their code points. -/
instance : LT Str := ⟨fun s t => s.toList.map Chr.toNat < t.toList.map Chr.toNat⟩

instance : LE Str := ⟨fun s t => ¬t < s⟩

instance (s t : Str) : Decidable (s < t) :=
  inferInstanceAs (Decidable (s.toList.map Chr.toNat < t.toList.map Chr.toNat))

instance (s t : Str) : Decidable (s ≤ t) :=
  inferInstanceAs (Decidable (¬t < s))

/-! ## Lists of code points -/

section
variable {s t u : Str} {cs ds : List Chr}

@[ext] theorem ext (h : s.toList = t.toList) : s = t := by
  cases s
  cases t
  exact congrArg ofList h

@[simp] theorem ofList_toList : ofList s.toList = s := rfl

@[simp] theorem toList_inj : s.toList = t.toList ↔ s = t :=
  ⟨ext, congrArg toList⟩

@[simp] theorem toList_ofNat (n : Nat) : (ofNat n).toList = Chr.digits n := rfl

@[simp] theorem toList_append : (s ++ t).toList = s.toList ++ t.toList := rfl

@[simp] theorem ofList_inj : ofList cs = ofList ds ↔ cs = ds :=
  ⟨congrArg toList, congrArg ofList⟩

@[simp] theorem ofList_append : ofList (cs ++ ds) = ofList cs ++ ofList ds := rfl

@[simp] theorem toList_singleton (c : Chr) : (singleton c).toList = [c] := rfl

@[simp] theorem length_toList : s.toList.length = s.length := rfl

@[simp] theorem length_append : (s ++ t).length = s.length + t.length :=
  List.length_append

@[simp] theorem length_singleton (c : Chr) : (singleton c).length = 1 := rfl

theorem append_assoc : s ++ t ++ u = s ++ (t ++ u) :=
  ext (List.append_assoc ..)

/-! ## Strings of characters -/

@[simp] theorem toList_of (s : String) : (of s).toList = s.toList.map .scalar := rfl

@[simp] theorem of_inj {s t : String} : of s = of t ↔ s = t := by
  rw [← toList_inj, toList_of, toList_of, List.map_inj_right fun _ _ => Chr.scalar.inj,
    String.toList_inj]

@[simp] theorem length_of (s : String) : (of s).length = s.length := by
  rw [length, toList_of, List.length_map, String.length_toList]

@[simp] theorem of_ite (c : Prop) [Decidable c] (s t : String) :
    of (if c then s else t) = if c then of s else of t :=
  apply_ite of c s t

@[simp] theorem string?_of (s : String) : (of s).string? = some s := by
  have each : (s.toList.map Chr.scalar).mapM Chr.char? = some s.toList := by
    induction s.toList with
    | nil => rfl
    | cons c cs ih => simp [ih]
  simp [string?, each]

theorem string?_eq_some_iff {s : Str} {t : String} : s.string? = some t ↔ s = of t := by
  refine ⟨fun h => ?_, fun h => by rw [h, string?_of]⟩
  obtain ⟨cs, each, rfl⟩ := Option.map_eq_some_iff.1 h
  rw [← toList_inj, toList_of, String.toList_ofList]
  clear h
  generalize s.toList = ds at each
  induction ds generalizing cs with
  | nil =>
    cases each
    rfl
  | cons d ds ih =>
    cases d with
    | lone unit => simp [Chr.char?] at each
    | scalar c =>
      rw [List.mapM_cons, Chr.char?_scalar] at each
      obtain ⟨rest, rests, rfl⟩ : ∃ rest, ds.mapM Chr.char? = some rest ∧ c :: rest = cs := by
        simpa [Option.bind_eq_some_iff] using each
      rw [ih rest rests, List.map_cons]

/-! ## The empty text -/

@[simp] theorem ofList_nil : ofList [] = "" := rfl

@[simp] theorem empty_append : "" ++ s = s := rfl

@[simp] theorem append_empty : s ++ "" = s :=
  ext (List.append_nil _)

@[simp] theorem toList_eq_nil_iff : s.toList = [] ↔ s = "" := by
  rw [← toList_inj]
  rfl

@[simp] theorem isEmpty_iff : s.isEmpty = true ↔ s = "" := by
  rw [isEmpty, List.isEmpty_iff, toList_eq_nil_iff]

@[simp] theorem isEmpty_eq_false_iff : s.isEmpty = false ↔ s ≠ "" := by
  rw [← Bool.not_eq_true, isEmpty_iff]

@[simp] theorem length_eq_zero_iff : s.length = 0 ↔ s = "" := by
  rw [length, List.length_eq_zero_iff, toList_eq_nil_iff]

@[simp] theorem append_eq_empty_iff : s ++ t = "" ↔ s = "" ∧ t = "" := by
  simp [← toList_eq_nil_iff]

@[simp] theorem ofList_eq_empty_iff : ofList cs = "" ↔ cs = [] := by
  simp [← toList_eq_nil_iff]

@[simp] theorem append_right_inj (s : Str) {t u : Str} : s ++ t = s ++ u ↔ t = u := by
  simp [← toList_inj]

@[simp] theorem append_left_inj (s : Str) {t u : Str} : t ++ s = u ++ s ↔ t = u := by
  simp [← toList_inj]

end

/-! ## Lists of texts -/

section
variable {s t separator : Str} {l m : List Str}

@[simp] theorem join_nil : join [] = "" := rfl

@[simp] theorem join_cons : join (s :: l) = s ++ join l := rfl

@[simp] theorem join_append : join (l ++ m) = join l ++ join m := by
  induction l with
  | nil => rfl
  | cons s l ih => simp [ih, append_assoc]

@[simp] theorem toList_join : (join l).toList = l.flatMap toList := by
  induction l with
  | nil => rfl
  | cons s l ih => simp [ih]

@[simp] theorem intercalate_nil : intercalate separator [] = "" := rfl

@[simp] theorem intercalate_singleton : intercalate separator [s] = s := rfl

@[simp] theorem intercalate_cons_cons :
    intercalate separator (s :: t :: l) = s ++ separator ++ intercalate separator (t :: l) := rfl

theorem intercalate_cons_of_ne_nil (h : l ≠ []) :
    intercalate separator (s :: l) = s ++ separator ++ intercalate separator l := by
  cases l with
  | nil => exact absurd rfl h
  | cons t l => rfl

theorem intercalate_append_of_ne_nil (h : l ≠ []) (h' : m ≠ []) :
    intercalate separator (l ++ m) =
      intercalate separator l ++ separator ++ intercalate separator m := by
  induction l with
  | nil => exact absurd rfl h
  | cons s l ih =>
    cases l with
    | nil => exact intercalate_cons_of_ne_nil h'
    | cons t l =>
      rw [intercalate_cons_cons, List.cons_append, List.cons_append, intercalate_cons_cons,
        ← List.cons_append, ih (List.cons_ne_nil t l)]
      simp [append_assoc]

@[simp] theorem toList_intercalate :
    (intercalate separator l).toList = separator.toList.intercalate (l.map toList) := by
  induction l with
  | nil => rfl
  | cons s l ih =>
    cases l with
    | nil => simp [List.intercalate]
    | cons t l =>
      rw [intercalate_cons_cons, toList_append, ih]
      simp [List.intercalate]

end

/-! ## Order -/

theorem not_lt {s t : Str} : ¬s < t ↔ t ≤ s := .rfl

theorem not_le {s t : Str} : ¬s ≤ t ↔ t < s := Decidable.not_not

theorem le_total (s t : Str) : s ≤ t ∨ t ≤ s :=
  List.le_total (s.toList.map Chr.toNat) (t.toList.map Chr.toNat)

theorem le_trans {s t u : Str} (h : s ≤ t) (h' : t ≤ u) : s ≤ u :=
  List.not_lt.2 (List.le_trans (List.not_lt.1 h) (List.not_lt.1 h'))

theorem le_antisymm {s t : Str} (h : s ≤ t) (h' : t ≤ s) : s = t :=
  ext ((List.map_inj_right fun _ _ => Chr.toNat_inj.1).1
    (List.le_antisymm (List.not_lt.1 h) (List.not_lt.1 h')))

end Str
end BoundQuery
