import BoundQuery.GraphQuery.Pattern
import BoundQuery.Proofs.Name.Characters
import BoundQuery.Proofs.Name.Gates
import BoundQuery.Proofs.Result

/-!
# Elements of a path

A node or a relationship is written with its name, its labels or its type and the keys of its
properties, each of which may be missing, and no two elements need anything between them. What has
been written can be read again: the brackets, colons, blanks and arrows around the parts stand in
none of them, and an arrow ends with the only `>` that can follow a bracket.

## Main definitions

* `PathElement.text` — how an element is written.
* `PathElement.readAll` — how a path is read.

## Main statements

* `PathElement.readAll_texts` — what is written is read back.
-/

namespace BoundQuery

/-! ## Texts that are cut -/

namespace Chars

variable {separator : Chr} {cs before : List Chr}

theorem breakAt?_of_notMem (absent : separator ∉ cs) : breakAt? separator cs = none := by
  induction cs with
  | nil => rfl
  | cons c cs ih =>
    obtain ⟨first, rest⟩ := List.ne_and_not_mem_of_not_mem_cons absent
    simp [breakAt?, first.symm, ih rest]

theorem breakAt?_append_cons (absent : separator ∉ before) (after : List Chr) :
    breakAt? separator (before ++ separator :: after) = some (before, after) := by
  induction before with
  | nil => simp [breakAt?]
  | cons c before ih =>
    obtain ⟨first, rest⟩ := List.ne_and_not_mem_of_not_mem_cons absent
    simp [breakAt?, first.symm, ih rest]

/-- The pieces of texts with the separator in front of each. -/
theorem pieces_append_flatMap (absent : separator ∉ before) {parts : List (List Chr)}
    (apart : ∀ part ∈ parts, separator ∉ part) :
    pieces separator (before ++ parts.flatMap (separator :: ·)) = before :: parts := by
  induction parts generalizing before with
  | nil => simp [pieces_of_notMem absent]
  | cons part parts ih =>
    obtain ⟨first, others⟩ := List.forall_mem_cons.1 apart
    rw [List.flatMap_cons, List.cons_append, pieces_append_cons, pieces_of_notMem absent,
      ih first others]
    rfl

end Chars

/-! ## Names that are written -/

namespace Text

/-- The text that is written with some characters: a member of a vocabulary or the characters
themselves. -/
def ofShown (cs : List Chr) : Text :=
  match Term.ofShown? (Str.ofList cs) with
  | some t => .term t
  | none => .plain (Str.ofList cs)

theorem dot_mem_shown_term (t : Term) : .scalar '.' ∈ t.shown.toList := by
  cases t <;> simp [Term.shown]

theorem ofShown_shown {t : Text} (plain : Name.isPlain t.chars = true) :
    ofShown t.shown.toList = t := by
  unfold ofShown
  rw [Str.ofList_toList]
  cases t with
  | plain s =>
    have unknown : Term.ofShown? s = none := by
      cases found : Term.ofShown? s with
      | none => rfl
      | some t =>
        have same := List.find?_some (p := fun t : Term => t.shown == s) found
        have dot := dot_mem_shown_term t
        rw [beq_iff_eq.1 same] at dot
        exact absurd (Name.isNameChar_of_isPlain plain _ dot) (by decide)
    simp [shown, unknown]
  | term t =>
    have known : Term.ofShown? t.shown = some t := by
      cases t with
      | operator op => cases op <;> rfl
      | joinType j => cases j <;> rfl
      | sortDirection d => cases d <;> rfl
      | relDirection d => cases d <;> rfl
    simp [shown, known]

theorem forall_mem_shown {t : Text} (plain : Name.isPlain t.chars = true) :
    ∀ c ∈ t.shown.toList, Name.isNameChar c = true ∨ c = '.' := by
  cases t with
  | plain s => exact fun c mem => Or.inl (Name.isNameChar_of_isPlain plain c mem)
  | term t => exact t.forall_mem_shown

end Text

/-! ## Elements -/

/-- What only nodes or only relationships have. -/
inductive Shape where
  | node (labels : List Text)
  | relationship (direction : RelDirection) (type : Option Text)
  deriving DecidableEq, Repr

/-- The parameter that properties are read from and the keys that are read. -/
structure PropertyNames where
  param : Str
  keys : List Text
  deriving DecidableEq, Repr

structure PathElement where
  shape : Shape
  identifier : Option Str := none
  properties : Option PropertyNames := none
  deriving DecidableEq, Repr

namespace Shape

def opening : Shape → Str
  | node _ => "("
  | relationship direction _ => Pattern.tailOf direction ++ "["

def closing : Shape → Str
  | node _ => ")"
  | relationship direction _ => "]" ++ Pattern.tipOf direction

def names : Shape → List Text
  | node labels => labels
  | relationship _ type => type.toList

end Shape

namespace PropertyNames

def text (p : PropertyNames) : Str :=
  Pattern.propertiesText p.param p.keys

/-- Some keys that are plain names, and a parameter whose name ends before a dot. -/
structure IsWritable (p : PropertyNames) : Prop where
  param : ∀ c ∈ p.param.toList, Name.isNameChar c = true
  nonempty : p.keys ≠ []
  keys : ∀ key ∈ p.keys, Name.isPlain key.chars = true

end PropertyNames

namespace PathElement

/-- What stands between the brackets of an element. -/
def inside (e : PathElement) : Str :=
  e.identifier.getD "" ++ Str.join (e.shape.names.map fun name => ":" ++ name.shown) ++
    e.properties.elim ("" : Str) PropertyNames.text

def text (e : PathElement) : Str :=
  e.shape.opening ++ e.inside ++ e.shape.closing

structure IsWritable (e : PathElement) : Prop where
  identifier : ∀ s ∈ e.identifier, Name.isPlain s.toList = true
  names : ∀ name ∈ e.shape.names, Name.isPlain name.chars = true
  properties : ∀ p ∈ e.properties, p.IsWritable

/-! ## Reading -/

/-- A key and the parameter that it is read from, with blanks in front. -/
def readProperty (cs : List Chr) : Option (Str × Text) := do
  let (key, value) ← Chars.breakAt? ':' (cs.dropWhile (· == (' ' : Chr)))
  let (param, _) ← Chars.breakAt? '.' (value.drop 2)
  return (Str.ofList param, Text.ofShown key)

/-- Properties between braces. -/
def readProperties (cs : List Chr) : Option PropertyNames := do
  let entries ← (Chars.pieces ',' (cs.drop 1).dropLast).mapM readProperty
  let (param, _) ← entries.head?
  return { param, keys := entries.map Prod.snd }

/-- An identifier, if there is one, and names with a colon in front of each. -/
def readHead (cs : List Chr) : Option Str × List Text :=
  match Chars.pieces ':' cs with
  | [] => (none, [])
  | first :: names =>
    (if first.isEmpty then none else some (Str.ofList first), names.map Text.ofShown)

/-- What stands between the brackets of an element of the given shape. -/
def readInside (shape : List Text → Shape) (cs : List Chr) : Option PathElement :=
  match Chars.breakAt? ' ' cs with
  | none =>
    let (identifier, names) := readHead cs
    some { shape := shape names, identifier }
  | some (head, rest) =>
    let (identifier, names) := readHead head
    (readProperties rest).map fun properties =>
      { shape := shape names, identifier, properties := some properties }

/-- The direction of a relationship that begins with a plain line, and what follows it. -/
def readTip : List Chr → Option (RelDirection × List Chr)
  | '-' :: '>' :: rest => some (.outward, rest)
  | '-' :: rest => some (.undirected, rest)
  | _ => none

/-- The first element and what follows it. -/
def readFirst : List Chr → Option (PathElement × List Chr)
  | '(' :: cs => do
    let (inside, rest) ← Chars.breakAt? ')' cs
    return (← readInside .node inside, rest)
  | '<' :: '-' :: '[' :: cs => do
    let (inside, rest) ← Chars.breakAt? ']' cs
    return (← readInside (fun names => .relationship .inward names.head?) inside, rest.drop 1)
  | '-' :: '[' :: cs => do
    let (inside, rest) ← Chars.breakAt? ']' cs
    let (direction, rest) ← readTip rest
    return (← readInside (fun names => .relationship direction names.head?) inside, rest)
  | _ => none

/-- The elements of a path, one after the other. -/
def readAll (cs : List Chr) : Option (List PathElement) :=
  if cs.isEmpty then some []
  else
    match readFirst cs with
    | none => none
    | some (e, rest) =>
      if _ : rest.length < cs.length then (readAll rest).map (e :: ·) else none
termination_by cs.length

/-! ## Reading what has been written -/

section
variable {param : Str} {key : Text} {keys : List Text} {x : Chr}

theorem notMem_of_isPlain {cs : List Chr} (plain : Name.isPlain cs = true)
    (other : Name.isNameChar x = false) : x ∉ cs := by
  intro mem
  rw [Name.isNameChar_of_isPlain plain x mem] at other
  cases other

theorem notMem_shown (plain : Name.isPlain key.chars = true) (other : Name.isNameChar x = false)
    (dot : x ≠ '.') : x ∉ key.shown.toList := by
  intro mem
  rcases Text.forall_mem_shown plain x mem with name | same
  · rw [name] at other
    cases other
  · exact dot same

theorem toList_propertyText (param : Str) (key : Text) :
    (Pattern.propertyText param key).toList =
      key.shown.toList ++ .scalar ':' :: .scalar ' ' :: .scalar '$' ::
        (param.toList ++ .scalar '.' :: key.shown.toList) := by
  simp [Pattern.propertyText]

theorem readProperty_text (word : ∀ c ∈ param.toList, Name.isNameChar c = true)
    (plain : Name.isPlain key.chars = true) (blanks : List Chr) (blank : ∀ c ∈ blanks, c = ' ') :
    readProperty (blanks ++ (Pattern.propertyText param key).toList) = some (param, key) := by
  have start : (blanks ++ (Pattern.propertyText param key).toList).dropWhile (· == (' ' : Chr)) =
      (Pattern.propertyText param key).toList := by
    rw [List.dropWhile_append_of_pos (by simpa using blank), toList_propertyText]
    have unblank := notMem_shown plain (x := ' ') (by decide) (by decide)
    cases written : key.shown.toList with
    | nil => rfl
    | cons c cs =>
      rw [written] at unblank
      simp [(List.ne_and_not_mem_of_not_mem_cons unblank).1.symm]
  have dotless : .scalar '.' ∉ param.toList := fun mem => absurd (word '.' mem) (by decide)
  have key' := Text.ofShown_shown plain
  rw [readProperty, start, toList_propertyText,
    Chars.breakAt?_append_cons (notMem_shown plain (by decide) (by decide))]
  simp [Chars.breakAt?_append_cons dotless, key']

theorem toList_intercalate_cons (separator s : Str) (texts : List Str) :
    (Str.intercalate separator (s :: texts)).toList =
      s.toList ++ texts.flatMap fun t => separator.toList ++ t.toList := by
  induction texts generalizing s with
  | nil => simp
  | cons t texts ih =>
    rw [Str.intercalate_cons_cons, Str.toList_append, ih]
    simp

/-- The characters of properties that stand in no name. -/
def marks : List Chr :=
  ['.', ':', ' ', '$']

theorem notMem_propertyText (word : ∀ c ∈ param.toList, Name.isNameChar c = true)
    (plain : Name.isPlain key.chars = true) (other : Name.isNameChar x = false)
    (mark : x ∉ marks) : x ∉ (Pattern.propertyText param key).toList := by
  simp only [marks, List.mem_cons, List.not_mem_nil, or_false, not_or] at mark
  have name := notMem_shown plain other mark.1
  have param : x ∉ param.toList := by
    intro mem
    rw [word x mem] at other
    cases other
  simp [toList_propertyText, name, param, mark]

theorem toList_text (param : Str) (key : Text) (keys : List Text) :
    (PropertyNames.text ⟨param, key :: keys⟩).toList =
      .scalar ' ' :: .scalar '\x7b' :: ((Pattern.propertyText param key).toList ++
        (keys.map fun k => .scalar ' ' :: (Pattern.propertyText param k).toList).flatMap
          (.scalar ',' :: ·) ++
          [.scalar '\x7d']) := by
  rw [PropertyNames.text, Pattern.propertiesText, Str.toList_append, Str.toList_append,
    List.map_cons, toList_intercalate_cons]
  simp [List.flatMap_map]

theorem exists_readProperties {p : PropertyNames} (writable : p.IsWritable) :
    ∃ braced, p.text.toList = .scalar ' ' :: braced ∧ readProperties braced = some p := by
  obtain ⟨param, keys⟩ := p
  obtain ⟨word, nonempty, plain⟩ := writable
  obtain ⟨key, keys, rfl⟩ := List.exists_cons_of_ne_nil nonempty
  obtain ⟨first, others⟩ := List.forall_mem_cons.1 plain
  have commas : ∀ part ∈ keys.map fun k => .scalar ' ' :: (Pattern.propertyText param k).toList,
      .scalar ',' ∉ part := by
    intro part mem
    obtain ⟨k, inKeys, rfl⟩ := List.mem_map.1 mem
    simpa using notMem_propertyText word (others k inKeys) (x := ',') (by decide) (by decide)
  have here : readProperty (Pattern.propertyText param key).toList = some (param, key) :=
    readProperty_text word first [] (by simp)
  have later : keys.mapM
      (fun k => readProperty (.scalar ' ' :: (Pattern.propertyText param k).toList)) =
      some (keys.map (param, ·)) :=
    Result.mapM_of_some fun k mem => readProperty_text word (others k mem) [' '] (by simp)
  refine ⟨_, toList_text param key keys, ?_⟩
  rw [readProperties, List.drop_one, List.tail_cons, List.dropLast_concat,
    Chars.pieces_append_flatMap (notMem_propertyText word first (by decide) (by decide)) commas,
    List.mapM_cons, List.mapM_map]
  simp [here, Function.comp_def, later]

/-- The characters that only end what stands between brackets. -/
theorem notMem_text {p : PropertyNames} (writable : p.IsWritable)
    (other : Name.isNameChar x = false) (mark : x ∉ marks ++ [(',' : Chr), '\x7b', '\x7d']) :
    x ∉ p.text.toList := by
  obtain ⟨param, keys⟩ := p
  obtain ⟨word, nonempty, plain⟩ := writable
  obtain ⟨key, keys, rfl⟩ := List.exists_cons_of_ne_nil nonempty
  rw [List.mem_append, not_or] at mark
  have each : ∀ k ∈ key :: keys, x ∉ (Pattern.propertyText param k).toList := fun k mem =>
    notMem_propertyText word (plain k mem) other mark.1
  obtain ⟨first, others⟩ := List.forall_mem_cons.1 each
  have blank : x ≠ ' ' := fun same => mark.1 (by simp [same, marks])
  have rest := mark.2
  simp only [List.mem_cons, List.not_mem_nil, or_false, not_or] at rest
  simp [toList_text, first, blank, rest]
  exact others

theorem notMem_head {identifier : Option Str} {names : List Text}
    (plain : ∀ s ∈ identifier, Name.isPlain s.toList = true)
    (each : ∀ name ∈ names, Name.isPlain name.chars = true) (other : Name.isNameChar x = false)
    (dot : x ≠ '.') (colon : x ≠ ':') :
    x ∉ (identifier.getD ("" : Str)).toList ++
      names.flatMap fun name => .scalar ':' :: name.shown.toList := by
  have left : x ∉ (identifier.getD ("" : Str)).toList := by
    cases identifier with
    | none => simp
    | some s => exact notMem_of_isPlain (plain s rfl) other
  have right : ∀ name ∈ names, x ∉ name.shown.toList := fun name mem =>
    notMem_shown (each name mem) other dot
  simpa [left, colon] using right

theorem readHead_text {identifier : Option Str} {names : List Text}
    (plain : ∀ s ∈ identifier, Name.isPlain s.toList = true)
    (each : ∀ name ∈ names, Name.isPlain name.chars = true) :
    readHead ((identifier.getD ("" : Str)).toList ++
      names.flatMap fun name => .scalar ':' :: name.shown.toList) = (identifier, names) := by
  have colon : .scalar ':' ∉ (identifier.getD ("" : Str)).toList := by
    cases identifier with
    | none => simp
    | some s => exact notMem_of_isPlain (plain s rfl) (by decide)
  have colons : ∀ part ∈ names.map fun name => name.shown.toList, .scalar ':' ∉ part := by
    intro part mem
    obtain ⟨name, inNames, rfl⟩ := List.mem_map.1 mem
    exact notMem_shown (each name inNames) (by decide) (by decide)
  have read : names.map (fun name => Text.ofShown name.shown.toList) = names :=
    (List.map_congr_left fun name mem => Text.ofShown_shown (each name mem)).trans names.map_id
  have pieces := Chars.pieces_append_flatMap colon colons
  rw [List.flatMap_map] at pieces
  rw [readHead, pieces]
  dsimp only
  rw [List.map_map, Function.comp_def, read]
  cases identifier with
  | none => rfl
  | some s =>
    have nonempty : s.toList.isEmpty = false := by
      have name := plain s rfl
      simp only [Name.isPlain, Bool.and_eq_true, Bool.not_eq_true'] at name
      exact name.1
    simp [nonempty]

end

section
variable {e : PathElement} {x : Chr}

theorem toList_inside (e : PathElement) :
    e.inside.toList = ((e.identifier.getD "").toList ++
      e.shape.names.flatMap fun name => .scalar ':' :: name.shown.toList) ++
        (e.properties.elim ("" : Str) PropertyNames.text).toList := by
  simp [inside, List.flatMap_map]

theorem notMem_inside (writable : e.IsWritable) (other : Name.isNameChar x = false)
    (mark : x ∉ marks ++ [(',' : Chr), '\x7b', '\x7d']) : x ∉ e.inside.toList := by
  have dot : x ≠ '.' := fun same => mark (by simp [same, marks])
  have colon : x ≠ ':' := fun same => mark (by simp [same, marks])
  have head := notMem_head writable.identifier writable.names other dot colon
  rw [toList_inside, List.mem_append, not_or]
  refine ⟨head, ?_⟩
  cases found : e.properties with
  | none => simp
  | some p => exact notMem_text (writable.properties p found) other mark

theorem readInside_inside (writable : e.IsWritable) (shape : List Text → Shape)
    (same : shape e.shape.names = e.shape) : readInside shape e.inside.toList = some e := by
  obtain ⟨kind, identifier, properties⟩ := e
  have head := readHead_text writable.identifier writable.names
  have blank := notMem_head writable.identifier writable.names (x := ' ') (by decide) (by decide)
    (by decide)
  rw [toList_inside, readInside]
  cases properties with
  | none =>
    have empty : ((none : Option PropertyNames).elim ("" : Str) PropertyNames.text).toList = [] :=
      rfl
    rw [empty, List.append_nil, Chars.breakAt?_of_notMem blank]
    simp [head, same]
  | some p =>
    obtain ⟨braced, text, read⟩ := exists_readProperties (writable.properties p rfl)
    have written : ((some p).elim ("" : Str) PropertyNames.text).toList = .scalar ' ' :: braced :=
      text
    rw [written, Chars.breakAt?_append_cons blank]
    simp [head, same, read]

theorem toList_text_append (e : PathElement) (rest : List Chr) :
    e.text.toList ++ rest =
      e.shape.opening.toList ++ (e.inside.toList ++ (e.shape.closing.toList ++ rest)) := by
  simp [PathElement.text]

/-- An element is read off, whatever follows it that is no tip of an arrow. -/
theorem readFirst_append (writable : e.IsWritable) {rest : List Chr}
    (next : rest.head? ≠ some (.scalar '>')) :
    readFirst (e.text.toList ++ rest) = some (e, rest) := by
  rw [toList_text_append]
  cases shaped : e.shape with
  | node labels =>
    have absent : .scalar ')' ∉ e.inside.toList := notMem_inside writable (by decide) (by decide)
    have read := readInside_inside writable .node (by rw [shaped]; rfl)
    simp [Shape.opening, Shape.closing, readFirst, Chars.breakAt?_append_cons absent, read]
  | relationship direction type =>
    have absent : .scalar ']' ∉ e.inside.toList := notMem_inside writable (by decide) (by decide)
    have read (d : RelDirection) (same : d = direction) :=
      readInside_inside writable (fun names => .relationship d names.head?)
        (by rw [shaped, same]; cases type <;> rfl)
    cases direction with
    | outward =>
      simp [Shape.opening, Shape.closing, Pattern.tailOf, Pattern.tipOf, readFirst,
        Chars.breakAt?_append_cons absent, readTip, read]
    | inward =>
      simp [Shape.opening, Shape.closing, Pattern.tailOf, Pattern.tipOf, readFirst,
        Chars.breakAt?_append_cons absent, read]
    | undirected =>
      -- the line would be read as an arrow if a tip followed it
      have tip : readTip (.scalar '-' :: rest) = some (.undirected, rest) := by
        cases rest with
        | nil => rfl
        | cons c rest =>
          have other : c ≠ '>' := by simpa using next
          simp [readTip, other]
      simp [Shape.opening, Shape.closing, Pattern.tailOf, Pattern.tipOf, readFirst,
        Chars.breakAt?_append_cons absent, tip, read]

end

theorem exists_toList_text (e : PathElement) : ∃ c cs, e.text.toList = c :: cs ∧ c ≠ '>' := by
  have text := toList_text_append e []
  rw [List.append_nil] at text
  cases shaped : e.shape with
  | node labels => exact ⟨'(', _, by rw [text]; simp [shaped, Shape.opening]; rfl, by decide⟩
  | relationship direction type =>
    cases direction with
    | inward =>
      exact ⟨'<', _, by rw [text]; simp [shaped, Shape.opening, Pattern.tailOf]; rfl, by decide⟩
    | _ =>
      exact ⟨'-', _, by rw [text]; simp [shaped, Shape.opening, Pattern.tailOf]; rfl, by decide⟩

/-- What is written element by element is read back. -/
theorem readAll_texts {es : List PathElement} (writable : ∀ e ∈ es, e.IsWritable) :
    readAll (es.flatMap fun e => e.text.toList) = some es := by
  induction es with
  | nil => rw [List.flatMap_nil, readAll]; rfl
  | cons e es ih =>
    obtain ⟨first, others⟩ := List.forall_mem_cons.1 writable
    have next : (es.flatMap fun e => e.text.toList).head? ≠ some (.scalar '>') := by
      cases es with
      | nil => simp
      | cons e' es =>
        obtain ⟨c, cs, text, other⟩ := exists_toList_text e'
        simp [text, other]
    obtain ⟨c, cs, text, -⟩ := exists_toList_text e
    rw [List.flatMap_cons, readAll, readFirst_append first next, if_neg (by simp [text])]
    dsimp only
    rw [dif_pos (by rw [text, List.length_append, List.length_cons]; omega), ih others]
    rfl

/-- Elements with next to nothing in them, and a line that touches the tail of an arrow. -/
example : readAll (Str.toList "( \x7ba: $props1.a\x7d)-[]-<-[r]-") = some
    [{ shape := .node [], properties := some ⟨"props1", [.plain "a"]⟩ },
      { shape := .relationship .undirected none },
      { shape := .relationship .inward none, identifier := some "r" }] := by
  decide +kernel

end PathElement
end BoundQuery
