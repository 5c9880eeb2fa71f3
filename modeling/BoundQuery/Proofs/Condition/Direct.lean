import BoundQuery.Proofs.Condition.Clean
import BoundQuery.Statement.Query
import BoundQuery.Statement.Restriction

/-!
# Conditions written directly

A condition can be written in one pass, with what `write` makes of a value at the very place where
the value belongs: no template, no numbers and no store. This is what a condition means, and
printing its template comes to the same text.

## Main definitions

* `Marker.textWith` — a raw fragment with a value in the place of each marker outside of quotes.
* `Condition.textWith?`, `Condition.clauseWith` — a relational condition, and a clause of several.

## Main statements

* `Condition.print_conditionClause` — printing the template of a clause gives this text.
-/

namespace BoundQuery

variable (write : Value → Str)

/-! ## Printing templates -/

namespace Template

theorem print_slots (separator : Str) (vs : List Value) :
    (slots separator vs).print write = Str.intercalate separator (vs.map write) := by
  fun_induction slots separator vs with
  | case1 => simp [print]
  | case2 v => simp [print]
  | case3 v vs nonempty ih =>
    have others : vs.map write ≠ [] := by simpa using nonempty
    simp [print, ih, Str.intercalate_cons_of_ne_nil others, Str.append_assoc]

theorem print_join (separator : Str) (ts : List Template) :
    (join separator ts).print write = Str.intercalate separator (ts.map (print write)) := by
  fun_induction join separator ts with
  | case1 => simp [print]
  | case2 t => simp
  | case3 t ts nonempty ih =>
    have others : ts.map (print write) ≠ [] := by simpa using nonempty
    simp [print, ih, Str.intercalate_cons_of_ne_nil others, Str.append_assoc]

theorem print_weave_modifyHead (c : Chr) {pieces : List (List Chr)} (nonempty : pieces ≠ [])
    (vs : List Value) :
    (weave (pieces.modifyHead (c :: ·)) vs).print write =
      Str.singleton c ++ (weave pieces vs).print write := by
  have push (piece : List Chr) :
      Str.ofList (c :: piece) = Str.singleton c ++ Str.ofList piece := rfl
  cases pieces with
  | nil => exact absurd rfl nonempty
  | cons piece pieces => cases vs <;> simp [weave, print, push, Str.append_assoc]

end Template

/-! ## Raw fragments -/

namespace Marker

/-- A fragment with what `write` makes of the next value in the place of each marker outside of
quotes. Of a marker that has been read, `skip` characters are still to be passed over; `quoted` says
whether a quote is open. -/
def textWith (marker : List Chr) : Nat → Bool → List Chr → List Value → Str
  | _, _, [], _ => ""
  | skip + 1, quoted, _ :: rest, vs => textWith marker skip quoted rest vs
  | 0, quoted, c :: rest, vs =>
    if c == '\'' then Str.singleton c ++ textWith marker 0 (!quoted) rest vs
    else if !quoted && marker.isPrefixOf (c :: rest) then
      vs.head?.elim ("" : Str) write ++ textWith marker (marker.length - 1) quoted rest vs.tail
    else Str.singleton c ++ textWith marker 0 quoted rest vs

theorem print_weave_splitFrom (marker : List Chr) (skip : Nat) (quoted : Bool) (cs : List Chr)
    {vs : List Value} (count : (splitFrom marker skip quoted cs).length = vs.length + 1) :
    (Template.weave (splitFrom marker skip quoted cs) vs).print write =
      textWith write marker skip quoted cs vs := by
  fun_induction splitFrom marker skip quoted cs generalizing vs with
  | case1 skip quoted =>
    have none : vs = [] := by simpa using count.symm
    simp [none, textWith, Template.weave, Template.print]
  | case2 skip quoted c rest ih => rw [textWith, ih count]
  | case3 quoted c rest quote ih =>
    rw [textWith, if_pos quote, ← ih (by simpa using count)]
    exact Template.print_weave_modifyHead write c (splitFrom_ne_nil marker 0 (!quoted) rest) vs
  | case4 quoted c rest quote found ih =>
    cases vs with
    | nil => exact absurd (by simpa using count) (splitFrom_ne_nil marker _ quoted rest)
    | cons v vs =>
      have others : (splitFrom marker (marker.length - 1) quoted rest).length = vs.length + 1 := by
        simpa using count
      have text := ih others
      rw [textWith, if_neg quote, if_pos found]
      simp [Template.weave, Template.print, text]
  | case5 quoted c rest quote other ih =>
    rw [textWith, if_neg quote, if_neg other, ← ih (by simpa using count)]
    exact Template.print_weave_modifyHead write c (splitFrom_ne_nil marker 0 quoted rest) vs

theorem print_template {marker : List Chr} {fragment : Text} {values : List Value} {t : Template}
    (made : template marker fragment values = .ok t) :
    t.print write = textWith write marker 0 false fragment.chars values := by
  obtain ⟨pieces, cut, count, rfl⟩ := template_eq_ok made
  unfold split at cut
  split at cut
  · cases cut
  · cases cut
    exact print_weave_splitFrom write marker 0 false fragment.chars count

end Marker

/-! ## Conditions -/

/-- A relational condition with its values in place; membership in an empty list is left out. -/
def FieldCondition.textWith? (c : FieldCondition) : Option Str :=
  match c.test with
  | .null false => some (c.field.shown ++ " IS NULL")
  | .null true => some (c.field.shown ++ " IS NOT NULL")
  | .member _ [] => none
  | .member false vs => some (c.field.shown ++ " IN (" ++ commaSeparated (vs.map write) ++ ")")
  | .member true vs => some (c.field.shown ++ " NOT IN (" ++ commaSeparated (vs.map write) ++ ")")
  | .compare op v => some (c.field.shown ++ " " ++ op.spelling ++ " " ++ write v)

theorem FieldCondition.print_template? (c : FieldCondition) :
    (c.template? .relational).map (Template.print write) = c.textWith? write := by
  rcases c with ⟨field, test⟩
  cases test with
  | null negated => cases negated <;> simp [template?, textWith?, Template.print]
  | member negated values =>
    cases values with
    | nil => cases negated <;> simp [template?, textWith?]
    | cons v vs =>
      cases negated <;>
        simp [template?, textWith?, memberTemplate, commaSeparated, Template.print,
          Template.print_slots, Str.append_assoc]
  | compare op v => simp [template?, textWith?, Template.print, Str.append_assoc]

namespace Condition

def textWith? (marker : List Chr) : Condition → Option Str
  | field c => c.textWith? write
  | raw fragment values => some (Marker.textWith write marker 0 false fragment.chars values)

/-- The conditions that write anything in the order in which they were given, after a keyword. -/
def clauseWith (marker : List Chr) (keyword : Str) (cs : List Condition) : Str :=
  match cs.filterMap (textWith? write marker) with
  | [] => ""
  | texts => keyword ++ Str.intercalate " AND " texts

theorem print_template? {marker : List Chr} {c : Condition} {t? : Option Template}
    (made : c.template? .relational marker = .ok t?) :
    t?.map (Template.print write) = c.textWith? write marker := by
  cases c with
  | field c =>
    cases made
    exact c.print_template? write
  | raw fragment values =>
    obtain ⟨t, woven, rfl⟩ := Result.map_eq_ok.1 made
    rw [Option.map_some, Marker.print_template write woven, textWith?]

theorem print_templates {marker : List Chr} {cs : List Condition} {ts : List Template}
    (made : templates .relational marker cs = .ok ts) :
    ts.map (Template.print write) = cs.filterMap (textWith? write marker) := by
  obtain ⟨found, answered, same⟩ := Result.bind_eq_ok.1 made
  cases same
  have each := Result.mapM_eq_ok.1 answered
  clear answered made
  induction each with
  | nil => rfl
  | @cons c t? cs found first _ ih =>
    have text := print_template? write first
    cases t? with
    | none => simpa [← text] using ih
    | some t => simpa [← text] using ih

theorem print_conditionClause {marker : List Chr} {cs : List Condition} {t? : Option Template}
    (keyword : Str) (made : conjunction? .relational marker cs = .ok t?) :
    (conditionClause keyword t?).print write = clauseWith write marker keyword cs := by
  obtain ⟨ts, each, rfl⟩ := conjunction?_eq_ok.1 made
  unfold clauseWith
  rw [← print_templates write each]
  cases ts with
  | nil => rfl
  | cons t ts =>
    simp [joined?, conditionClause, Template.print, Template.print_join, conjunction]

end Condition
end BoundQuery
