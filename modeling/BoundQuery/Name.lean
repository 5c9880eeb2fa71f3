import BoundQuery.Chars.Split
import BoundQuery.Error.Basic

/-!
# Names in statements

A name cannot be bound as a parameter, so it is written into the statement as it is. What may be
written is one of three languages of ASCII texts, each containing the one before: plain names,
names qualified by dots, and calls of a function on one name or on `*`. A gate returns the text it
was given or refuses it.
-/

namespace BoundQuery.Name

/-- A letter, a digit or an underscore. -/
def isNameChar (c : Chr) : Bool :=
  c.isAlphanum || c == '_'

def isPlain (cs : List Chr) : Bool :=
  !cs.isEmpty && cs.all isNameChar

/-- Plain names with single dots between them. -/
def isQualified (cs : List Chr) : Bool :=
  (Chars.pieces '.' cs).all isPlain

/-- A function name does not start with a digit. -/
def isFunction (cs : List Chr) : Bool :=
  isPlain cs && !(cs.headD '0').isDigit

/-- A star, a plain name, or two plain names with a dot between them. -/
def isArgument (cs : List Chr) : Bool :=
  cs == [('*' : Chr)] || (isQualified cs && (Chars.pieces '.' cs).length ≤ 2)

/-- A function name and one argument between parentheses. -/
def isCall (cs : List Chr) : Bool :=
  match cs.dropWhile isNameChar with
  | '(' :: rest =>
    isFunction (cs.takeWhile isNameChar) && rest.getLast? == some (')' : Chr) &&
      isArgument rest.dropLast
  | _ => false

def isExpression (cs : List Chr) : Bool :=
  isCall cs || isQualified cs

/-- What a refusal calls a name whose use is not told. -/
def standardContext : Str :=
  "identifier"

/-- What a refusal calls an expression whose use is not told. -/
def expressionContext : Str :=
  "expression"

/-- Lets a text of a language through; `context` says what the name was to be used for. -/
def gate (language : List Chr → Bool) (context : Str) (name : Value) : Result Text :=
  match name with
  | .text t => if language t.chars then .ok t else .error (.identifier name context)
  | _ => .error (.identifier name context)

def plain : Str → Value → Result Text :=
  gate isPlain

def qualified : Str → Value → Result Text :=
  gate isQualified

def expression : Str → Value → Result Text :=
  gate isExpression

/-- Whether a value is a plain name. -/
def isValid (name : Value) : Bool :=
  match name with
  | .text t => isPlain t.chars
  | _ => false

theorem gate_eq_ok {language : List Chr → Bool} {context : Str} {name : Value} {t : Text}
    (h : gate language context name = .ok t) : name = .text t ∧ language t.chars = true := by
  unfold gate at h
  split at h
  · split at h
    · cases h
      exact ⟨rfl, by assumption⟩
    · cases h
  · cases h

end BoundQuery.Name
