import BoundQuery.Str

/-!
# Fixed vocabularies

The words that a statement may contain besides names, texts of the caller and placeholders:
operators, kinds of join, sort directions and directions of a relationship. Each member has a name
and a spelling, and a spelling belongs to one member only.
-/

namespace BoundQuery

inductive Operator where
  | eq | lt | lte | gt | gte | ne
  | like | ilike
  | oneOf | noneOf
  | isNull | isNotNull
  | contains | startsWith | endsWith
  deriving DecidableEq, Repr

inductive JoinType where
  | inner | left | right
  deriving DecidableEq, Repr

inductive SortDirection where
  | asc | desc
  deriving DecidableEq, Repr

inductive RelDirection where
  | outward | inward | undirected
  deriving DecidableEq, Repr

namespace Operator

def all : List Operator :=
  [.eq, .lt, .lte, .gt, .gte, .ne, .like, .ilike, .oneOf, .noneOf, .isNull, .isNotNull, .contains,
    .startsWith, .endsWith]

def spelling : Operator → Str
  | eq => "="
  | lt => "<"
  | lte => "<="
  | gt => ">"
  | gte => ">="
  | ne => "<>"
  | like => "LIKE"
  | ilike => "ILIKE"
  | oneOf => "IN"
  | noneOf => "NOT IN"
  | isNull => "IS"
  | isNotNull => "IS NOT"
  | contains => "CONTAINS"
  | startsWith => "STARTS WITH"
  | endsWith => "ENDS WITH"

def name : Operator → Str
  | eq => "EQ"
  | lt => "LT"
  | lte => "LTE"
  | gt => "GT"
  | gte => "GTE"
  | ne => "NE"
  | like => "LIKE"
  | ilike => "ILIKE"
  | oneOf => "IN"
  | noneOf => "NOT_IN"
  | isNull => "IS"
  | isNotNull => "IS_NOT"
  | contains => "CONTAINS"
  | startsWith => "STARTS_WITH"
  | endsWith => "ENDS_WITH"

def ofSpelling? (s : Str) : Option Operator :=
  all.find? fun op => op.spelling == s

/-- Operators of graph queries only. -/
def isGraphOnly : Operator → Bool
  | contains | startsWith | endsWith => true
  | _ => false

/-- Operators of relational statements only. -/
def isRelationalOnly : Operator → Bool
  | like | ilike => true
  | _ => false

end Operator

namespace JoinType

def all : List JoinType :=
  [.inner, .left, .right]

def spelling : JoinType → Str
  | inner => "INNER"
  | left => "LEFT"
  | right => "RIGHT"

def ofSpelling? (s : Str) : Option JoinType :=
  all.find? fun j => j.spelling == s

end JoinType

namespace SortDirection

def all : List SortDirection :=
  [.asc, .desc]

def spelling : SortDirection → Str
  | asc => "ASC"
  | desc => "DESC"

def ofSpelling? (s : Str) : Option SortDirection :=
  all.find? fun d => d.spelling == s

end SortDirection

namespace RelDirection

def all : List RelDirection :=
  [.outward, .inward, .undirected]

def spelling : RelDirection → Str
  | outward => "->"
  | inward => "<-"
  | undirected => "-"

def name : RelDirection → Str
  | outward => "OUT"
  | inward => "IN"
  | undirected => "BOTH"

def ofSpelling? (s : Str) : Option RelDirection :=
  all.find? fun d => d.spelling == s

end RelDirection

/-- A member of any vocabulary. -/
inductive Term where
  | operator (op : Operator)
  | joinType (j : JoinType)
  | sortDirection (d : SortDirection)
  | relDirection (d : RelDirection)
  deriving DecidableEq, Repr

namespace Term

def all : List Term :=
  Operator.all.map .operator ++ JoinType.all.map .joinType ++
    SortDirection.all.map .sortDirection ++ RelDirection.all.map .relDirection

def spelling : Term → Str
  | operator op => op.spelling
  | joinType j => j.spelling
  | sortDirection d => d.spelling
  | relDirection d => d.spelling

def vocabulary : Term → Str
  | operator _ => "Operator"
  | joinType _ => "JoinType"
  | sortDirection _ => "SortDirection"
  | relDirection _ => "RelDirection"

def name : Term → Str
  | operator op => op.name
  | joinType j => j.spelling
  | sortDirection d => d.spelling
  | relDirection d => d.name

/-- The vocabulary and the name of a member, as in `JoinType.LEFT`. -/
def shown (t : Term) : Str :=
  t.vocabulary ++ "." ++ t.name

def ofShown? (s : Str) : Option Term :=
  all.find? fun t => t.shown == s

end Term

/-- A text: characters of the caller's own, or a member of a vocabulary, which stands for its
spelling where characters are asked for and for its full name where it is written into a text. -/
inductive Text where
  | plain (s : Str)
  | term (t : Term)
  deriving DecidableEq, Repr

namespace Text

def spelling : Text → Str
  | plain s => s
  | term t => t.spelling

def shown : Text → Str
  | plain s => s
  | term t => t.shown

def chars (t : Text) : List Chr :=
  t.spelling.toList

def isEmpty (t : Text) : Bool :=
  t.spelling.isEmpty

end Text
end BoundQuery
