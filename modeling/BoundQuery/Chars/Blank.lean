import BoundQuery.Str

/-!
# Blank characters

The white space of the character standard and the four ASCII separators: what is stripped from the
ends of a text and what separates its words.
-/

namespace BoundQuery.Chars

def blankRanges : List (Nat × Nat) := [
    (0x9, 0xd), (0x1c, 0x20), (0x85, 0x85), (0xa0, 0xa0), (0x1680, 0x1680), (0x2000, 0x200a),
    (0x2028, 0x2029), (0x202f, 0x202f), (0x205f, 0x205f), (0x3000, 0x3000)]

def isBlank (c : Chr) : Bool :=
  blankRanges.any fun (first, last) => first ≤ c.toNat && c.toNat ≤ last

def strip (cs : List Chr) : List Chr :=
  ((cs.dropWhile isBlank).reverse.dropWhile isBlank).reverse

/-- No character that is not blank. -/
def isAllBlank (s : Str) : Bool :=
  s.toList.all isBlank

/-- The maximal runs of characters that are not blank; `word` is the run that has been read last. -/
def wordsFrom (word : List Chr) : List Chr → List (List Chr)
  | [] => if word.isEmpty then [] else [word.reverse]
  | c :: rest =>
    if isBlank c then
      if word.isEmpty then wordsFrom [] rest else word.reverse :: wordsFrom [] rest
    else wordsFrom (c :: word) rest

def words (cs : List Chr) : List (List Chr) :=
  wordsFrom [] cs

end BoundQuery.Chars
