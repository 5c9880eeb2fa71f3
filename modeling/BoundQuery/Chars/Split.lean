import BoundQuery.Str

/-!
# Splitting texts

A text cut at every occurrence of a character, or at the first one only.
-/

namespace BoundQuery.Chars

/-- The pieces between the occurrences of a character; there is always one more piece than there
are occurrences. -/
def pieces (separator : Chr) : List Chr → List (List Chr)
  | [] => [[]]
  | c :: rest =>
    if c == separator then [] :: pieces separator rest
    else (pieces separator rest).modifyHead (c :: ·)

theorem pieces_ne_nil (separator : Chr) (cs : List Chr) : pieces separator cs ≠ [] := by
  induction cs with
  | nil => simp [pieces]
  | cons c rest ih =>
    rw [pieces]
    split
    · simp
    · simpa [List.modifyHead_eq_nil_iff] using ih

/-- What stands before and after the first occurrence of a character. -/
def breakAt? (separator : Chr) : List Chr → Option (List Chr × List Chr)
  | [] => none
  | c :: rest =>
    if c == separator then some ([], rest)
    else (breakAt? separator rest).map fun (before, after) => (c :: before, after)

end BoundQuery.Chars
