import BoundQuery.Chars.Printable

/-!
# Quoted texts

A text between quotes, as messages show it. Single quotes are used unless the text has a single
quote and no double one; the quote in use, backslashes and characters that are not printable are
escaped, by the shortest of `\x`, `\u` and `\U` that holds them.
-/

namespace BoundQuery.Chars

/-- The last `width` hexadecimal digits of a number. -/
def hex : Nat → Nat → List Chr
  | 0, _ => []
  | width + 1, n => hex width (n / 16) ++ [(Nat.digitChar (n % 16) : Chr)]

@[simp] theorem length_hex (width n : Nat) : (hex width n).length = width := by
  induction width generalizing n with
  | zero => rfl
  | succ width ih => simp [hex, ih]

def quoteFor (cs : List Chr) : Chr :=
  if cs.contains '\'' && !cs.contains '"' then '"' else '\''

def escapeCode (n : Nat) : List Chr :=
  if n < 0x100 then '\\' :: 'x' :: hex 2 n
  else if n < 0x10000 then '\\' :: 'u' :: hex 4 n
  else '\\' :: 'U' :: hex 8 n

def escapeChar (quote c : Chr) : List Chr :=
  if c == quote || c == '\\' then ['\\', c]
  else if c == '\t' then ['\\', 't']
  else if c == '\n' then ['\\', 'n']
  else if c == '\r' then ['\\', 'r']
  else if isPrintable c then [c]
  else escapeCode c.toNat

def quotedChars (cs : List Chr) : List Chr :=
  let quote := quoteFor cs
  quote :: cs.flatMap (escapeChar quote) ++ [quote]

def quoted (s : Str) : Str :=
  Str.ofList (quotedChars s.toList)

end BoundQuery.Chars
