import TaskTree.Text.Printable
import TaskTree.Text.Digit

/-!
# Quoted text

Messages quote the names they speak of.  The quote is `'`, or `"` for a text
that holds `'` and no `"`.  The backslash and the quote in use are escaped,
line feed, carriage return and tab have short escapes, and any other character
that is not printable is written by number, in the shortest of the three
widths two, four and eight that holds it.
-/

namespace TaskTree.Text

/-- The quote around a text: the one of the two that avoids an escape, `'` if both do. -/
def quoteFor (cs : List Char) : Char :=
  if cs.contains '\'' && !cs.contains '"' then '"' else '\''

/-- A character that has no short escape, written by number. -/
def escapeByNumber (n : Nat) : List Char :=
  if n < 0x100 then '\\' :: 'x' :: hexDigits 2 n
  else if n < 0x10000 then '\\' :: 'u' :: hexDigits 4 n
  else '\\' :: 'U' :: hexDigits 8 n

/-- One character between quotes of the kind `quote`. -/
def escapeInside (quote c : Char) : List Char :=
  if c = quote ∨ c = '\\' then ['\\', c]
  else if c = '\n' then ['\\', 'n']
  else if c = '\r' then ['\\', 'r']
  else if c = '\t' then ['\\', 't']
  else if isPrintable c then [c]
  else escapeByNumber c.toNat

/-- A text between quotes. -/
def quoteChars (cs : List Char) : List Char :=
  let quote := quoteFor cs
  quote :: cs.flatMap (escapeInside quote) ++ [quote]

/-- A text between quotes. -/
def quoted (s : String) : String :=
  String.ofList (quoteChars s.toList)

end TaskTree.Text
