/-!
# Ranges of characters

What a character is, a letter, a mark or a digit, is told by tables.  A table
is a list of closed ranges of code points in rising order, so a search can end
at the first range behind the code point.  Code points are numbers: some of
them no character has.
-/

namespace TaskTree.Text

/-- Closed ranges of code points in rising order. -/
abbrev Ranges := List (Nat × Nat)

/-- A code point is in one of the ranges. -/
def Ranges.has : Ranges → Nat → Bool
  | [], _ => false
  | (first, last) :: rest, n => if n < first then false else n ≤ last || Ranges.has rest n

/-- A character of ASCII. -/
def isAscii (c : Char) : Bool := c.toNat < 0x80

example : Ranges.has [(0x30, 0x39), (0x61, 0x7a)] 0x61 = true := by decide
example : Ranges.has [(0x30, 0x39), (0x61, 0x7a)] 0x41 = false := by decide

end TaskTree.Text
