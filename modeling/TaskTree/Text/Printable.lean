import TaskTree.Text.Category

/-!
# Printable characters

A quoted text shows printable characters as they are and writes all others by
number.  Not printable are the controls, the format characters, the private
use characters, the line, paragraph and space separators, and the code points
without a character; the plain space is the one separator that is printable.
-/

namespace TaskTree.Text

/-- Controls, separators and private use characters. -/
def blankRanges : Ranges :=
  [ (0x0, 0x1f), (0x7f, 0xa0), (0x1680, 0x1680), (0x2000, 0x200a), (0x2028, 0x2029),
    (0x202f, 0x202f), (0x205f, 0x205f), (0x3000, 0x3000), (0xd800, 0xf8ff),
    (0xf0000, 0x10ffff) ]

/-- A character that a quoted text shows as it is. -/
def isPrintable (c : Char) : Bool :=
  !blankRanges.has c.toNat && !formats.has c.toNat && !unassigned.has c.toNat

example : isPrintable ' ' = true := by decide
example : isPrintable '\n' = false := by decide
example : isPrintable 'é' = true := by decide
example : isPrintable '\u00a0' = false := by decide

end TaskTree.Text
