/-!
# Positions in a text

A position is told by line and column, both counted from one, and by the
number of characters before it.  Lines end at line feeds only.
-/

namespace TaskTree.Text

/-- The number of the line on which the text after `before` starts. -/
def lineAfter (before : List Char) : Nat :=
  before.count '\n' + 1

/-- The number of the column at which the text after `before` starts. -/
def columnAfter (before : List Char) : Nat :=
  (before.reverse.takeWhile (· ≠ '\n')).length + 1

/-- Line, column and offset of the text that follows `before`. -/
def describePosition (before : List Char) : String :=
  s!"line {lineAfter before} column {columnAfter before} (char {before.length})"

/-- All line ends written as a line feed: `\r\n` and a lone `\r` become `\n`. -/
def foldLineEnds : List Char → List Char
  | [] => []
  | '\r' :: '\n' :: rest => '\n' :: foldLineEnds rest
  | '\r' :: rest => '\n' :: foldLineEnds rest
  | c :: rest => c :: foldLineEnds rest

example : foldLineEnds ['a', '\r', '\n', '\r', 'b'] = ['a', '\n', '\n', 'b'] := by
  simp [foldLineEnds]

end TaskTree.Text
