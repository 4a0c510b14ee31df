import TaskTree.Json.Basic
import TaskTree.Text.Digit

/-!
# Writing JSON

Two layouts.  `pretty` puts each member on a line of its own, indented by two
spaces a level, and leaves characters beyond ASCII as they are; it is the form
of snapshots.  `line` keeps a value on one line, with a space after each comma
and colon, and writes characters beyond ASCII as escapes, those above `0xffff`
as two surrogates.  Both write characters as lists, so that what they write
can be reasoned about.
-/

namespace TaskTree.Json

/-- How JSON shows floating point numbers. -/
def floatLayout : Binary64.Layout where
  leastPositional := -4
  endPositional := 16
  exponentWidth := 2
  infinity := "Infinity"
  notANumber := "NaN"

/-- The escape of a character of sixteen bits that has no short escape. -/
def escapeUnit (n : Nat) : List Char :=
  '\\' :: 'u' :: Text.hexDigits 4 n

/-- The short escapes: the quote, the backslash, and five controls. -/
def shortEscape? (c : Char) : Option Char :=
  if c = '"' then some '"'
  else if c = '\\' then some '\\'
  else if c = '\n' then some 'n'
  else if c = '\r' then some 'r'
  else if c = '\t' then some 't'
  else if c.toNat = 8 then some 'b'
  else if c.toNat = 12 then some 'f'
  else none

/-- A character inside a string that keeps characters beyond ASCII. -/
def escapeRaw (c : Char) : List Char :=
  match shortEscape? c with
  | some e => ['\\', e]
  | none => if c.toNat < 0x20 then escapeUnit c.toNat else [c]

/-- A character inside a string of ASCII characters. -/
def escapeAscii (c : Char) : List Char :=
  match shortEscape? c with
  | some e => ['\\', e]
  | none =>
    let n := c.toNat
    if 0x20 ≤ n ∧ n < 0x7f then [c]
    else if n < 0x10000 then escapeUnit n
    else
      escapeUnit (0xd800 + (n - 0x10000) / 0x400) ++ escapeUnit (0xdc00 + (n - 0x10000) % 0x400)

/-- A string between quotes. -/
def quoteWith (escape : Char → List Char) (s : String) : List Char :=
  '"' :: s.toList.flatMap escape ++ ['"']

/-- A value that is neither array nor object. -/
def scalar (escape : Char → List Char) : Json → List Char
  | .null => "null".toList
  | .bool true => "true".toList
  | .bool false => "false".toList
  | .int n => (toString n).toList
  | .float x => (x.write floatLayout).toList
  | .string s => quoteWith escape s
  | .array _ => []
  | .object _ => []

/-- A line end and the indentation of a level. -/
def lineBreak (level : Nat) : List Char :=
  '\n' :: List.replicate (2 * level) ' '

mutual

/-- A value over several lines, its inner lines indented for `level`, in front of a text.  The
text is handed down, so that no character is written twice, however deep it stands. -/
def prettyOnto (level : Nat) : Json → List Char → List Char
  | .array [], text => '[' :: ']' :: text
  | .array (v :: rest), text =>
    '[' :: lineBreak (level + 1) ++
      prettyOnto (level + 1) v (prettyElements (level + 1) rest (lineBreak level ++ ']' :: text))
  | .object [], text => '\x7b' :: '\x7d' :: text
  | .object ((name, v) :: rest), text =>
    '\x7b' :: lineBreak (level + 1) ++ quoteWith escapeRaw name ++ ':' :: ' ' ::
      prettyOnto (level + 1) v
        (prettyMembers (level + 1) rest (lineBreak level ++ '\x7d' :: text))
  | v, text => scalar escapeRaw v ++ text

/-- The elements after the first one, in front of a text. -/
def prettyElements (level : Nat) : List Json → List Char → List Char
  | [], text => text
  | v :: rest, text =>
    ',' :: lineBreak level ++ prettyOnto level v (prettyElements level rest text)

/-- The members after the first one, in front of a text. -/
def prettyMembers (level : Nat) : List (String × Json) → List Char → List Char
  | [], text => text
  | (name, v) :: rest, text =>
    ',' :: lineBreak level ++ quoteWith escapeRaw name ++ ':' :: ' ' ::
      prettyOnto level v (prettyMembers level rest text)

end

/-- A value over several lines, its inner lines indented for `level`. -/
def prettyAt (level : Nat) (v : Json) : List Char :=
  prettyOnto level v []

/-- A value over several lines, as snapshots hold it. -/
def pretty (v : Json) : String :=
  String.ofList (prettyAt 0 v)

mutual

/-- A value on one line. -/
def lineChars : Json → List Char
  | .array [] => ['[', ']']
  | .array (v :: rest) => '[' :: lineChars v ++ lineElements rest ++ [']']
  | .object [] => ['\x7b', '\x7d']
  | .object ((name, v) :: rest) =>
    '\x7b' :: quoteWith escapeAscii name ++ ':' :: ' ' :: lineChars v ++
      lineMembers rest ++ ['\x7d']
  | v => scalar escapeAscii v

/-- The elements after the first one. -/
def lineElements : List Json → List Char
  | [] => []
  | v :: rest => ',' :: ' ' :: lineChars v ++ lineElements rest

/-- The members after the first one. -/
def lineMembers : List (String × Json) → List Char
  | [] => []
  | (name, v) :: rest =>
    ',' :: ' ' :: quoteWith escapeAscii name ++ ':' :: ' ' :: lineChars v ++ lineMembers rest

end

/-- A value on one line of ASCII characters. -/
def line (v : Json) : String :=
  String.ofList (lineChars v)

end TaskTree.Json
