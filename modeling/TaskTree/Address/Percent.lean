import TaskTree.Text.Digit
import TaskTree.Text.Utf8

/-!
# Percent signs in addresses

A character that has no place in a part of an address is written as the bytes
of its UTF-8 form, each behind a percent sign and in capital digits.  A percent
sign that stands there already is kept, so nothing is encoded twice.  Undoing
it leaves a percent sign alone that no two digits follow, and puts the
replacement character where the bytes are no text.
-/

namespace TaskTree.Percent

/-- A byte behind a percent sign. -/
def encodeByte (b : UInt8) : List Char :=
  '%' :: (Text.hexDigits 2 b.toNat).map Char.toUpper

/-- A text with all but the kept characters encoded. -/
def encode (keeps : Char → Bool) (cs : List Char) : List Char :=
  cs.flatMap fun c => if keeps c then [c] else (String.utf8EncodeChar c).flatMap encodeByte

/-- The bytes that an encoded text stands for. -/
def decodeBytes : List Char → List UInt8
  | '%' :: a :: b :: rest =>
    match Text.hexNumber? [a, b] with
    | some n => n.toUInt8 :: decodeBytes rest
    | none => String.utf8EncodeChar '%' ++ decodeBytes (a :: b :: rest)
  | c :: rest => String.utf8EncodeChar c ++ decodeBytes rest
  | [] => []

/-- The text that an encoded text stands for. -/
def decode (cs : List Char) : List Char :=
  Utf8.decodeReplacing (decodeBytes cs)

/-- A visible character of ASCII. -/
def isVisible (c : Char) : Bool :=
  '!' ≤ c && c ≤ '~'

/-- A visible character other than these. -/
def isVisibleBut (others : String) (c : Char) : Bool :=
  isVisible c && !others.toList.contains c

/-- A character that is never encoded. -/
def isPlain (c : Char) : Bool :=
  c.isAlphanum || "-._~".toList.contains c

end TaskTree.Percent
