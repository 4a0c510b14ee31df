import TaskTree.Text.Utf8

/-!
# Encodings of JSON text

Characters are written as bytes in units of one, two or four bytes.  A JSON
text begins with characters of which each fits into one byte, so the zeros
among its first bytes tell how wide its units are and which byte of a unit
comes first, unless a byte order mark tells it; `ofBytes` reads them.  A surrogate that has no
partner stands for no character, and the replacement character is put in its place.

A unit that the end cuts short, and a number beyond the last code point, are
faults.  The fault that is met first is reported.
-/

namespace TaskTree

/-- Which byte of a unit comes first. -/
inductive ByteOrder where
  | high
  | low
  deriving DecidableEq, Repr

/-- A way to write characters as bytes. -/
inductive Encoding where
  | utf8
  | utf16 (first : ByteOrder)
  | utf32 (first : ByteOrder)
  deriving DecidableEq, Repr

namespace Encoding

/-- The name of an encoding. -/
def name : Encoding → String
  | utf8 => "utf-8"
  | utf16 .high => "utf-16-be"
  | utf16 .low => "utf-16-le"
  | utf32 .high => "utf-32-be"
  | utf32 .low => "utf-32-le"

/-- The encoding that a byte order mark in front tells, if the units are wider than a byte.  In
front of the widest ones, high byte first, the mark has zeros like any character. -/
def marked? : List UInt8 → Option Encoding
  | a :: b :: rest =>
    if a = 0xfe ∧ b = 0xff then some (utf16 .high)
    else if a = 0xff ∧ b = 0xfe then
      some (if rest.take 2 = [0, 0] then utf32 .low else utf16 .low)
    else none
  | _ => none

/-- The encoding of JSON text without a mark. -/
def unmarked : List UInt8 → Encoding
  | a :: b :: c :: d :: _ =>
    if a = 0 then (if b = 0 then utf32 .high else utf16 .high)
    else if b = 0 then (if c = 0 ∧ d = 0 then utf32 .low else utf16 .low)
    else utf8
  | [a, b] => if a = 0 then utf16 .high else if b = 0 then utf16 .low else utf8
  | _ => utf8

/-- The encoding of the JSON text that these bytes write. -/
def ofBytes (bytes : List UInt8) : Encoding :=
  (marked? bytes).getD (unmarked bytes)

/-- Why bytes are not text. -/
inductive Defect where
  /-- A sequence of single bytes is none that stands for a character. -/
  | sequence (defect : Utf8.Defect)
  /-- The bytes end inside a unit. -/
  | cutUnit
  /-- A unit holds no code point. -/
  | beyondLast
  deriving DecidableEq, Repr

/-- What is wrong, in words. -/
def Defect.message : Defect → String
  | sequence defect => defect.message
  | cutUnit => "truncated data"
  | beyondLast => "code point not in range(0x110000)"

/-- The place and kind of the first fault: `count` bytes from `offset` on, the first of
them with the value `byte`. -/
structure Fault where
  encoding : Encoding
  defect : Defect
  offset : Nat
  count : Nat
  byte : UInt8
  deriving DecidableEq, Repr

/-- A fault in units of one byte. -/
def Fault.ofUtf8 (fault : Utf8.Fault) : Fault :=
  ⟨utf8, .sequence fault.defect, fault.offset, fault.count, fault.byte⟩

/-- The number that the bytes of a unit write. -/
def unit (first : ByteOrder) (bytes : List UInt8) : Nat :=
  let ordered := match first with
    | .high => bytes
    | .low => bytes.reverse
  ordered.foldl (fun total b => 256 * total + b.toNat) 0

/-- The character with a number; a surrogate is replaced. -/
def charOf (n : Nat) : Char :=
  if n.isValidChar then Char.ofNat n else '\ufffd'

/-- The unit is the first half of a pair. -/
def isLead (n : Nat) : Bool := 0xd800 ≤ n && n < 0xdc00

/-- The unit is the second half of a pair. -/
def isTrail (n : Nat) : Bool := 0xdc00 ≤ n && n < 0xe000

/-- The characters that units of two bytes stand for. -/
def joinPairs : List Nat → List Char
  | a :: b :: rest =>
    if isLead a && isTrail b then
      Char.ofNat (0x10000 + 0x400 * (a - 0xd800) + (b - 0xdc00)) :: joinPairs rest
    else charOf a :: joinPairs (b :: rest)
  | [a] => [charOf a]
  | [] => []

/-- Read units of two bytes, `offset` bytes being read already. -/
def readPairs (first : ByteOrder) (offset : Nat) : List UInt8 → Except Fault (List Nat)
  | a :: b :: rest =>
    match readPairs first (offset + 2) rest with
    | .error fault => .error fault
    | .ok units => .ok (unit first [a, b] :: units)
  | [a] => .error ⟨utf16 first, .cutUnit, offset, 1, a⟩
  | [] => .ok []

/-- Read units of four bytes, `offset` bytes being read already. -/
def readQuads (first : ByteOrder) (offset : Nat) : List UInt8 → Except Fault (List Char)
  | a :: b :: c :: d :: rest =>
    let n := unit first [a, b, c, d]
    if 0x110000 ≤ n then .error ⟨utf32 first, .beyondLast, offset, 4, a⟩
    else
      match readQuads first (offset + 4) rest with
      | .error fault => .error fault
      | .ok cs => .ok (charOf n :: cs)
  | [] => .ok []
  | a :: rest => .error ⟨utf32 first, .cutUnit, offset, rest.length + 1, a⟩

/-- The characters that bytes stand for. -/
def decode (encoding : Encoding) (bytes : List UInt8) : Except Fault (List Char) :=
  match encoding with
  | .utf8 =>
    match Utf8.decodePassing bytes with
    | .error fault => .error (.ofUtf8 fault)
    | .ok cs => .ok cs
  | .utf16 first => (readPairs first 0 bytes).map joinPairs
  | .utf32 first => readQuads first 0 bytes

end Encoding

end TaskTree
