/-!
# Reading UTF-8

Bytes are read to characters from the left.  The first sequence that is not a
character stops the reading, and the fault tells which bytes it is about: a
byte that starts nothing, the bytes before a continuation byte that does not
fit, or all bytes of a sequence that the end cuts short.
-/

namespace TaskTree.Utf8

/-- Why bytes are not text. -/
inductive Defect where
  /-- No sequence starts with this byte. -/
  | invalidStart
  /-- A sequence was begun and the byte after it does not continue it. -/
  | invalidContinuation
  /-- The bytes end inside a sequence. -/
  | truncated
  deriving DecidableEq, Repr

/-- The place and kind of the first fault: `count` bytes from `offset` on, the
first of them with the value `byte`. -/
structure Fault where
  defect : Defect
  offset : Nat
  count : Nat
  byte : UInt8
  deriving DecidableEq, Repr

/-- What the bytes at one place are: a character with its length, or a fault with
the number of bytes that it is about. -/
inductive Lead where
  | char (c : Char) (size : Nat)
  | bad (defect : Defect) (count : Nat)
  deriving DecidableEq, Repr

/-- The number of continuation bytes that a first byte announces, with the lowest
and the highest value that the first of them may have. -/
def tailShape (b : Nat) : Option (Nat × Nat × Nat) :=
  if 0xc2 ≤ b ∧ b ≤ 0xdf then some (1, 0x80, 0xbf)
  else if b = 0xe0 then some (2, 0xa0, 0xbf)
  else if b = 0xed then some (2, 0x80, 0x9f)
  else if 0xe1 ≤ b ∧ b ≤ 0xef then some (2, 0x80, 0xbf)
  else if b = 0xf0 then some (3, 0x90, 0xbf)
  else if b = 0xf4 then some (3, 0x80, 0x8f)
  else if 0xf1 ≤ b ∧ b ≤ 0xf3 then some (3, 0x80, 0xbf)
  else none

/-- Read `owed` continuation bytes, the first of them between `low` and `high`.
`seen` bytes of the sequence are read already, and they stand for `value`. -/
def readTail : (owed low high seen value : Nat) → List UInt8 → Lead
  | 0, _, _, seen, value, _ => .char (Char.ofNat value) seen
  | _ + 1, _, _, seen, _, [] => .bad .truncated seen
  | owed + 1, low, high, seen, value, b :: rest =>
    if low ≤ b.toNat ∧ b.toNat ≤ high then
      readTail owed 0x80 0xbf (seen + 1) (64 * value + b.toNat % 64) rest
    else
      .bad .invalidContinuation seen

/-- The bits of the code point that a first byte with `owed` bytes after it holds. -/
def leadBits (owed : Nat) (b : Nat) : Nat :=
  if owed = 1 then b % 32 else if owed = 2 then b % 16 else b % 8

/-- What stands at the front of a byte sequence that starts with `b`. -/
def lead (b : UInt8) (rest : List UInt8) : Lead :=
  if b.toNat < 0x80 then .char (Char.ofNat b.toNat) 1
  else
    match tailShape b.toNat with
    | none => .bad .invalidStart 1
    | some (owed, low, high) => readTail owed low high 1 (leadBits owed b.toNat) rest

/-- The bytes write a surrogate as characters are written, though it is none. -/
def isSurrogate : List UInt8 → Bool
  | a :: b :: c :: _ => a = 0xed && 0xa0 ≤ b && b ≤ 0xbf && 0x80 ≤ c && c ≤ 0xbf
  | _ => false

/-- Read all bytes, `offset` of them being read already.  Surrogates are faults, unless they
may pass; then each is replaced. -/
def decodeFrom (passing : Bool) (offset : Nat) : List UInt8 → Except Fault (List Char)
  | [] => .ok []
  | b :: rest =>
    match lead b rest with
    | .bad defect count =>
      if passing && isSurrogate (b :: rest) then
        match decodeFrom passing (offset + 3) (rest.drop 2) with
        | .error fault => .error fault
        | .ok cs => .ok ('\ufffd' :: cs)
      else .error ⟨defect, offset, count, b⟩
    | .char c size =>
      match decodeFrom passing (offset + size) (rest.drop (size - 1)) with
      | .error fault => .error fault
      | .ok cs => .ok (c :: cs)
termination_by bytes => bytes.length
decreasing_by all_goals simp only [List.length_cons, List.length_drop]; omega

/-- The characters that bytes stand for. -/
def decode (bytes : List UInt8) : Except Fault (List Char) :=
  decodeFrom false 0 bytes

/-- The characters that bytes stand for, surrogates being replaced. -/
def decodePassing (bytes : List UInt8) : Except Fault (List Char) :=
  decodeFrom true 0 bytes

/-- The characters that bytes stand for, each fault being one replacement character. -/
def decodeReplacing : List UInt8 → List Char
  | [] => []
  | b :: rest =>
    match lead b rest with
    | .bad _ count => '\ufffd' :: decodeReplacing (rest.drop (count - 1))
    | .char c size => c :: decodeReplacing (rest.drop (size - 1))
termination_by bytes => bytes.length
decreasing_by all_goals simp only [List.length_cons, List.length_drop]; omega

/-- The bytes of a text. -/
def encode (s : String) : List UInt8 :=
  s.toList.flatMap String.utf8EncodeChar

/-- What is wrong, in words. -/
def Defect.message : Defect → String
  | .invalidStart => "invalid start byte"
  | .invalidContinuation => "invalid continuation byte"
  | .truncated => "unexpected end of data"

end TaskTree.Utf8
