import TaskTree.Json.Basic
import TaskTree.Decimal.Numeral
import TaskTree.Text.Position

/-!
# Reading JSON

The reader takes characters from the front of a list and hands on the rest.
It reads left to right and stops at the first fault; a fault keeps the text
from the place on that it complains about, from which the position follows.
Besides JSON proper it reads `NaN`, `Infinity` and `-Infinity`.  Of members
with one name the last counts.  Arrays and objects may be nested to a given
depth only, and a whole number may have no more digits than `Numeral.maxDigits`.
-/

namespace TaskTree.Json

/-- What a text lacks to be JSON. -/
inductive Defect where
  | expectedValue
  | expectedName
  | expectedColon
  | expectedComma
  | unterminatedString
  | controlCharacter
  | badEscape
  | badUnicodeEscape
  | trailingText
  | byteOrderMark
  deriving DecidableEq, Repr

/-- The two kinds of value that hold others. -/
inductive Nesting where
  | array
  | object
  deriving DecidableEq, Repr

/-- Why a text could not be read. -/
inductive Refusal where
  /-- The text is not JSON; `rest` is the text from the fault on. -/
  | malformed (defect : Defect) (rest : List Char)
  /-- A whole number has more digits than are read. -/
  | longInteger (digits : Nat)
  /-- Arrays and objects are nested more deeply than they are read; the first one too
  many is of the kind `nesting`. -/
  | deep (nesting : Nesting)
  deriving DecidableEq, Repr

/-- What a reader finds at the front of a text, and the text after it. -/
abbrev Read (α : Type) := Except Refusal (α × List Char)

/-- The fault `defect` at the front of `rest`. -/
def fault {α : Type} (defect : Defect) (rest : List Char) : Read α :=
  .error (.malformed defect rest)

/-- The deepest nesting of arrays and objects that is read. -/
def textDepth : Nat := 990

/-- White space between the parts of a text. -/
def isSpace (c : Char) : Bool :=
  c = ' ' || c = '\t' || c = '\n' || c = '\r'

/-- The text after white space. -/
def skip (cs : List Char) : List Char :=
  cs.dropWhile isSpace

/-- The character that a short escape stands for. -/
def shortEscaped? (c : Char) : Option Char :=
  if c = '"' then some '"'
  else if c = '\\' then some '\\'
  else if c = '/' then some '/'
  else if c = 'b' then some (Char.ofNat 8)
  else if c = 'f' then some (Char.ofNat 12)
  else if c = 'n' then some '\n'
  else if c = 'r' then some '\r'
  else if c = 't' then some '\t'
  else none

/-- The first of two surrogates. -/
def isHighSurrogate (n : Nat) : Bool := 0xd800 ≤ n && n < 0xdc00

/-- The second of two surrogates. -/
def isLowSurrogate (n : Nat) : Bool := 0xdc00 ≤ n && n < 0xe000

/-- The character of a code unit; a surrogate alone is no character and is replaced. -/
def unitChar (n : Nat) : Char :=
  if 0xd800 ≤ n ∧ n < 0xe000 then '\ufffd' else Char.ofNat n

/-- The character of two surrogates. -/
def pairChar (high low : Nat) : Char :=
  Char.ofNat (0x10000 + (high - 0xd800) * 0x400 + (low - 0xdc00))

/-- The second half of a surrogate pair, if one follows.  A second escape with digits
that are none is a fault; it, too, needs a character after it. -/
def lowHalf : List Char → Except Refusal (Option (Nat × List Char))
  | '\\' :: 'u' :: a :: b :: c :: d :: after :: rest =>
    match Text.hexNumber? [a, b, c, d] with
    | none => .error (.malformed .badUnicodeEscape ('u' :: a :: b :: c :: d :: after :: rest))
    | some low => .ok (if isLowSurrogate low then some (low, after :: rest) else none)
  | _ => .ok none

/-- The character that an escape by number stands for, the text starting at its `u`.
It has four digits and a character after them. -/
def unicodeEscape : List Char → Read Char
  | 'u' :: a :: b :: c :: d :: after :: rest =>
    match Text.hexNumber? [a, b, c, d] with
    | none => fault .badUnicodeEscape ('u' :: a :: b :: c :: d :: after :: rest)
    | some n =>
      if isHighSurrogate n then
        match lowHalf (after :: rest) with
        | .error refusal => .error refusal
        | .ok (some (low, rest')) => .ok (pairChar n low, rest')
        | .ok none => .ok (unitChar n, after :: rest)
      else .ok (unitChar n, after :: rest)
  | cs => fault .badUnicodeEscape cs

/-- The character that an escape stands for, the text starting after its backslash. -/
def readEscape (opening : List Char) : List Char → Read Char
  | [] => fault .unterminatedString opening
  | 'u' :: rest => unicodeEscape ('u' :: rest)
  | c :: rest =>
    match shortEscaped? c with
    | some e => .ok (e, rest)
    | none => fault .badEscape ('\\' :: c :: rest)

theorem length_lowHalf {cs rest : List Char} {low : Nat}
    (h : lowHalf cs = .ok (some (low, rest))) : rest.length < cs.length := by
  unfold lowHalf at h
  split at h
  · split at h
    · simp at h
    · split at h
      · simp only [Except.ok.injEq, Option.some.injEq, Prod.mk.injEq] at h
        simp [← h.2]
      · simp at h
  · simp at h

theorem length_unicodeEscape {cs rest : List Char} {c : Char}
    (h : unicodeEscape cs = .ok (c, rest)) : rest.length < cs.length := by
  unfold unicodeEscape at h
  split at h
  · split at h
    · simp [fault] at h
    · split at h
      · split at h
        · simp at h
        · next hl =>
          simp only [Except.ok.injEq, Prod.mk.injEq] at h
          have := length_lowHalf hl
          simp only [List.length_cons] at this ⊢
          rw [← h.2]; omega
        · simp only [Except.ok.injEq, Prod.mk.injEq] at h
          simp [← h.2]
      · simp only [Except.ok.injEq, Prod.mk.injEq] at h
        simp [← h.2]
  · simp [fault] at h

/-- An escape takes characters from the text. -/
theorem length_readEscape {opening cs rest : List Char} {c : Char}
    (h : readEscape opening cs = .ok (c, rest)) : rest.length < cs.length := by
  unfold readEscape at h
  split at h
  · simp [fault] at h
  · exact length_unicodeEscape h
  · split at h
    · simp only [Except.ok.injEq, Prod.mk.injEq] at h
      simp [← h.2]
    · simp [fault] at h

/-- The characters of a string up to its closing quote.  `opening` is the text from
the opening quote on, which is where an unterminated string is reported. -/
def readChars (opening : List Char) : List Char → Read (List Char)
  | [] => fault .unterminatedString opening
  | '"' :: rest => .ok ([], rest)
  | '\\' :: rest =>
    match _h : readEscape opening rest with
    | .error refusal => .error refusal
    | .ok (c, rest') =>
      match readChars opening rest' with
      | .error refusal => .error refusal
      | .ok (cs, rest'') => .ok (c :: cs, rest'')
  | c :: rest =>
    if c.toNat < 0x20 then fault .controlCharacter (c :: rest)
    else
      match readChars opening rest with
      | .error refusal => .error refusal
      | .ok (cs, rest') => .ok (c :: cs, rest')
termination_by cs => cs.length
decreasing_by
  · have := length_readEscape ‹_›
    simp only [List.length_cons]; omega
  · simp

/-- A string, the text starting after its opening quote. -/
def readString (rest : List Char) : Read String :=
  match readChars ('"' :: rest) rest with
  | .error refusal => .error refusal
  | .ok (cs, rest') => .ok (String.ofList cs, rest')

/-- The digits of the fraction at the front of a text, if a point and a digit are there. -/
def readFraction : List Char → Option (List Char × List Char)
  | '.' :: c :: rest =>
    if Numeral.isDigit c then
      some ((c :: rest).takeWhile Numeral.isDigit, (c :: rest).dropWhile Numeral.isDigit)
    else none
  | _ => none

/-- The exponent at the front of a text, if a letter, perhaps a sign, and a digit are there. -/
def readExponent : List Char → Option (Int × List Char)
  | c :: rest =>
    if c = 'e' ∨ c = 'E' then
      let (negative, body) := Numeral.splitSign rest
      let digits := body.takeWhile Numeral.isDigit
      if digits = [] then none
      else
        let n : Int := Numeral.digitsValue digits
        some (if negative then -n else n, body.dropWhile Numeral.isDigit)
    else none
  | [] => none

/-- The digits before the point: a lone zero, or digits that start with none. -/
def readWhole : List Char → Option (List Char × List Char)
  | '0' :: rest => some (['0'], rest)
  | cs =>
    let digits := cs.takeWhile Numeral.isDigit
    if digits = [] then none else some (digits, cs.dropWhile Numeral.isDigit)

/-- The number that the parts of its text make up.  Without fraction and exponent it
is a whole number. -/
def numberOf (negative : Bool) (whole : List Char) (fraction : Option (List Char))
    (exponent : Option Int) : Except Refusal Json :=
  if fraction = none ∧ exponent = none then
    if Numeral.maxDigits < whole.length then .error (.longInteger whole.length)
    else .ok (.int (Numeral.signedValue negative whole))
  else
    let digits := fraction.getD []
    .ok (.float (Binary64.ofDecimal negative (Numeral.digitsValue (whole ++ digits))
      (exponent.getD 0 - digits.length)))

/-- A number; `start` is the text from its sign on. -/
def readNumber (negative : Bool) (start cs : List Char) : Read Json :=
  match readWhole cs with
  | none => fault .expectedValue start
  | some (whole, rest) =>
    let (fraction, rest) :=
      match readFraction rest with
      | some (digits, rest') => (some digits, rest')
      | none => (none, rest)
    let (exponent, rest) :=
      match readExponent rest with
      | some (n, rest') => (some n, rest')
      | none => (none, rest)
    match numberOf negative whole fraction exponent with
    | .error refusal => .error refusal
    | .ok v => .ok (v, rest)

/-- The values that are written as words. -/
def words : List (List Char × Json) :=
  [ ("null".toList, .null), ("true".toList, .bool true), ("false".toList, .bool false),
    ("NaN".toList, .float .nan), ("Infinity".toList, .float (.infinite false)),
    ("-Infinity".toList, .float (.infinite true)) ]

/-- The text after `word`, if the text starts with it. -/
def after? : (word cs : List Char) → Option (List Char)
  | [], cs => some cs
  | w :: word, c :: cs => if w = c then after? word cs else none
  | _ :: _, [] => none

/-- The word at the front of a text. -/
def readWord (cs : List Char) : Option (Json × List Char) :=
  words.findSome? fun entry => (after? entry.1 cs).map (entry.2, ·)

/-- A value that is neither string, array nor object. -/
def readPlain (cs : List Char) : Read Json :=
  match readWord cs with
  | some found => .ok found
  | none =>
    match cs with
    | '-' :: rest => readNumber true cs rest
    | _ => readNumber false cs cs

/-- The elements of an array, the text starting where the next one does. -/
def readElements (value : List Char → Read Json) : (fuel : Nat) → List Char → Read (List Json)
  | 0, cs => fault .expectedValue cs
  | fuel + 1, cs =>
    match value cs with
    | .error refusal => .error refusal
    | .ok (v, rest) =>
      match skip rest with
      | ']' :: rest => .ok ([v], rest)
      | ',' :: rest =>
        match readElements value fuel (skip rest) with
        | .error refusal => .error refusal
        | .ok (vs, rest) => .ok (v :: vs, rest)
      | rest => fault .expectedComma rest

/-- The members of an object, the text starting where the next name does. -/
def readMembers (value : List Char → Read Json) :
    (fuel : Nat) → List Char → Read (List (String × Json))
  | 0, cs => fault .expectedName cs
  | fuel + 1, cs =>
    match cs with
    | '"' :: rest =>
      match readString rest with
      | .error refusal => .error refusal
      | .ok (name, rest) =>
        match skip rest with
        | ':' :: rest =>
          match value (skip rest) with
          | .error refusal => .error refusal
          | .ok (v, rest) =>
            match skip rest with
            | '\x7d' :: rest => .ok ([(name, v)], rest)
            | ',' :: rest =>
              match readMembers value fuel (skip rest) with
              | .error refusal => .error refusal
              | .ok (members, rest) => .ok ((name, v) :: members, rest)
            | rest => fault .expectedComma rest
        | rest => fault .expectedColon rest
    | cs => fault .expectedName cs

/-- A value at the front of a text, with `depth` levels of nesting left.  An array or
object has fewer parts than characters, so their number is fuel enough. -/
def readValue : (depth : Nat) → List Char → Read Json
  | _, '"' :: rest =>
    match readString rest with
    | .error refusal => .error refusal
    | .ok (s, rest) => .ok (.string s, rest)
  | 0, '[' :: _ => .error (.deep .array)
  | 0, '\x7b' :: _ => .error (.deep .object)
  | depth + 1, '[' :: rest =>
    match skip rest with
    | ']' :: rest => .ok (.array [], rest)
    | cs =>
      match readElements (readValue depth) (cs.length + 1) cs with
      | .error refusal => .error refusal
      | .ok (vs, rest) => .ok (.array vs, rest)
  | depth + 1, '\x7b' :: rest =>
    match skip rest with
    | '\x7d' :: rest => .ok (.object [], rest)
    | cs =>
      match readMembers (readValue depth) (cs.length + 1) cs with
      | .error refusal => .error refusal
      | .ok (members, rest) => .ok (.object (Named.ofPairs members), rest)
  | _, cs => readPlain cs

/-- The value that a whole text holds, with white space around it. -/
def readAll (depth : Nat) (cs : List Char) : Except Refusal Json :=
  match readValue depth (skip cs) with
  | .error refusal => .error refusal
  | .ok (v, rest) =>
    match skip rest with
    | [] => .ok v
    | rest => .error (.malformed .trailingText rest)

/-- The value of a text, which must not begin with a byte order mark. -/
def read (depth : Nat) (cs : List Char) : Except Refusal Json :=
  match cs with
  | '\ufeff' :: _ => .error (.malformed .byteOrderMark cs)
  | _ => readAll depth cs

/-- The kind of value, in a word. -/
def Nesting.word : Nesting → String
  | .array => "array"
  | .object => "object"

/-- What is wrong, in words. -/
def Defect.message : Defect → String
  | .expectedValue => "Expecting value"
  | .expectedName => "Expecting property name enclosed in double quotes"
  | .expectedColon => "Expecting ':' delimiter"
  | .expectedComma => "Expecting ',' delimiter"
  | .unterminatedString => "Unterminated string starting at"
  | .controlCharacter => "Invalid control character at"
  | .badEscape => "Invalid \\escape"
  | .badUnicodeEscape => "Invalid \\uXXXX escape"
  | .trailingText => "Extra data"
  | .byteOrderMark => "Unexpected UTF-8 BOM (decode using utf-8-sig)"

/-- The number of characters before the fault. -/
def offsetOf (text rest : List Char) : Nat :=
  text.length - rest.length

/-- A fault in `text`, with its position. -/
def Defect.describe (defect : Defect) (text rest : List Char) : String :=
  s!"{defect.message}: {Text.describePosition (text.take (offsetOf text rest))}"

end TaskTree.Json
