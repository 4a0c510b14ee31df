import TaskTree.Decimal.Shortest
import TaskTree.Text.Digit

/-!
# Numbers in settings

A setting is a text that a person wrote.  Blanks around a number do not
matter, a sign may stand in front, and single underscores may stand between
digits, which may be of any script.  A whole number is digits alone; a real
number may have a point and an exponent, or be a word for infinity or for not
a number, in either case.

The digits of a whole number are counted before anything that follows them is
looked at, so too many of them are told of even where more is wrong.  On a
command line only the plain digits count, but zeros may follow a point.
-/

namespace TaskTree.Numeral

/-- A digit of any script as a plain digit; other characters stay. -/
def plain (c : Char) : Char :=
  match Text.decimalValue? c with
  | some value => Text.hexDigit value
  | none => c

/-- A plain digit. -/
def isDigit (c : Char) : Bool :=
  '0' ≤ c && c ≤ '9'

/-- Remove the underscores, if each of them stands between two digits. -/
def joinGroups : (before : Bool) → List Char → Option (List Char)
  | _, [] => some []
  | before, '_' :: c :: rest =>
    if before && isDigit c then (joinGroups true rest).map (c :: ·) else none
  | _, c :: rest =>
    if c = '_' then none
    else (joinGroups (isDigit c) rest).map (c :: ·)

/-- The text of a number with plain digits and without blanks and underscores. -/
def normalise (text : String) : Option (List Char) :=
  joinGroups false ((Text.trim text.toList).map plain)

/-- The value of a text of plain digits. -/
def digitsValue (cs : List Char) : Nat :=
  cs.foldl (fun total c => 10 * total + (c.toNat - 48)) 0

/-- A sign at the front, and the rest. -/
def splitSign : List Char → Bool × List Char
  | '-' :: rest => (true, rest)
  | '+' :: rest => (false, rest)
  | cs => (false, cs)

/-- The most digits that a whole number may have. -/
def maxDigits : Nat := 4300

/-- The whole number with this sign and these digits. -/
def signedValue (negative : Bool) (digits : List Char) : Int :=
  let n : Int := digitsValue digits
  if negative then -n else n

/-- Why a text writes no whole number. -/
inductive WholeDefect where
  | notWhole
  | tooManyDigits (count : Nat)
  deriving DecidableEq, Repr

/-- The whole number that a text writes. -/
def readWhole (text : String) : Except WholeDefect Int :=
  let (negative, body) := splitSign ((text.toList.dropWhile Text.isBlank).map plain)
  let run := body.takeWhile fun c => isDigit c || c == '_'
  match joinGroups false run with
  | none | some [] => .error .notWhole
  | some digits =>
    if maxDigits < digits.length then .error (.tooManyDigits digits.length)
    else if (body.drop run.length).all Text.isBlank then .ok (signedValue negative digits)
    else .error .notWhole

/-- A text without a plus in front, unless a minus follows that. -/
def withoutPlus : List Char → Option (List Char)
  | '+' :: '-' :: _ => none
  | '+' :: rest => some rest
  | cs => some cs

/-- A text behind zeros and underscores, the last of which is `last`; a minus can follow
them.  Of a text that is nothing else, or goes on with a point, the last one stays. -/
def behindZeros (last : Char) : List Char → Option (List Char)
  | [] => some [last]
  | c :: rest =>
    if c = '0' ∨ c = '_' then behindZeros c rest
    else if isDigit c ∨ c = '-' then some (c :: rest)
    else if c = '.' then some (last :: c :: rest)
    else none

/-- A text of digits without zeros in front. -/
def withoutZeros : List Char → Option (List Char)
  | [] => none
  | c :: rest =>
    if c = '0' then behindZeros c rest
    else if isDigit c then some (c :: rest)
    else none

/-- A text without zeros in front of its digits; a minus before them stays. -/
def trimZeros : List Char → Option (List Char)
  | '-' :: rest => (withoutZeros rest).map ('-' :: ·)
  | cs => withoutZeros cs

/-- A text without underscores, if none stands at an end or beside another. -/
def withoutUnderscores (cs : List Char) : Option (List Char) :=
  if cs.head? = some '_' ∨ cs.getLast? = some '_' ∨ ('_', '_') ∈ cs.zip cs.tail then none
  else some (cs.filter (· ≠ '_'))

/-- A text without a point and the zeros after it, if it ends so. -/
def withoutZeroFraction (cs : List Char) : List Char :=
  match cs.dropWhile (· ≠ '.') with
  | '.' :: '0' :: zeros => if zeros.all (· = '0') then cs.takeWhile (· ≠ '.') else cs
  | _ => cs

/-- The whole number that plain digits write, with a minus in front or not.  Zero is not
written in front of other digits, and the minus counts as a digit. -/
def plainWhole? (cs : List Char) : Option Int :=
  let (negative, digits) := match cs with
    | '-' :: digits => (true, digits)
    | digits => (false, digits)
  if digits ≠ [] ∧ digits.all isDigit ∧ (digits.head? = some '0' → digits.length = 1) ∧
      cs.length ≤ maxDigits then
    some (signedValue negative digits)
  else none

/-- The whole number that an argument on a command line writes.  Zeros in front do not
count as digits, and a minus can stand before them or behind them. -/
def argument? (text : String) : Option Int := do
  let unsigned ← withoutPlus (Text.trim text.toList)
  let cs ← trimZeros unsigned
  plainWhole? (← withoutUnderscores (withoutZeroFraction cs))

/-- The exponent that ends a real number; no exponent at all is zero. -/
def exponent? : List Char → Option Int
  | [] => some 0
  | c :: rest =>
    if c = 'e' ∨ c = 'E' then
      let (negative, digits) := splitSign rest
      if digits ≠ [] ∧ digits.all isDigit then
        let n : Int := digitsValue digits
        some (if negative then -n else n)
      else none
    else none

/-- The digits of a real number before and after its point, and what follows them. -/
def splitPoint (cs : List Char) : List Char × List Char × List Char :=
  let whole := cs.takeWhile isDigit
  match cs.dropWhile isDigit with
  | '.' :: rest => (whole, rest.takeWhile isDigit, rest.dropWhile isDigit)
  | rest => (whole, [], rest)

/-- The real number that a text without sign writes in digits. -/
def decimal? (negative : Bool) (cs : List Char) : Option Binary64 :=
  let (whole, fraction, rest) := splitPoint cs
  if whole = [] ∧ fraction = [] then none
  else
    (exponent? rest).map fun e =>
      Binary64.ofDecimal negative (digitsValue (whole ++ fraction)) (e - fraction.length)

/-- The real number that a text writes. -/
def real? (text : String) : Option Binary64 :=
  (normalise text).bind fun cs =>
    let (negative, body) := splitSign cs
    let word := String.ofList (body.map Char.toLower)
    if word = "inf" ∨ word = "infinity" then some (.infinite negative)
    else if word = "nan" then some .nan
    else decimal? negative body

end TaskTree.Numeral
