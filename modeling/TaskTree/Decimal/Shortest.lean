import TaskTree.Decimal.Binary64

/-!
# The fewest digits that read back

A finite number is written with the fewest significant digits whose value
rounds to that number; of the decimals of that length the nearest one is
taken, and a tie goes to the even last digit.  The reals that round to
`m · 2 ^ q` form an interval around it, whose ends belong to it iff `m` is
even.  If a grid of decimals has a point in the interval, then one of the two
neighbours of the number on that grid lies in it, so for each length two
candidates are enough.

`Layout` holds the choices of the written form: where positional notation ends
and how an exponent looks.
-/

namespace TaskTree.Binary64

/-- Positive reals over one denominator: the ends of the interval that rounds to a
number, and the number itself between them. -/
structure Interval where
  low : Nat
  value : Nat
  high : Nat
  den : Nat
  closed : Bool

/-- The interval of a number with a positive mantissa, in quarters of its unit. -/
def interval (mantissa : Nat) (exponent : Int) : Interval :=
  let below := if mantissa = twoTo 52 ∧ exponent ≠ leastExponent then 1 else 2
  let up := twoTo exponent.toNat
  let den := 4 * twoTo (-exponent).toNat
  ⟨(4 * mantissa - below) * up, 4 * mantissa * up, (4 * mantissa + 2) * up, den,
    mantissa % 2 = 0⟩

/-- The point `n · 10 ^ e` lies in the interval. -/
def Interval.holds (i : Interval) (n : Nat) (e : Int) : Bool :=
  let point := n * tenTo e.toNat * i.den
  let unit := tenTo (-e).toNat
  if i.closed then i.low * unit ≤ point && point ≤ i.high * unit
  else i.low * unit < point && point < i.high * unit

/-- The greatest `n` with `n · 10 ^ e` not above the value, and the numerator and
denominator of what is left of the next step. -/
def Interval.gridBelow (i : Interval) (e : Int) : Nat × Nat × Nat :=
  let num := i.value * tenTo (-e).toNat
  let den := i.den * tenTo e.toNat
  (num / den, num % den, den)

/-- The better of the two neighbours on the grid of `10 ^ e`, if one lies in the interval. -/
def Interval.nearest? (i : Interval) (e : Int) : Option Nat :=
  let (n, rest, den) := i.gridBelow e
  let down := i.holds n e
  let up := i.holds (n + 1) e
  if down && up then
    if 2 * rest < den then some n
    else if den < 2 * rest then some (n + 1)
    else if n % 2 = 0 then some n else some (n + 1)
  else if down then some n
  else if up then some (n + 1)
  else none

/-- The exponent of ten of the first significant digit of `num / den`. -/
def leadingPower (num den : Nat) : Int :=
  let guess : Int := ((num.log2 : Int) - (den.log2 : Int)) * 30103 / 100000
  let atLeast (e : Int) : Bool := den * tenTo e.toNat ≤ num * tenTo (-e).toNat
  if atLeast (guess + 1) then guess + 1
  else if atLeast guess then guess
  else guess - 1

/-- Try grids from the coarsest on: `fuel` lengths are left, and the grid is `10 ^ e`. -/
def Interval.search (i : Interval) : (fuel : Nat) → Int → Nat × Int
  | 0, e => ((i.gridBelow e).1, e)
  | fuel + 1, e =>
    match i.nearest? e with
    | some n => (n, e)
    | none => i.search fuel (e - 1)

/-- Digits without zeros at the end, with the exponent that makes up for them. -/
def stripZeros : (fuel : Nat) → Nat → Int → Nat × Int
  | 0, n, e => (n, e)
  | fuel + 1, n, e => if n ≠ 0 ∧ n % 10 = 0 then stripZeros fuel (n / 10) (e + 1) else (n, e)

/-- The shortest decimal of a number with a positive mantissa: its digits as a whole
number, and the exponent of ten that they are scaled by. -/
def shortest (mantissa : Nat) (exponent : Int) : Nat × Int :=
  let i := interval mantissa exponent
  let (n, e) := i.search 17 (leadingPower i.value i.den)
  stripZeros 20 n e

/-- The choices of a written form. -/
structure Layout where
  /-- The least exponent of the first digit that is written positionally. -/
  leastPositional : Int
  /-- The least exponent that no longer is. -/
  endPositional : Int
  /-- The least number of digits of a written exponent. -/
  exponentWidth : Nat
  /-- What stands between a single digit and an exponent. -/
  behindOneDigit : String := ""
  infinity : String
  notANumber : String

/-- Digits in positional notation, `power` being the exponent of the first of them.
A whole number ends in a point and a zero. -/
def positional (digits : String) (power : Int) : String :=
  let cs := digits.toList
  if power < 0 then
    "0." ++ String.ofList (List.replicate (-power - 1).toNat '0') ++ digits
  else
    let whole := power.toNat + 1
    if cs.length ≤ whole then
      digits ++ String.ofList (List.replicate (whole - cs.length) '0') ++ ".0"
    else
      String.ofList (cs.take whole) ++ "." ++ String.ofList (cs.drop whole)

/-- Digits with an exponent, which always has a sign. -/
def scientific (layout : Layout) (digits : String) (power : Int) : String :=
  let cs := digits.toList
  let head := String.ofList (cs.take 1)
  let tail := if cs.length ≤ 1 then layout.behindOneDigit else "." ++ String.ofList (cs.drop 1)
  let size := toString power.natAbs
  let padded := String.ofList (List.replicate (layout.exponentWidth - size.length) '0') ++ size
  head ++ tail ++ "e" ++ (if power < 0 then "-" else "+") ++ padded

/-- The written form of `n · 10 ^ e`, where `n` is positive. -/
def writeDecimal (layout : Layout) (decimal : Nat × Int) : String :=
  let digits := toString decimal.1
  let power := decimal.2 + (digits.length : Int) - 1
  if layout.leastPositional ≤ power ∧ power < layout.endPositional then
    positional digits power
  else scientific layout digits power

/-- The written form of a number. -/
def write (layout : Layout) : Binary64 → String
  | .nan => layout.notANumber
  | .infinite negative => (if negative then "-" else "") ++ layout.infinity
  | .finite negative mantissa exponent =>
    let sign := if negative then "-" else ""
    if mantissa = 0 then sign ++ "0.0"
    else sign ++ writeDecimal layout (shortest mantissa exponent)

end TaskTree.Binary64
