/-!
# Binary floating point numbers of 64 bits

A finite number is `mantissa · 2 ^ exponent` with a sign.  The mantissa is
below `2 ^ 53`, and it is at least `2 ^ 52` unless the exponent is the least
one, so each number has one form.  Numbers come from decimals, which are
rounded to the nearest number, a tie going to the even mantissa; all arithmetic
is on natural numbers.
-/

namespace TaskTree

/-- A binary floating point number of 64 bits. -/
inductive Binary64 where
  | finite (negative : Bool) (mantissa : Nat) (exponent : Int)
  | infinite (negative : Bool)
  | nan
  deriving DecidableEq, Repr

namespace Binary64

/-- The least exponent, the one of the numbers next to zero. -/
def leastExponent : Int := -1074

/-- The exponent of the largest numbers. -/
def greatestExponent : Int := 971

/-- A power of two. -/
def twoTo (n : Nat) : Nat := Nat.pow 2 n

/-- A power of ten. -/
def tenTo (n : Nat) : Nat := Nat.pow 10 n

/-- The quotient rounded to a whole number, a tie going to the even one. -/
def roundDiv (num den : Nat) : Nat :=
  let q := num / den
  let r := num % den
  if 2 * r < den then q
  else if den < 2 * r then q + 1
  else if q % 2 = 0 then q else q + 1

/-- A fraction that equals `num / den / 2 ^ e`. -/
def scaled (num den : Nat) (e : Int) : Nat × Nat :=
  if 0 ≤ e then (num, den * twoTo e.toNat) else (num * twoTo (-e).toNat, den)

/-- The exponent that gives `num / den` a mantissa of 53 bits, or the least one
where that is greater. -/
def exponentFor (num den : Nat) : Int :=
  let guess : Int := (num.log2 : Int) - (den.log2 : Int) - 52
  let low := scaled num den guess
  let e := if low.1 < low.2 * twoTo 52 then guess - 1 else guess
  max e leastExponent

/-- The number nearest to `num / den`. -/
def ofFraction (negative : Bool) (num den : Nat) : Binary64 :=
  let e := exponentFor num den
  let part := scaled num den e
  let m := roundDiv part.1 part.2
  let carried := if m = twoTo 53 then (twoTo 52, e + 1) else (m, e)
  if greatestExponent < carried.2 then .infinite negative
  else if carried.1 = 0 then .finite negative 0 leastExponent
  else .finite negative carried.1 carried.2

/-- The number nearest to `digits · 10 ^ exponent`.  Numbers far outside the range
are decided by their size alone. -/
def ofDecimal (negative : Bool) (digits : Nat) (exponent : Int) : Binary64 :=
  if digits = 0 then .finite negative 0 leastExponent
  else
    let size : Int := (digits.log2 : Int) * 30103 / 100000 + exponent
    if 320 < size then .infinite negative
    else if size < -360 then .finite negative 0 leastExponent
    else if 0 ≤ exponent then ofFraction negative (digits * tenTo exponent.toNat) 1
    else ofFraction negative digits (tenTo (-exponent).toNat)

/-- The greatest number of parts that make up no more than a number, where one is divided into so
many parts.  Infinity counts as a whole number beyond all finite ones, and minus infinity and
what is not a number as its negative. -/
def countParts (parts : Nat) : Binary64 → Int
  | .finite negative mantissa exponent =>
    let size : Int := if negative then -(mantissa * parts) else mantissa * parts
    if 0 ≤ exponent then size * twoTo exponent.toNat else size.fdiv (twoTo (-exponent).toNat)
  | .infinite false => parts * twoTo 1024
  | _ => -(parts * twoTo 1024)

/-- The greatest whole number that is not above a number. -/
def floor (x : Binary64) : Int := x.countParts 1

/-- The least whole number that is not below a number. -/
def ceil : Binary64 → Int
  | .finite negative mantissa exponent => -(finite (!negative) mantissa exponent).floor
  | x => x.floor

/-- The number nearest to a whole number. -/
def ofInt (n : Int) : Binary64 := ofFraction (n < 0) n.natAbs 1

/-- Below zero. -/
def isNegative : Binary64 → Bool
  | .finite negative mantissa _ => negative && mantissa ≠ 0
  | .infinite negative => negative
  | .nan => false

/-- Neither infinite nor something that is no number. -/
def isFinite : Binary64 → Bool
  | .finite .. => true
  | _ => false

/-- Zero of either sign. -/
def isZero : Binary64 → Bool
  | .finite _ 0 _ => true
  | _ => false

end Binary64

end TaskTree
