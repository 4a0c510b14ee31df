import TaskTree.Decimal.Shortest

/-!
# Fifteen digits from wide mantissas

A number can be written with fifteen digits at most.  It is brought between one
and ten by powers of ten, half a unit of the last digit is added, and then the
digits are cut off one by one.

The steps are taken in numbers whose mantissas have 64 bits, and each of them
rounds to the nearest one, a tie going to the even mantissa.  A number that
lies almost in the middle of two decimals goes to the one that these steps
lead to, which need not be the nearer one.
-/

namespace TaskTree

/-- The number `mantissa · 2 ^ exponent`. -/
structure Wide where
  mantissa : Nat
  exponent : Int
  deriving DecidableEq, Repr

namespace Wide

open Binary64

/-- The number nearest to `num / den · 2 ^ e` whose mantissa has 64 bits. -/
def nearest (num den : Nat) (e : Int) : Wide :=
  if num = 0 then ⟨0, 0⟩
  else
    let guess : Int := (num.log2 : Int) - (den.log2 : Int) - 63
    let low := scaled num den guess
    let shift := if low.1 < low.2 * twoTo 63 then guess - 1 else guess
    let part := scaled num den shift
    ⟨roundDiv part.1 part.2, e + shift⟩

/-- The mantissa that a number would have with an exponent that is not greater than its own. -/
def mantissaAt (x : Wide) (e : Int) : Nat :=
  x.mantissa * twoTo (x.exponent - e).toNat

/-- A number is below another one. -/
def isBelow (x y : Wide) : Bool :=
  let e := min x.exponent y.exponent
  x.mantissaAt e < y.mantissaAt e

/-- The rounded sum. -/
def add (x y : Wide) : Wide :=
  let e := min x.exponent y.exponent
  nearest (x.mantissaAt e + y.mantissaAt e) 1 e

/-- The rounded product. -/
def mul (x y : Wide) : Wide :=
  nearest (x.mantissa * y.mantissa) 1 (x.exponent + y.exponent)

/-- The rounded quotient. -/
def div (x y : Wide) : Wide :=
  nearest x.mantissa y.mantissa (x.exponent - y.exponent)

/-- The whole number in front of the point. -/
def whole (x : Wide) : Nat :=
  x.mantissa * twoTo x.exponent.toNat / twoTo (-x.exponent).toNat

/-- What stands behind the point. -/
def fraction (x : Wide) : Wide :=
  ⟨x.mantissa * twoTo x.exponent.toNat % twoTo (-x.exponent).toNat, min x.exponent 0⟩

/-- The power of ten as a binary number of 64 bits. -/
def powerOfTen (power : Int) : Wide :=
  match Binary64.ofDecimal false 1 power with
  | .finite _ mantissa exponent => ⟨mantissa, exponent⟩
  | _ => ⟨0, 0⟩

/-- Multiply a scale, which comes with its power of ten, by a further one as long as the
product is not above a number, and not more often than `times`. -/
def grow (x : Wide) (power : Int) : (times : Nat) → Wide × Int → Wide × Int
  | 0, scale => scale
  | times + 1, (scale, total) =>
    let next := (powerOfTen power).mul scale
    if x.isBelow next then (scale, total) else grow x power times (next, total + power)

/-- Multiply a number by a power of ten as long as it is below a bound, and not more often
than `times`.  With the number comes the power of ten that it is scaled by. -/
def lift (bound power : Int) : (times : Nat) → Wide × Int → Wide × Int
  | 0, x => x
  | times + 1, (x, total) =>
    if x.isBelow (powerOfTen bound) then
      lift bound power times (x.mul (powerOfTen power), total - power)
    else (x, total)

/-- A positive number between one and ten, and the power of ten that it is scaled by.  The
bounds on the steps are those of binary numbers of 64 bits. -/
def unscaled (x : Wide) : Wide × Int :=
  let (scale, power) :=
    [(100, 4), (10, 10), (1, 10)].foldl (fun scale (power, times) => x.grow power times scale)
      (powerOfTen 0, 0)
  lift 0 1 8 (lift (-8) 8 41 (x.div scale, power))

/-- The digits at the front of a number below ten, behind those of `digits`. -/
def cutDigits : (count : Nat) → Wide → (digits : Nat) → Nat
  | 0, _, digits => digits
  | count + 1, x, digits =>
    cutDigits count (x.fraction.mul (powerOfTen 1)) (10 * digits + x.whole)

/-- The number of digits. -/
def digitCount : Nat := 15

/-- Half a unit of the last digit, and as little more as a binary number of 64 bits can
have. -/
def halfUnit : Wide := ⟨0x16849b86a12b9c, -100⟩

/-- The digits of a positive number as a whole number, and the exponent of ten that they are
scaled by. -/
def digits (x : Wide) : Nat × Int :=
  let (x, power) := x.unscaled
  let raised := x.add halfUnit
  let (x, power) :=
    if raised.isBelow (powerOfTen 1) then (raised, power)
    else (raised.mul (powerOfTen (-1)), power + 1)
  stripZeros digitCount (cutDigits digitCount x 0) (power - ((digitCount : Int) - 1))

end Wide

/-- The written form of a number with fifteen digits at most.  Zero has no sign in it. -/
def Binary64.writeRounded (layout : Layout) : Binary64 → String
  | .finite negative mantissa exponent =>
    if mantissa = 0 then "0.0"
    else
      (if negative then "-" else "") ++ writeDecimal layout (Wide.digits ⟨mantissa, exponent⟩)
  | x => x.write layout

end TaskTree
