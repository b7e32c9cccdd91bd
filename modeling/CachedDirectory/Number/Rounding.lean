/-!
# Rounding

Rational numbers are rounded to integers and to binary numbers with a fixed
count of digits, in both cases to the nearest one and from the middle to the
even one. Fixed-point texts are rounded in the same way.
-/

namespace CachedDirectory.Number

/-- The nearest integer; from the middle, the even one. -/
def nearest (value : Rat) : Int :=
  let below := value.floor
  let excess := value - below
  if excess < 1 / 2 then
    below
  else if 1 / 2 < excess then
    below + 1
  else if below % 2 = 0 then
    below
  else
    below + 1

/-- A power of two. -/
def powerOfTwo (exponent : Int) : Rat :=
  if 0 ≤ exponent then (2 : Rat) ^ exponent.toNat else
    1 / (2 : Rat) ^ (-exponent).toNat

/-- A kind of binary numbers. -/
structure BinaryFormat where
  /-- How many binary digits a number has. -/
  digits : Nat
  /-- The exponent of the smallest number; none has a digit below it. -/
  least : Int
deriving DecidableEq, Repr

namespace BinaryFormat

/-- The binary numbers of 64 bits. -/
def double : BinaryFormat :=
  ⟨53, -1074⟩

/-- The binary numbers of 80 bits. -/
def extended : BinaryFormat :=
  ⟨64, -16445⟩

/-- The exponent of the last binary digit that a positive number keeps. -/
def lastDigit (format : BinaryFormat) (value : Rat) : Int :=
  let estimate : Int :=
    (Nat.log2 value.num.natAbs : Int) - Nat.log2 value.den -
      (format.digits - 1 : Nat)
  let scaled := value / powerOfTwo estimate
  let exponent :=
    if scaled < (2 : Rat) ^ (format.digits - 1) then estimate - 1
    else if (2 : Rat) ^ format.digits ≤ scaled then estimate + 1
    else estimate
  max exponent format.least

/-- The nearest number of the format to a number that is not negative. -/
def round (format : BinaryFormat) (value : Rat) : Rat :=
  if value ≤ 0 then
    0
  else
    let unit := powerOfTwo (format.lastDigit value)
    nearest (value / unit) * unit

end BinaryFormat

/-- The nearest number with 53 binary digits to a number that is not
negative. -/
def binary64 (value : Rat) : Rat :=
  BinaryFormat.double.round value

/-- The number with 53 binary digits as which a decimal is read: its digits as a
whole number, then the quotient by the power of ten, each of them rounded.
Powers of ten that are out of range are divided by in two steps. -/
def readDecimal (digits : Nat) (places : Nat) : Rat :=
  let quotient (dividend : Rat) (places : Nat) : Rat :=
    binary64 (dividend / binary64 ((10 : Rat) ^ places))
  if places ≤ 308 then
    quotient (binary64 digits) places
  else
    quotient (quotient (binary64 digits) 308) (min 308 (places - 308))

/-- A number that is not negative, with a fixed count of digits after the
point. -/
def fixedPoint (places : Nat) (value : Rat) : String :=
  let scaled := (nearest (value * (10 : Rat) ^ places)).toNat
  let digits := (toString scaled).toList
  let padded := List.replicate (places + 1 - digits.length) '0' ++ digits
  String.ofList
    (padded.take (padded.length - places) ++ '.' ::
      padded.drop (padded.length - places))

end CachedDirectory.Number
