import CachedDirectory.Number.Rounding

/-!
# Numerals

A numeral is a text that writes a number: a sign, digits with or without a
point, and an exponent, with blanks around it. It stands for the binary number
of 64 bits that comes out when its first nineteen or so digits are multiplied by
powers of ten in extended precision.
-/

namespace CachedDirectory.Number

/-- A binary number of 64 bits, or one beyond all of them. -/
inductive Binary where
  | finite (value : Rat)
  | infinite (isNegative : Bool)
deriving DecidableEq, Repr

/-- A number as a text writes it. -/
structure Numeral where
  isNegative : Bool
  /-- The digits before the point. -/
  whole : List Char
  /-- The digits after the point. -/
  fraction : List Char
  exponent : Int
  /-- Whether the text has neither a point nor an exponent. -/
  isPlain : Bool
deriving DecidableEq, Repr

namespace Numeral

/-- The blanks that may surround a number. -/
def isPadding (c : Char) : Bool :=
  c == ' ' || (0x9 ≤ c.toNat && c.toNat ≤ 0xD)

/-- The value of a digit. -/
def digitValue (c : Char) : Nat :=
  c.toNat - '0'.toNat

/-- The value of a row of decimal digits. -/
def digitsValue (digits : List Char) : Nat :=
  digits.foldl (fun value c => 10 * value + digitValue c) 0

/-- A sign, if there is one, and what follows it. -/
def splitSign : List Char → Bool × List Char
  | '-' :: rest => (true, rest)
  | '+' :: rest => (false, rest)
  | rest => (false, rest)

/-- The value of an exponent, of which no more than four digits and the next one
count. -/
def exponentValue (digits : List Char) : Nat :=
  digits.foldl (fun value c =>
    if value < 10000 then 10 * value + digitValue c else 10000) 0

/-- The exponent written at the end of a number; zero if there is none. -/
def exponent? : List Char → Option Int
  | [] => some 0
  | mark :: rest =>
      let (isNegative, digits) := splitSign rest
      if (mark == 'e' || mark == 'E') && !digits.isEmpty &&
        digits.all Char.isDigit then
        some (if isNegative then -(exponentValue digits : Int) else
          exponentValue digits)
      else
        none

/-- The numeral that a text is, if it is one. -/
def ofText? (content : String) : Option Numeral :=
  let trimmed :=
    ((content.toList.dropWhile isPadding).reverse.dropWhile isPadding).reverse
  let (isNegative, unsigned) := splitSign trimmed
  let whole := unsigned.takeWhile Char.isDigit
  let afterWhole := unsigned.dropWhile Char.isDigit
  let (fraction, tail) :=
    match afterWhole with
    | '.' :: rest => (rest.takeWhile Char.isDigit, rest.dropWhile Char.isDigit)
    | rest => ([], rest)
  if whole.isEmpty && fraction.isEmpty then
    none
  else
    (exponent? tail).map fun exponent =>
      ⟨isNegative, whole, fraction, exponent, afterWhole.isEmpty⟩

/-- The integer that a numeral without a point and an exponent writes. -/
def integer? (numeral : Numeral) : Option Int :=
  if numeral.isPlain then
    let magnitude : Int := digitsValue numeral.whole
    some (if numeral.isNegative then -magnitude else magnitude)
  else
    none

/-- Digits are taken in as long as the value is below this bound, so that they
fit in 64 bits. -/
def takingBound : Nat :=
  (Nat.pow 2 64 - 10) / 10

/-- Takes in a digit before the point, or makes up for it in the power of
ten. -/
def takeWholeDigit (taken : Nat × Int) (c : Char) : Nat × Int :=
  let (value, power) := taken
  if value < takingBound then (10 * value + digitValue c, power) else
    (value, power + 1)

/-- Takes in a digit after the point, or leaves it out. -/
def takeFractionDigit (taken : Nat × Int) (c : Char) : Nat × Int :=
  let (value, power) := taken
  if value < takingBound then (10 * value + digitValue c, power - 1) else taken

/-- The digits of a numeral that count, as a value, with the power of ten that
multiplies it. -/
def significand (numeral : Numeral) : Nat × Int :=
  numeral.fraction.foldl takeFractionDigit
    (numeral.whole.foldl takeWholeDigit (0, numeral.exponent))

/-- Powers of ten are moved into the value as long as it is below this bound. -/
def balancingBound : Nat :=
  (Nat.pow 2 64 - 2048) / 10

/-- Brings the power of ten closer to zero, by zeros put to the value or taken
from it. -/
def balance : Nat → Nat × Int → Nat × Int
  | 0, taken => taken
  | moves + 1, (value, power) =>
      if 0 < power ∧ value < balancingBound then
        balance moves (10 * value, power - 1)
      else if power < 0 ∧ value % 10 = 0 then
        balance moves (value / 10, power + 1)
      else
        (value, power)

/-- Powers of ten beyond this one leave no number of 64 bits. -/
def farthestPower : Nat :=
  400

/-- A value multiplied by a power of ten, in steps of which each is rounded. -/
def scale (value : Rat) (power : Int) : Rat :=
  let count := min power.natAbs farthestPower
  let factor (size : Nat) : Rat :=
    BinaryFormat.extended.round
      (if 0 ≤ power then (10 : Rat) ^ size else 1 / (10 : Rat) ^ size)
  let step (size : Nat) (reached : Rat) : Rat :=
    BinaryFormat.extended.round (reached * factor size)
  Nat.repeat (step 1) (count % 10)
    (Nat.repeat (step 10) (count / 10 % 10)
      (Nat.repeat (step 100) (count / 100) value))

/-- The greatest number of 64 bits. -/
def greatest : Rat :=
  (Rat.pow 2 53 - 1) * Rat.pow 2 971

/-- The binary number that a numeral stands for. The value has at most twenty
digits, so that many moves balance it. -/
def toBinary (numeral : Numeral) : Binary :=
  let (value, power) := balance 20 numeral.significand
  let magnitude := if value = 0 then 0 else scale value power
  if greatest < magnitude then
    .infinite numeral.isNegative
  else
    let rounded := BinaryFormat.double.round magnitude
    .finite (if numeral.isNegative then -rounded else rounded)

end Numeral

end CachedDirectory.Number
