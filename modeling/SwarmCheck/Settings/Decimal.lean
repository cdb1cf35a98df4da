/-!
# Decimal numbers

A number written in decimal notation, kept exactly: digits scaled by a power of ten. Whether it
counts as a whole number is decided after rounding to the nearest double-precision number, a tie
going to the even neighbour.
-/

namespace SwarmCheck

set_option autoImplicit false

/-- Stands for `digits * 10 ^ exponent`, or its negative. -/
structure Decimal where
  negative : Bool
  digits : Nat
  exponent : Int
  deriving DecidableEq, Repr

namespace Decimal

def digitCount (digits : Nat) : Nat := (Nat.toDigits 10 digits).length

/-- The value lies in `[10 ^ (m - 1), 10 ^ m)` for this `m`, unless it is zero. -/
def magnitude (decimal : Decimal) : Int := digitCount decimal.digits + decimal.exponent

/-- The whole number nearest to a quotient; a tie goes to the even neighbour. -/
def roundQuotient (numerator denominator : Nat) : Nat :=
  let quotient := numerator / denominator
  let twice := 2 * (numerator % denominator)
  if denominator < twice || (twice = denominator && quotient % 2 = 1) then quotient + 1
  else quotient

/-- The `k` with `2 ^ k ≤ numerator / denominator < 2 ^ (k + 1)`, for a quotient that is not
zero. -/
def binaryOrder (numerator denominator : Nat) : Int :=
  let guess : Int := (numerator.log2 : Int) - denominator.log2
  if denominator * Nat.pow 2 guess.toNat ≤ numerator * Nat.pow 2 (-guess).toNat then guess
  else guess - 1

/-- The double nearest to a quotient, as a mantissa of 53 bits and an exponent of two, which is
never below that of the least double. -/
def nearestDouble (numerator denominator : Nat) : Nat × Int :=
  let exponent := max (binaryOrder numerator denominator - 52) (-1074)
  (roundQuotient (numerator * Nat.pow 2 (-exponent).toNat)
    (denominator * Nat.pow 2 exponent.toNat), exponent)

/-- A double that is a whole number, as that number. There is none from `2 ^ 1024` on. -/
def wholeDouble? (mantissa : Nat) (exponent : Int) : Option Nat :=
  let unit := Nat.pow 2 (-exponent).toNat
  let whole := mantissa * Nat.pow 2 exponent.toNat / unit
  if mantissa % unit = 0 && whole < Nat.pow 2 1024 then some whole else none

/-- The nearest double of a decimal without its sign, if that is a whole number. Beyond 400
places before or after the point it is infinite or zero. -/
def wholeSize? (decimal : Decimal) : Option Nat :=
  if decimal.digits = 0 || decimal.magnitude < -400 then some 0
  else if 400 < decimal.magnitude then none
  else
    let (mantissa, exponent) :=
      nearestDouble (decimal.digits * Nat.pow 10 decimal.exponent.toNat)
        (Nat.pow 10 (-decimal.exponent).toNat)
    wholeDouble? mantissa exponent

def whole? (decimal : Decimal) : Option Int :=
  decimal.wholeSize?.map fun size => if decimal.negative then -size else size

private def isDigit (c : Char) : Bool := '0' ≤ c && c ≤ '9'

def natOfDigits (base : Nat) (digits : List Nat) : Nat :=
  digits.foldl (fun total digit => total * base + digit) 0

private def decimalDigits (chars : List Char) : List Nat :=
  chars.map fun c => c.toNat - '0'.toNat

private def takeSign : List Char → Bool × List Char
  | '-' :: rest => (true, rest)
  | '+' :: rest => (false, rest)
  | chars => (false, chars)

private def readExponent : List Char → Option Int
  | [] => some 0
  | mark :: chars =>
      if mark = 'e' || mark = 'E' then
        let (negative, rest) := takeSign chars
        if rest.isEmpty || !rest.all isDigit then none
        else
          let size : Int := natOfDigits 10 (decimalDigits rest)
          some (if negative then -size else size)
      else none

private def takeFraction : List Char → List Char × List Char
  | '.' :: rest => (rest.takeWhile isDigit, rest.dropWhile isDigit)
  | chars => ([], chars)

/-- Reads an optional sign, digits, an optional fraction and an optional exponent. -/
def ofText? (text : String) : Option Decimal :=
  let (negative, unsigned) := takeSign text.toList
  let whole := unsigned.takeWhile isDigit
  let (fraction, rest) := takeFraction (unsigned.dropWhile isDigit)
  if whole.isEmpty then none
  else
    (readExponent rest).map fun exponent =>
      ⟨negative, natOfDigits 10 (decimalDigits (whole ++ fraction)), exponent - fraction.length⟩

end Decimal

end SwarmCheck
