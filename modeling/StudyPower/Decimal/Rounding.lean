/-!
# Rounding binary numbers to decimal digits

A double-precision number is `± m · 2 ^ e` for natural `m`, so its decimal digits are quotients of
natural numbers.  Rounding is to the nearest digit string, and a tie goes to the even digit.

## Main definitions

* `Binary` — the value of a double-precision number; `Binary.ofFloat` reads one.
* `roundDiv` — a quotient of natural numbers rounded to the nearest integer.
* `fixedDigits` — a quotient rounded to a number of decimal places.
* `Significant`, `significant` — a positive quotient rounded to a number of significant digits.
-/

namespace StudyPower.Decimal

/-- The value of a double-precision number. -/
inductive Binary where
  /-- `± mantissa · 2 ^ exponent`. -/
  | finite (negative : Bool) (mantissa : Nat) (exponent : Int)
  /-- An infinity. -/
  | infinite (negative : Bool)
  /-- Not a number. -/
  | undefined
  deriving DecidableEq, Repr

/-- The value written by the sign bit, the eleven exponent bits and the 52 fraction bits. -/
def Binary.ofFloat (x : Float) : Binary :=
  let bits := x.toBits.toNat
  let negative := bits >>> 63 == 1
  let biased := (bits >>> 52) % 2048
  let fraction := bits % (1 <<< 52)
  if biased = 2047 then
    if fraction = 0 then .infinite negative else .undefined
  else if biased = 0 then .finite negative fraction (-1074)
  else .finite negative ((1 <<< 52) + fraction) ((biased : Int) - 1075)

/-- A quotient of natural numbers. -/
structure Ratio where
  /-- The numerator. -/
  num : Nat
  /-- The denominator. -/
  den : Nat
  deriving DecidableEq, Repr

namespace Ratio

/-- `m · 2 ^ e`. -/
def ofBinary (m : Nat) : Int → Ratio
  | .ofNat e => ⟨m <<< e, 1⟩
  | .negSucc e => ⟨m, 1 <<< (e + 1)⟩

/-- The quotient times `10 ^ k`. -/
def scale (q : Ratio) : Int → Ratio
  | .ofNat k => ⟨q.num * Nat.pow 10 k, q.den⟩
  | .negSucc k => ⟨q.num, q.den * Nat.pow 10 (k + 1)⟩

/-- The number of decimal digits of a natural number. -/
def digitCount (n : Nat) : Nat := (Nat.toDigits 10 n).length

/-- For a positive quotient, the `k` with `10 ^ k ≤ q < 10 ^ (k + 1)`. -/
def leadingExponent (q : Ratio) : Int :=
  let guess : Int := (digitCount q.num : Int) - digitCount q.den
  let scaled := q.scale (-guess)
  if scaled.den ≤ scaled.num then guess else guess - 1

end Ratio

/-- `num / den` rounded to the nearest integer, a tie to the even one. -/
def roundDiv (num den : Nat) : Nat :=
  let whole := num / den
  let rest := num % den
  if 2 * rest < den then whole
  else if den < 2 * rest then whole + 1
  else if whole % 2 = 0 then whole else whole + 1

/-- The quotient times `10 ^ places`, rounded to an integer. -/
def fixedDigits (places : Nat) (q : Ratio) : Nat :=
  roundDiv (q.num * Nat.pow 10 places) q.den

/-- A number with a fixed count of significant digits: the digits as an integer, and the power of
ten of the first of them. -/
structure Significant where
  /-- The digits. -/
  digits : Nat
  /-- The exponent of the leading digit. -/
  exponent : Int
  deriving DecidableEq, Repr

/-- A positive quotient rounded to `count` significant digits. -/
def significant (count : Nat) (q : Ratio) : Significant :=
  let lead := q.leadingExponent
  let scaled := q.scale ((count : Int) - 1 - lead)
  let digits := roundDiv scaled.num scaled.den
  if digits = Nat.pow 10 count then ⟨Nat.pow 10 (count - 1), lead + 1⟩ else ⟨digits, lead⟩

end StudyPower.Decimal
