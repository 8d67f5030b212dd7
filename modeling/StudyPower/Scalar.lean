import StudyPower.Decimal.Numeral
import StudyPower.Mat

/-!
# Scalars

What a number system must offer for study designs to be assembled over it.  The arithmetic is that
of the usual classes; the rest are an order that may leave numbers incomparable, the two values
that are no real numbers, the functions that the covariance structures and polynomial trends use,
and the reading and writing of numbers.

## Main definitions

* `Scalar α` — the operations.
* `Scalar.abs`, `Scalar.sign`, `Scalar.isFinite`, `Scalar.ofBool` — derived from them.
* `Scalar.least?`, `Scalar.greatest?` — the ends of a list, undefined when a member is.
* `Scalar.sum`, `Scalar.mean` — sums are taken in blocks, so that rounding errors stay small.
-/

namespace StudyPower

/-- The operations of a number system over which study designs are assembled. -/
class Scalar (α : Type) extends
    Zero α, One α, Add α, Sub α, Mul α, Div α, Neg α, NatCast α, IntCast α, BEq α where
  /-- The strict order; a value that is not a number is below and above nothing. -/
  lt : α → α → Bool
  /-- The square root. -/
  sqrt : α → α
  /-- The power of a base and an exponent. -/
  pow : α → α → α
  /-- Is the value not a number? -/
  isUndefined : α → Bool
  /-- Is the value an infinity? -/
  isInfinite : α → Bool
  /-- The value of a numeral. -/
  ofNumeral : Decimal.Numeral → α
  /-- The text of a value in a message. -/
  text : α → String
  /-- A square matrix as the product of a matrix with orthonormal columns and an upper triangular
  matrix. -/
  orthogonalize : Mat α → Mat α × Mat α
  /-- The number of bytes that an entry of an array takes, zero where storage is no concern. -/
  entrySize : Nat

namespace Scalar

variable {α : Type} [Scalar α]

/-- The absolute value; that of a zero has no sign. -/
def abs (x : α) : α := if lt 0 x then x else 0 - x

/-- One with the sign of `x`, and `x` itself when it has no sign. -/
def sign (x : α) : α := if lt 0 x then 1 else if lt x 0 then -1 else x

/-- Is the value a real number? -/
def isFinite (x : α) : Bool := !isUndefined x && !isInfinite x

/-- One for true and zero for false. -/
def ofBool (b : Bool) : α := if b then 1 else 0

/-- The lesser of two values, undefined when one of them is. -/
def lesser (x y : α) : α := if isUndefined x then x else if isUndefined y then y
  else if lt y x then y else x

/-- The greater of two values, undefined when one of them is. -/
def greater (x y : α) : α := if isUndefined x then x else if isUndefined y then y
  else if lt x y then y else x

/-- The least member of a list. -/
def least? : List α → Option α
  | [] => none
  | x :: xs => some (xs.foldl lesser x)

/-- The greatest member of a list. -/
def greatest? : List α → Option α
  | [] => none
  | x :: xs => some (xs.foldl greater x)

/-- The number of partial sums that a block of terms is added up in. -/
def laneCount : Nat := 8

/-- The largest number of terms of a block. -/
def blockSize : Nat := 128

/-- The terms added one by one to a start. -/
def sumFrom (start : α) (xs : List α) : α := xs.foldl (· + ·) start

/-- The sum of partial sums, added in pairs, pairs of pairs, and so on. -/
def sumLanes : List α → α
  | [a, b, c, d, e, f, g, h] => ((a + b) + (c + d)) + ((e + f) + (g + h))
  | xs => sumFrom 0 xs

/-- `lanes` with groups of as many terms added position by position, and the terms that are left
when no group is complete. -/
def fillLanes (lanes xs : List α) : Nat → List α × List α
  | 0 => (lanes, xs)
  | groups + 1 => fillLanes (lanes.zipWith (· + ·) xs) (xs.drop laneCount) groups

/-- The sum of a block: fewer than `laneCount` terms one by one, and otherwise in that many partial
sums, to whose sum the terms that are left are added. -/
def sumBlock (xs : List α) : α :=
  if xs.length < laneCount then sumFrom 0 xs
  else
    let (lanes, rest) :=
      fillLanes (xs.take laneCount) (xs.drop laneCount) (xs.length / laneCount - 1)
    sumFrom (sumLanes lanes) rest

/-- The sum of a list: that of its two halves, the first of whole groups, until each half is a
block.  The fuel `depth` bounds the number of halvings. -/
def sumHalves (xs : List α) : Nat → α
  | 0 => sumBlock xs
  | depth + 1 =>
    if xs.length ≤ blockSize then sumBlock xs
    else
      let half := xs.length / 2 - xs.length / 2 % laneCount
      sumHalves (xs.take half) depth + sumHalves (xs.drop half) depth

/-- The sum of a list. -/
def sum (xs : List α) : α := sumHalves xs xs.length

/-- The mean of a list. -/
def mean (xs : List α) : α := sum xs / (xs.length : α)

/-- Are two values the same number?  What is not a number is the same as itself. -/
def same (x y : α) : Bool := x == y || (isUndefined x && isUndefined y)

/-- Are all members of a list different numbers? -/
def allDistinct : List α → Bool
  | [] => true
  | x :: xs => !xs.any (same x) && allDistinct xs

end Scalar

end StudyPower
