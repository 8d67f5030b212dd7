import Mathlib
import StudyPower.Mat.Orthogonal
import StudyPower.Scalar.Double

/-!
# Exact arithmetic

An exact scalar is an ordered field in which nothing is rounded and nothing is infinite or
undefined.  The functions that no field has, the square root, the power and the orthogonal factor of
a matrix, stay as the instance gives them; only the size of the orthogonal factor is fixed.  That
size is all that the sizes of a study's matrices depend on, and doubles keep it too.

## Main definitions

* `Scalar.KeepsRows α` — scalars whose orthonormal factors have the rows of their matrices.
* `ExactScalar α` — scalars that form an ordered field.
* `Rational.sqrt`, `Rational.orthogonalize` — what the rational numbers offer: they are exact where
  the result is rational, and otherwise round a length down.

## Main statements

* `ExactScalar ℚ` — the rational numbers are exact scalars.
* `Scalar.KeepsRows Float` — doubles keep the rows of a matrix.
-/

namespace StudyPower

/-- The orthonormal factor of a matrix has as many rows as the matrix. -/
class Scalar.KeepsRows (α : Type) [Scalar α] : Prop where
  /-- The orthonormal factor has the rows of the matrix. -/
  rows_orthogonalize (m : Mat α) : (Scalar.orthogonalize m).1.rows = m.rows

@[simp] theorem Scalar.rows_orthogonalize {α : Type} [Scalar α] [Scalar.KeepsRows α] (m : Mat α) :
    (orthogonalize m).1.rows = m.rows :=
  KeepsRows.rows_orthogonalize m

instance : Scalar.KeepsRows Float where
  rows_orthogonalize _ := rfl

/-- Scalars that form an ordered field. -/
class ExactScalar (α : Type) extends Field α, Scalar α where
  /-- The order of the field. -/
  order : LinearOrder α
  /-- The order fits the arithmetic. -/
  isStrictOrderedRing : IsStrictOrderedRing α
  /-- The strict order of the scalars is that of the field. -/
  lt_iff (x y : α) : Scalar.lt x y = true ↔ x < y
  /-- Comparing two scalars decides whether they are equal. -/
  beq_iff (x y : α) : (x == y) = true ↔ x = y
  /-- Every scalar is a number. -/
  isUndefined_eq (x : α) : Scalar.isUndefined x = false
  /-- No scalar is infinite. -/
  isInfinite_eq (x : α) : Scalar.isInfinite x = false
  /-- The orthonormal factor has the rows of the matrix. -/
  rows_orthogonalize (m : Mat α) : (Scalar.orthogonalize m).1.rows = m.rows

attribute [reducible, instance] ExactScalar.order
attribute [instance] ExactScalar.isStrictOrderedRing

namespace Scalar

variable {α : Type} [ExactScalar α]

@[simp] theorem isUndefined_eq_false (x : α) : isUndefined x = false := ExactScalar.isUndefined_eq x

@[simp] theorem isInfinite_eq_false (x : α) : isInfinite x = false := ExactScalar.isInfinite_eq x

instance : KeepsRows α where
  rows_orthogonalize := ExactScalar.rows_orthogonalize

end Scalar

/-! ### Rational numbers -/

namespace Rational

/-- The square root of a natural number, rounded down. -/
def natRoot (n : ℕ) : ℕ := Nat.findGreatest (fun r => r * r ≤ n) n

/-- The quotient of the square roots of the numerator and the denominator. -/
def sqrt (x : ℚ) : ℚ := natRoot x.num.toNat / natRoot x.den

/-- The inner product. -/
def dot (v w : List ℚ) : ℚ := (v.zipWith (· * ·) w).sum

/-- A column divided by its length. -/
def normalize (v : List ℚ) : List ℚ := v.map (· / sqrt (dot v v))

/-- A column without its components along earlier columns. -/
def clear (earlier : List (List ℚ)) (v : List ℚ) : List ℚ :=
  earlier.foldl (fun left u => left.zipWith (fun x y => x - dot v u / dot u u * y) u) v

/-- The columns made orthogonal from the left and divided by their lengths. -/
def orthonormalColumns (columns : List (List ℚ)) : List (List ℚ) :=
  columns.foldl (fun earlier v => earlier ++ [normalize (clear earlier v)]) []

/-- The orthonormal columns, and the inner products with the columns that they came from. -/
def orthogonalize (m : Mat ℚ) : Mat ℚ × Mat ℚ :=
  let units := orthonormalColumns m.columns
  (Mat.ofColumns m.rows units,
    Mat.ofColumns m.cols (m.columns.map fun v => units.map fun u => dot u v))

/-- The value of a numeral, zero for those that are no real numbers. -/
def ofNumeral : Decimal.Numeral → ℚ
  | .finite negative digits exponent => (if negative then -1 else 1) * digits * 10 ^ exponent
  | _ => 0

end Rational

instance : ExactScalar ℚ where
  lt x y := x < y
  sqrt := Rational.sqrt
  pow x y := x ^ y.num
  isUndefined _ := false
  isInfinite _ := false
  ofNumeral := Rational.ofNumeral
  text x := toString x
  orthogonalize := Rational.orthogonalize
  entrySize := 0
  order := inferInstance
  isStrictOrderedRing := inferInstance
  lt_iff x y := by simp
  beq_iff x y := by simp
  isUndefined_eq _ := rfl
  isInfinite_eq _ := rfl
  rows_orthogonalize _ := rfl

end StudyPower
