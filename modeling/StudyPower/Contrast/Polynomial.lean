import StudyPower.Datum.Conversion

/-!
# Orthonormal polynomials

The polynomials of degrees `0, 1, …, k - 1` on `k` points, orthogonal to each other, of unit length
and with a positive leading coefficient.  The points are moved to mean zero and scaled to lie
between `-1` and `1`; the powers of the points are the columns of a matrix, and the orthonormal
factor of that matrix, with the signs of its triangular factor taken back, holds the polynomials.

## Main definitions

* `Polynomial.standardize` — the points with mean zero and largest absolute value one.
* `Polynomial.powers` — the powers of the points.
* `Polynomial.basis` — the values of the polynomials, a column for each degree.
* `Polynomial.block` — the polynomials of given degrees as rows of a contrast.
-/

namespace StudyPower.Polynomial

variable {α : Type} [Scalar α]

/-- The points moved to mean zero. -/
def center (xs : List α) : List α :=
  let m := Scalar.mean xs
  xs.map (· - m)

/-- The largest absolute value, zero for no points. -/
def extent (xs : List α) : α := (Scalar.greatest? (xs.map Scalar.abs)).getD 0

/-- The points divided by their largest absolute value, when that is positive. -/
def rescale (xs : List α) : List α :=
  let s := extent xs
  if Scalar.lt 0 s then xs.map (· / s) else xs

/-- The points with mean zero and, unless all are equal, largest absolute value one. -/
def standardize (xs : List α) : List α := rescale (center xs)

/-- `x` to the power `n`. -/
def power (x : α) : Nat → α
  | 0 => 1
  | n + 1 => power x n * x

/-- The square matrix with the powers `0, 1, …` of one point in each row. -/
def powers (xs : List α) : Mat α :=
  let points := xs.toArray
  Mat.ofFn xs.length xs.length fun i j => power (points[i]?.getD 0) j

/-- The columns of `q`, each with the sign of the diagonal entry of `r`. -/
def withSigns (q r : Mat α) : Mat α :=
  Mat.ofFn q.rows q.cols fun i j => q.get i j * Scalar.sign (r.get j j)

/-- The values of the orthonormal polynomials at the points, a column for each degree. -/
def basis (xs : List α) : Except (Fault α) (Mat α) :=
  let v := powers (standardize xs)
  if v.toList.all Scalar.isFinite then
    let (q, r) := Scalar.orthogonalize v
    .ok (withSigns q r)
  else .error .nonFiniteLevels

/-- A degree must be at least one and less than the number of points. -/
def checkDegree (k : Nat) (degree : Datum α) : Except (Fault α) Unit := do
  if (← degree.isBelow 1) || (← degree.isAbove ((k : Int) - 1)) then
    throw (.degreeOutOfRange degree k)

/-- The column of a degree, which must be an integer. -/
def columnOf (degree : Datum α) : Except (Fault α) Nat :=
  match degree.int? with
  | some d => .ok d.toNat
  | none => .error .notAnIndex

/-- The columns of the given degrees.  Truth values mark the degrees from zero on instead; one that
is false is no degree, so they mark all. -/
def columnsOf (k : Nat) (degrees : List (Datum α)) : Except (Fault α) (List Nat) :=
  if !degrees.isEmpty && degrees.all (·.bool?.isSome) then
    if degrees.length = k then .ok (List.range k) else .error (.markCount k degrees.length)
  else degrees.mapM columnOf

/-- The polynomials of the given degrees at the points, a row for each degree. -/
def block (xs : List α) (degrees : List (Datum α)) : Except (Fault α) (Mat α) := do
  degrees.forM (checkDegree xs.length)
  if Scalar.allDistinct xs then
    let values ← basis xs
    let columns := (← columnsOf xs.length degrees).toArray
    return Mat.ofFn columns.size values.rows fun i j => values.get j (columns[i]?.getD 0)
  else .error (.repeatedLevels xs)

end StudyPower.Polynomial
