import StudyPower.Decimal.Shortest
import StudyPower.Mat.Orthogonal
import StudyPower.Scalar

/-!
# Double-precision scalars

The scalars that studies run on.  Integers and numerals are rounded to the nearest double, a tie
to the even one, and a numeral beyond the largest double is an infinity.  Columns are made
orthogonal exactly, since doubles are multiples of powers of two, and rounded only at the end.

## Main definitions

* `Double.ofDecimal` — `± digits · 10 ^ exponent` rounded to a double.
* `Double.orthogonalize` — orthonormal columns and the triangular coefficients.
* the instance `Scalar Float`.
-/

namespace StudyPower

namespace Double

/-- What is not a number. -/
def undefined : Float := 0.0 / 0.0

/-- An infinity. -/
def infinite (negative : Bool) : Float := if negative then -1.0 / 0.0 else 1.0 / 0.0

/-- `± digits · 10 ^ exponent` rounded to the nearest double.  Beyond the range of doubles the
power is not worked out. -/
def ofDecimal (negative : Bool) (digits : Nat) (exponent : Int) : Float :=
  let lead := exponent + (Nat.toDigits 10 digits).length
  let magnitude : Float :=
    if digits = 0 ∨ lead < -400 then 0.0
    else if 400 < lead then infinite false
    else Float.ofScientific digits (exponent < 0) exponent.natAbs
  if negative then -magnitude else magnitude

/-- The value of a numeral. -/
def ofNumeral : Decimal.Numeral → Float
  | .finite negative digits exponent => ofDecimal negative digits exponent
  | .infinite negative => infinite negative
  | .undefined => undefined

/-! ### Orthogonal columns -/

/-- The mantissa with its sign, and the exponent; zero for what is no real number. -/
def parts (x : Float) : Int × Int :=
  match Decimal.Binary.ofFloat x with
  | .finite negative m e => (if negative then -(m : Int) else m, e)
  | _ => (0, 0)

/-- A column as multiples of one power of two: the multiples and the exponent of the power. -/
def integral (xs : List Float) : List Int × Int :=
  let all := xs.map parts
  let exponents := (all.filter (·.1 ≠ 0)).map (·.2)
  let unit := exponents.foldl min (exponents.headD 0)
  (all.map fun (m, e) => if m = 0 then 0 else m <<< (e - unit).toNat, unit)

/-- The number of leading bits that an integer keeps before it is rounded. -/
def keptBits : Nat := 62

/-- An integer without its last `n` bits. -/
def dropBits (n : Nat) (x : Int) : Float :=
  let magnitude := (x.natAbs >>> n).toFloat
  if x < 0 then -magnitude else magnitude

/-- An integer as a double times a power of two. -/
def scaled (x : Int) : Float × Int :=
  let n := x.natAbs.log2 - keptBits
  (dropBits n x, n)

/-- The direction of a vector, and zero for the zero vector. -/
def normalize (v : List Int) : List Float :=
  let n := ((v.map Int.natAbs).foldl max 0).log2 - keptBits
  let xs := v.map (dropBits n)
  let length := (xs.foldl (fun sum x => sum + x * x) 0).sqrt
  if length == 0 then xs else xs.map (· / length)

/-- The component along `q` of a column that is `v` times a power of two. -/
def component (q v : List Int) (unit : Int) : Float :=
  let (x, n) := scaled (Orthogonal.dot q v)
  let (square, bits) := scaled (Orthogonal.dot q q)
  let (square, bits) := if bits % 2 = 0 then (square, bits) else (2 * square, bits - 1)
  if square == 0 then 0 else (x / square.sqrt).scaleB (n - bits / 2 + unit)

/-- Orthonormal columns and an upper triangular matrix whose product is the matrix.  A column that
depends on the columns before it has a zero column in the first. -/
def orthogonalize (m : Mat Float) : Mat Float × Mat Float :=
  let columns := m.columns.map integral
  let directions := Orthogonal.remainders (columns.map (·.1))
  let coefficients := columns.map fun (v, unit) => directions.map fun q => component q v unit
  let r := Mat.ofColumns m.cols coefficients
  (Mat.ofColumns m.rows (directions.map normalize),
    Mat.ofFn m.cols m.cols fun i j => if i ≤ j then r.get i j else 0)

end Double

instance : Scalar Float where
  zero := 0.0
  one := 1.0
  natCast n := Double.ofDecimal false n 0
  intCast n := Double.ofDecimal (n < 0) n.natAbs 0
  lt x y := x < y
  sqrt := Float.sqrt
  pow := Float.pow
  isUndefined := Float.isNaN
  isInfinite := Float.isInf
  ofNumeral := Double.ofNumeral
  text := Decimal.shortest
  orthogonalize := Double.orthogonalize
  entrySize := 8

end StudyPower
