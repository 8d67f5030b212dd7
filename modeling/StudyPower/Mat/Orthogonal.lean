import StudyPower.Mat

/-!
# Orthogonal columns

The columns of an integer matrix are made orthogonal from the left without leaving the integers, so
that no rounding decides which columns depend on those before them.  A column loses its components
along the directions before it, each time scaled by the determinant of the inner products of the
columns so far; the divisions come out even.  What is left of a column that depends on the columns
before it is zero.

## Main definitions

* `Mat.columns`, `Mat.ofColumns` — a matrix as the list of its columns.
* `Orthogonal.Direction` — what is left of an independent column.
* `Orthogonal.remainders` — what is left of each column.
-/

namespace StudyPower

universe u

namespace Mat

variable {α : Type u}

/-- The columns as lists, from the left. -/
def columns [Zero α] (m : Mat α) : List (List α) :=
  (List.range m.cols).map fun j => (List.range m.rows).map fun i => m.get i j

/-- The matrix with these columns. -/
def ofColumns [Zero α] (rows : Nat) (columns : List (List α)) : Mat α :=
  ofFn rows columns.length fun i j => (columns[j]?.bind fun column => column[i]?).getD 0

end Mat

namespace Orthogonal

/-- The inner product. -/
def dot (v w : List Int) : Int := (v.zipWith (· * ·) w).foldl (· + ·) 0

/-- What is left of a column that does not depend on the columns before it. -/
structure Direction where
  /-- The remainder, times the determinant `before`. -/
  remainder : List Int
  /-- The determinant of the inner products of the independent columns before this one. -/
  before : Int
  /-- The same determinant with this column. -/
  upTo : Int
  deriving DecidableEq, Repr

/-- Remove the component of the column `v` along a direction from what is left of it. -/
def Direction.clear (d : Direction) (v left : List Int) : List Int :=
  let c := dot v d.remainder
  left.zipWith (fun x y => (d.upTo * x - c * y) / d.before) d.remainder

/-- The directions found so far and what is left of every column so far. -/
structure Progress where
  /-- The directions. -/
  directions : List Direction := []
  /-- The determinant of the inner products of the independent columns. -/
  determinant : Int := 1
  /-- The remainders. -/
  remainders : List (List Int) := []

/-- One more column. -/
def Progress.extend (p : Progress) (v : List Int) : Progress :=
  let left := p.directions.foldl (fun left d => d.clear v left) v
  let square := dot left left
  let remainders := p.remainders ++ [left]
  if square = 0 then { p with remainders }
  else
    let upTo := square / p.determinant
    ⟨p.directions ++ [⟨left, p.determinant, upTo⟩], upTo, remainders⟩

/-- What is left of each column when its components along the columns before it are removed, up to
a positive factor. -/
def remainders (columns : List (List Int)) : List (List Int) :=
  (columns.foldl Progress.extend {}).remainders

end Orthogonal

end StudyPower
