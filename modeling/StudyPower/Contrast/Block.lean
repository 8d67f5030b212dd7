import StudyPower.Contrast.Polynomial
import StudyPower.Design.Parts

/-!
# Contrast blocks

The block that one factor contributes to a contrast.  Its columns are the levels of the factor and
its rows the comparisons among them; a factor that is not under test contributes the average of its
levels.

## Main definitions

* `Contrast.mainEffect` — the first level against each other level.
* `Contrast.average` — the average of all levels.
* `Contrast.changeFromBaseline` — each later level against the first.
* `Contrast.trend` — the block for a comparison at given points.
-/

namespace StudyPower.Contrast

variable {α : Type} [Scalar α]

/-- Row `i` compares the first of `k` levels with level `i + 1`. -/
def firstAgainstRest (k : Nat) : Mat α :=
  Mat.ofFn (k - 1) k fun i j => if j = 0 then 1 else if j = i + 1 then -1 else 0

/-- The first level against each other level, for a declared number of at least two levels. -/
def mainEffect (k : Datum α) : Except (Fault α) (Mat α) := do
  if ← k.isBelow 2 then throw (.tooFewLevels k)
  let n ← k.toIndex
  let (_, cols) ← checkShape (n - 1) n
  return firstAgainstRest cols

/-- The average of all levels, for a declared number of at least one level. -/
def average (k : Datum α) : Except (Fault α) (Mat α) := do
  if ← k.isBelow 1 then throw (.noLevels k)
  let n ← k.toIndex
  let share ← (1 / ·) <$> Datum.realOfInt n
  let (rows, cols) ← checkShape 1 n
  return Mat.filled rows cols share

/-- Each later level against the first. -/
def changeFromBaseline (k : Datum α) : Except (Fault α) (Mat α) := do
  return (← mainEffect k).map (-·)

/-- All degrees from one to below `k`. -/
def allDegrees (k : Nat) : List (Datum α) :=
  (List.range (k - 1)).map fun d => .int ((d + 1 : Nat) : Int)

/-- The block for a comparison among levels at the given points. -/
def trend (t : Trend) (points : Points α) : Except (Fault α) (Mat α) := do
  let k ← points.count
  match t with
  | .none => mainEffect (.int k)
  | .changeFromBaseline => changeFromBaseline (.int k)
  | .allPolynomial => Polynomial.block (← points.values) (allDegrees k)
  | .linear => Polynomial.block (← points.values) [.int 1]
  | .quadratic => Polynomial.block (← points.values) [.int 2]
  | .cubic => Polynomial.block (← points.values) [.int 3]

end StudyPower.Contrast
