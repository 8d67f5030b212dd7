import StudyPower.Design.Parts
import StudyPower.Journal

/-!
# Covariance matrices

The matrix that a declared covariance structure stands for at a given number of levels.

## Main definitions

* `Covariance.compoundSymmetric` — one on the diagonal and one value elsewhere.
* `Covariance.decaying` — correlations that decay with the distance of two measurements: the base
  to an exponent that runs from the least distance to that distance plus the decay.
* `Covariance.withDeviations` — a correlation matrix scaled by standard deviations.
* `Covariance.toMat` — the matrix of a declared structure, when it fits the number of levels.
-/

namespace StudyPower.Covariance

variable {α : Type} [Scalar α]

/-- One on the diagonal and `correlation` elsewhere. -/
def compoundSymmetric (size : Nat) (correlation : α) : Mat α := Mat.diagonal size 1 correlation

/-- The distances of all pairs of different members, in either order. -/
def pairDistances (points : Array α) : List α :=
  (List.range points.size).flatMap fun i =>
    ((List.range points.size).filter (· ≠ i)).map fun j =>
      Scalar.abs (points[i]?.getD 0 - points[j]?.getD 0)

/-- The exponent at a distance, when the distances run from `near` to `far`. -/
def exponentAt (decay near far distance : α) : α :=
  if Scalar.lt near far then near + decay * (distance - near) / (far - near) else near

/-- The number that a declared parameter is in a term with another number. -/
def operand (operator : String) (parameter : Datum α) : Except (Fault α) α :=
  match parameter.real? with
  | some x => .ok x
  | none => .error (.notCombined operator parameter.kindName "float")

/-- The correlations of measurements at the given points, with declared parameters.  A parameter
that is not needed need not be a number: neither is for one measurement, nor is the decay when all
distances are equal. -/
def decaying (base decay : Datum α) (spacing : List α) : Except (Fault α) (Mat α) := do
  if spacing.length = 1 then return Mat.filled 1 1 1
  let points := spacing.toArray
  let distances := pairDistances points
  match Scalar.least? distances, Scalar.greatest? distances with
  | some near, some far =>
    let decay ← if Scalar.lt near far then operand "*" decay else pure 0
    let base ← operand "** or pow()" base
    return Mat.ofFn spacing.length spacing.length fun i j =>
      if i = j then 1
      else
        let distance := Scalar.abs (points[i]?.getD 0 - points[j]?.getD 0)
        Scalar.pow base (exponentAt decay near far distance)
  | _, _ => throw .noDistances

/-- A correlation matrix scaled by standard deviations, when there is one for each row. -/
def withDeviations (correlation : Mat α) (deviations : Option (List α)) : Option (Mat α) :=
  match deviations with
  | none => some correlation
  | some values =>
    if values.length = correlation.rows then
      let s := values.toArray
      some (Mat.ofFn correlation.rows correlation.cols fun i j =>
        correlation.get i j * (s[i]?.getD 0 * s[j]?.getD 0))
    else none

/-- Is the matrix square with this declared number of rows? -/
def hasSize (m : Mat α) (size : Datum α) : Bool := size.equals m.rows && size.equals m.cols

/-- The matrix, when it has the expected size. -/
def ofSize (name : String) (size : Datum α) (m : Option (Mat α)) : Journal α (Option (Mat α)) := do
  match m.filter (hasSize · size) with
  | some m => return some m
  | none =>
    Journal.note (.unexpectedSize name (size.int?.getD 0))
    return none

/-- The correlations of a decaying structure scaled by its deviations. -/
def decayingMat (c : Covariance α) (size : Datum α) (points : Points α) :
    Journal α (Option (Mat α)) := do
  if size.equals (← points.count) then
    let correlation ← (points.values >>= decaying c.base c.decay : Except (Fault α) (Mat α))
    ofSize c.name size (withDeviations correlation c.deviations)
  else return none

/-- The matrix of a declared structure with `size` levels at the given points, or nothing when the
structure is incomplete or does not fit.  Absent points are `1, 2, …, size`. -/
def toMat (c : Covariance α) (size : Datum α) (points : Option (Points α)) :
    Journal α (Option (Mat α)) := do
  match c.kind with
  | .covariance => ofSize c.name size c.matrix
  | .correlation =>
    match c.matrix.filter (hasSize · size) with
    | some m => ofSize c.name size (withDeviations m c.deviations)
    | none =>
      Journal.note (.unusableCorrelation c.name)
      return none
  | .decaying =>
    match c.base, c.decay with
    | .null, _ | _, .null =>
      Journal.note (.incompleteDecay c.name)
      return none
    | _, _ =>
      match points with
      | some points => decayingMat c size points
      | none => decayingMat c size (.equallySpaced (← size.toRangeEnd))

/-- The matrix of an optional structure. -/
def toMat? (c : Option (Covariance α)) (size : Datum α) (points : Option (Points α)) :
    Journal α (Option (Mat α)) :=
  match c with
  | none => pure none
  | some c => c.toMat size points

end StudyPower.Covariance
