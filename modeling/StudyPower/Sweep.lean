import StudyPower.Design.Basic
import StudyPower.Journal

/-!
# Sweeps and limits

A study is solved for every combination of its sweep lists, so the size of a request is a product.
A design is admitted when its names are distinct and its size is within limits; the first rule that
fails, in this order, is the fault.

## Main definitions

* `weight` — what a sweep dimension multiplies the number of cases by.
* `StudyDesign.groupCount`, `StudyDesign.caseCount` — the size of a request.
* `StudyDesign.sides` — the dimensions of the sweep with their counts.
* `Limits`, `StudyDesign.screen` — the limits, and the rules.
* `StudyDesign.remarks` — what is odd about a design without being a fault.
-/

namespace StudyPower

variable {α : Type}

/-- What a sweep dimension multiplies the number of cases by: an absent one changes nothing. -/
def weight {ν : Type} [OfNat ν 0] [OfNat ν 1] [DecidableEq ν] (n : ν) : ν :=
  if n = 0 then 1 else n

/-- The length of an optional list. -/
def listSize {β : Type} (values : Option (List β)) : Nat := (values.getD []).length

/-- The limits on the size of a request. -/
structure Limits where
  /-- The largest number of groups. -/
  maxGroups : Int := 100
  /-- The largest number of sweep cases. -/
  maxCases : Int := 72
  deriving DecidableEq, Repr

namespace StudyDesign

/-- The number of groups of participants: the product of the factors' category counts. -/
def groupCount (d : StudyDesign α) : Nat := (d.factors.map Factor.levels).foldl (· * ·) 1

/-- The number of power methods that multiply the sweep: one for unconditional power, and one for
each quantile. -/
def powerMethodCount (d : StudyDesign α) : Nat :=
  let methods := d.powerMethods.getD []
  (if methods.contains .unconditional then 1 else 0) +
    (if methods.contains .quantile then listSize d.quantiles else 0)

/-- The dimension that the goal sweeps over. -/
def unitSide (d : StudyDesign α) : SweepSide :=
  match d.goal with
  | .power => ⟨"Group Size", "Group Sizes", listSize d.sampleSizes⟩
  | .sampleSize => ⟨"Desired Power", "Desired Powers", listSize d.nominalPowers⟩
  | .detectableDifference => ⟨"Unit", "Units", 0⟩

/-- The dimensions of the sweep. -/
def sides (d : StudyDesign α) : List SweepSide := [
  d.unitSide,
  ⟨"Statistical Test", "Statistical Tests", listSize d.tests⟩,
  ⟨"Type I Error Rate", "Type I Error Rates", listSize d.alphas⟩,
  ⟨"Scale Factor For Means", "Scale Factors for Means", listSize d.betaScales⟩,
  ⟨"Scale Factor for Variability", "Scale Factors for Variability", listSize d.sigmaScales⟩,
  ⟨"Power Method", "Power Methods", d.powerMethodCount⟩]

/-- The number of cases: the product of the weights of the sweep dimensions. -/
def caseCount (d : StudyDesign α) : Nat :=
  (d.sides.map fun side => weight side.count).foldl (· * ·) 1

end StudyDesign

/-- The first member that repeats an earlier one or a member of `seen`. -/
def firstRepeated? (seen : List String) : List String → Option String
  | [] => none
  | x :: xs => if seen.contains x then some x else firstRepeated? (x :: seen) xs

/-- Names must be distinct. -/
def checkDistinct (names : List String) (fault : String → Fault α) : Except (Fault α) Unit :=
  match firstRepeated? [] names with
  | none => .ok ()
  | some name => .error (fault name)

namespace StudyDesign

/-- The number of groups must be within the limit. -/
def checkGroupCount (d : StudyDesign α) (limit : Int) : Except (Fault α) Unit :=
  if (d.groupCount : Int) ≤ limit then .ok ()
  else .error (.tooManyGroups limit d.groupCount (d.factors.map fun f => (f.name, f.levels)))

/-- The number of cases must be within the limit. -/
def checkCaseCount (d : StudyDesign α) (limit : Int) : Except (Fault α) Unit :=
  if (d.caseCount : Int) ≤ limit then .ok ()
  else .error (.tooManyCases limit d.caseCount (d.sides.filter fun side => side.count ≠ 0))

/-- The rules on a design as a whole, in order. -/
def checkAdmissible (d : StudyDesign α) (limits : Limits) : Except (Fault α) Unit := do
  checkDistinct (d.measures.map (·.dimension)) .duplicateDimension
  checkDistinct (d.covariances.map (·.name)) .duplicateCovariance
  d.checkGroupCount limits.maxGroups
  d.checkCaseCount limits.maxCases

/-- Admit a design, leaving a note when it is refused. -/
def screen (d : StudyDesign α) (limits : Limits) : Journal α Unit :=
  (Journal.ofExcept (d.checkAdmissible limits)).onFault .refused

/-- What is odd about a design without being a fault. -/
def remarks [Scalar α] (d : StudyDesign α) : List String :=
  let methods := d.powerMethods.getD []
  let hypotheses := d.hypotheses.length
  (if 1 < hypotheses then
    ["Design declares " ++ toString hypotheses ++ " hypotheses; only the first is tested"]
    else []) ++
  (if listSize d.quantiles ≠ 0 && !methods.contains .quantile then
    ["Quantiles are ignored without the QUANTILE power method"] else []) ++
  (if !d.gaussianCovariate && methods.any (· ≠ .conditional) then
    ["Designs without a Gaussian covariate always use CONDITIONAL power"] else [])

end StudyDesign

end StudyPower
