import StudyPower.Design.Parts

/-!
# Study designs

A study design whose every word belongs to its vocabulary, whose every sweep value is a number, and
whose every literal matrix is a matrix of real numbers.  Rules on the design as a whole are not part
of the type.

## Main definitions

* `StudyDesign α` — a study design.
* `MatrixRole` — the matrices that a design may give literally.
* `StudyDesign.matrix`, `StudyDesign.covariance` — what a design declares under a name.
-/

namespace StudyPower

variable {α : Type}

/-- A study design. -/
structure StudyDesign (α : Type) where
  /-- How the matrices are given. -/
  view : ViewMode
  /-- What is solved for. -/
  goal : Goal
  /-- Is there a Gaussian covariate?  As declared. -/
  covariateFlag : Datum α
  /-- The factors between participants. -/
  factors : List Factor
  /-- The repeated measurements. -/
  measures : List (RepeatedMeasure α)
  /-- The cluster levels, outermost first. -/
  clusters : List (Cluster α)
  /-- The names of the responses. -/
  responses : List String
  /-- The covariance structures. -/
  covariances : List (Covariance α)
  /-- The relative size of each group, as declared. -/
  groupSizes : Option (List (Datum α))
  /-- The hypotheses; only the first is tested. -/
  hypotheses : List (Hypothesis α)
  /-- The literal matrices by name. -/
  matrices : List (String × Mat α)
  /-- The statistical tests. -/
  tests : Option (List StatisticalTest)
  /-- The type I error rates. -/
  alphas : Option (List α)
  /-- The desired powers. -/
  nominalPowers : Option (List α)
  /-- The sizes of the smallest group, as declared. -/
  sampleSizes : Option (List (Datum α))
  /-- The scale factors for means. -/
  betaScales : Option (List α)
  /-- The scale factors for variability. -/
  sigmaScales : Option (List α)
  /-- The power methods. -/
  powerMethods : Option (List PowerMethod)
  /-- The quantiles of power. -/
  quantiles : Option (List α)
  /-- What confidence intervals rest on. -/
  interval : Option (IntervalDescription α)

/-- The matrices that a design may give literally. -/
inductive MatrixRole where
  /-- The design matrix. -/
  | design
  /-- The means. -/
  | beta
  /-- The coefficients of the Gaussian covariate. -/
  | betaRandom
  /-- The contrast between participants. -/
  | betweenContrast
  /-- The part of that contrast for the Gaussian covariate. -/
  | betweenContrastRandom
  /-- The contrast within participants. -/
  | withinContrast
  /-- The null hypothesis. -/
  | thetaNull
  /-- The covariance of the errors. -/
  | sigmaError
  /-- The covariance of the outcomes. -/
  | sigmaOutcome
  /-- The variance of the Gaussian covariate. -/
  | sigmaGaussian
  /-- The covariance of the outcomes and the Gaussian covariate. -/
  | sigmaOutcomeGaussian
  deriving DecidableEq, Repr

/-- The name that a matrix is declared under. -/
def MatrixRole.name : MatrixRole → String
  | .design => "design"
  | .beta => "beta"
  | .betaRandom => "betaRandom"
  | .betweenContrast => "betweenSubjectContrast"
  | .betweenContrastRandom => "betweenSubjectContrastRandom"
  | .withinContrast => "withinSubjectContrast"
  | .thetaNull => "thetaNull"
  | .sigmaError => "sigmaError"
  | .sigmaOutcome => "sigmaOutcome"
  | .sigmaGaussian => "sigmaGaussianRandom"
  | .sigmaOutcomeGaussian => "sigmaOutcomeGaussianRandom"

namespace StudyDesign

/-- Is there a Gaussian covariate? -/
def gaussianCovariate [Scalar α] (d : StudyDesign α) : Bool := d.covariateFlag.isTruthy

/-- Are the matrices given literally? -/
def isMatrixMode (d : StudyDesign α) : Bool := d.view == .matrix

/-- The hypothesis under test. -/
def primaryHypothesis (d : StudyDesign α) : Option (Hypothesis α) := d.hypotheses.head?

/-- The literal matrix with this name. -/
def matrixNamed (d : StudyDesign α) (name : String) : Option (Mat α) := d.matrices.lookup name

/-- The literal matrix of a role. -/
def matrix (d : StudyDesign α) (role : MatrixRole) : Option (Mat α) := d.matrixNamed role.name

/-- The first covariance with this name. -/
def covariance (d : StudyDesign α) (name : String) : Option (Covariance α) :=
  d.covariances.find? (·.name == name)

end StudyDesign

end StudyPower
