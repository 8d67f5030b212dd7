import StudyPower.Bundle.Matrices

/-!
# Assembling a bundle

A design is admitted, its matrices are built in a fixed order, and the bundle is refused unless the
products that the engine forms are defined.  The preview builds the same matrices without requiring
a complete design.

## Main definitions

* `Bundle.checkConformance` — the sizes that meet in a product agree.
* `StudyDesign.assemble` — the bundle of a design.
* `StudyDesign.preview` — the matrices of a design by role.
-/

namespace StudyPower

variable {α : Type} [Scalar α]

/-! ### Conformance -/

namespace Bundle

/-- The design, the means and the coefficients of the covariate. -/
def checkMeans (b : Bundle α) : Except (Fault α) Unit := do
  checkConformable b.design.cols b.beta.rows "columns of design" "rows of beta"
  if let some random := b.betaRandom then
    checkConformable b.beta.cols random.cols "columns of beta" "columns of betaRandom"

/-- The contrast between participants against the means. -/
def checkBetween (b : Bundle α) : Except (Fault α) Unit := do
  if let some contrast := b.fixedContrast then
    checkConformable contrast.cols b.beta.rows "columns of betweenSubjectContrast" "rows of beta"
    if let some random := b.randomContrast then
      checkConformable contrast.rows random.rows "rows of betweenSubjectContrast"
        "rows of betweenSubjectContrastRandom"
      if let some betaRandom := b.betaRandom then
        checkConformable random.cols betaRandom.rows "columns of betweenSubjectContrastRandom"
          "rows of betaRandom"

/-- The contrast within participants against the means. -/
def checkWithin (b : Bundle α) : Except (Fault α) Unit := do
  if let some contrast := b.within then
    checkConformable b.beta.cols contrast.rows "columns of beta" "rows of withinSubjectContrast"

/-- The null hypothesis against both contrasts. -/
def checkNull (b : Bundle α) : Except (Fault α) Unit :=
  match b.thetaNull, b.fixedContrast, b.within with
  | some theta, some c, some u =>
    if theta.shape = (c.rows, u.cols) then .ok ()
    else .error (.nullShape (c.rows, u.cols) theta.shape)
  | _, _, _ => .ok ()

/-- The covariance of the outcomes against the means. -/
def checkCovariance (b : Bundle α) : Except (Fault α) Unit :=
  checkConformable b.beta.cols b.covariance.outcome.rows "columns of beta"
    "rows of the outcome covariance"

/-- The sizes that meet in a product agree. -/
def checkConformance (b : Bundle α) : Except (Fault α) Unit := do
  b.checkMeans
  b.checkBetween
  b.checkWithin
  b.checkNull
  b.checkCovariance

end Bundle

/-! ### Assembly -/

/-- A matrix that the engine cannot do without. -/
def requireMat (m : Option (Mat α)) (role : MatrixRole) : Except (Fault α) (Mat α) := do
  match m with
  | none => throw (.missingMatrix role.name)
  | some m =>
    checkNonempty m role.name
    return m

namespace StudyDesign

/-- The parts of an optional contrast joined. -/
def combinedContrast (between : Option (Effects α)) : Except (Fault α) (Option (Mat α)) :=
  match between with
  | none => .ok none
  | some effects => effects.combined

/-- The covariance that the engine needs. -/
def outcomeCovariance (d : StudyDesign α) : Journal α (OutcomeCovariance α) := do
  if d.gaussianCovariate then
    let outcome ← requireMat (← d.sigmaOutcome) .sigmaOutcome
    let covariate ← requireMat d.sigmaCovariate .sigmaGaussian
    let cross ← requireMat (← d.sigmaOutcomeCovariate (some covariate) (some outcome))
      .sigmaOutcomeGaussian
    return .joint outcome covariate cross
  else
    let sigma ← requireMat (← d.sigmaError) .sigmaError
    Journal.noteMat "sigma error" (some sigma)
    return .error sigma

/-- The bundle of a design. -/
def assemble (d : StudyDesign α) (limits : Limits) : Journal α (Bundle α) := do
  d.screen limits
  let design ← requireMat (← d.designMatrix) .design
  Journal.noteMat "design" (some design)
  let effects ← d.betaEffects
  let beta ← requireMat effects.fixed .beta
  Journal.noteMat "beta" (← effects.combined)
  let between ← d.betweenContrast
  Journal.noteMat "between contrast" (← combinedContrast between)
  let within ← d.withinContrast
  Journal.noteMat "within contrast" within
  let thetaNull := d.thetaNull between within
  Journal.noteMat "theta null" thetaNull
  let covariance ← d.outcomeCovariance
  let bundle : Bundle α := {
    goal := d.goal
    tests := d.tests.getD []
    alphas := d.alphas.getD []
    nominalPowers := d.nominalPowers.getD []
    sampleSizes := d.sampleSizes.getD []
    betaScales := d.betaScales.getD []
    sigmaScales := d.sigmaScales.getD []
    powerMethods := if d.gaussianCovariate then d.powerMethods.getD [] else [.conditional]
    quantiles := if d.gaussianCovariate then d.quantiles.getD [] else []
    design, beta, between, within, thetaNull, covariance
    betaRandom := effects.random
    interval := if d.gaussianCovariate then none else d.interval
  }
  bundle.checkConformance
  return bundle

/-! ### Preview -/

/-- The covariances of a design by role. -/
def previewCovariances (d : StudyDesign α) : Journal α (List (MatrixRole × Option (Mat α))) := do
  if d.gaussianCovariate then
    let outcome ← d.sigmaOutcome
    let covariate := d.sigmaCovariate
    let cross ← d.sigmaOutcomeCovariate covariate outcome
    return [(.sigmaOutcome, outcome), (.sigmaGaussian, covariate), (.sigmaOutcomeGaussian, cross)]
  else return [(.sigmaError, ← d.sigmaError)]

/-- The matrices of a design by role, without those that an incomplete design lacks.  The parts for
the covariate are shown only when there is one. -/
def preview (d : StudyDesign α) (limits : Limits) : Journal α (List (MatrixRole × Mat α)) := do
  d.screen limits
  let design ← d.designMatrix
  let effects ← d.betaEffects
  let between ← d.betweenContrast
  let within ← d.withinContrast
  let random (m : Option (Mat α)) : Option (Mat α) := if d.gaussianCovariate then m else none
  let covariances ← d.previewCovariances
  let all := [
    (.design, design),
    (.beta, effects.fixed),
    (.betaRandom, random effects.random),
    (.betweenContrast, between.bind (·.fixed)),
    (.betweenContrastRandom, random (between.bind (·.random))),
    (.withinContrast, within),
    (.thetaNull, d.thetaNull between within)] ++ covariances
  return all.filterMap fun (role, m) => m.map (role, ·)

end StudyDesign

end StudyPower
