import StudyPower.Bundle.Basic
import StudyPower.Contrast.Basic
import StudyPower.Covariance
import StudyPower.Sweep

/-!
# The matrices of a design

Each matrix that a study needs is taken literally from a design in matrix mode, and built from the
factors, clusters and covariance structures of a guided design.  The rows and columns of a guided
design's matrices are ordered by cluster member, outermost level first, then by the level of each
repeated measurement in order, then by response.

## Main definitions

* `StudyDesign.clusterSize` — the number of observations in a cluster.
* `StudyDesign.designMatrix`, `StudyDesign.betaEffects` — cell means and their design.
* `StudyDesign.betweenContrast`, `StudyDesign.withinContrast`, `StudyDesign.thetaNull` — the
  hypothesis.
* `StudyDesign.sigmaError`, `StudyDesign.sigmaOutcome`, `StudyDesign.sigmaCovariate`,
  `StudyDesign.sigmaOutcomeCovariate` — the covariances.
-/

namespace StudyPower

variable {α : Type} [Scalar α]

/-- The number of members of a cluster level. -/
def Cluster.members (c : Cluster α) : Except (Fault α) Nat :=
  checkPositive c.size ("cluster " ++ Text.quoted c.name ++ " group size")

/-- `m` once for each of `n` cluster members, from left to right. -/
def repeatAcross (n : Option Nat) (m : Mat α) : Except (Fault α) (Mat α) := do
  match n with
  | none => return m
  | some n =>
    let (rows, cols) ← checkShape 1 n
    return (Mat.filled rows cols 1).kron m

/-- `m` once for each of `n` cluster members, from top to bottom. -/
def repeatDown (n : Option Nat) (m : Mat α) : Except (Fault α) (Mat α) := do
  match n with
  | none => return m
  | some n =>
    let (rows, cols) ← checkShape n 1
    return (Mat.filled rows cols 1).kron m

namespace StudyDesign

/-- The product of the cluster sizes, or nothing for a design without clusters. -/
def clusterSize (d : StudyDesign α) : Except (Fault α) (Option Nat) := do
  if d.clusters.isEmpty then return none
  return some ((← d.clusters.mapM Cluster.members).foldl (· * ·) 1)

/-! ### Cell means -/

/-- The relative size of each group, numbered from one in messages. -/
def checkGroupSizes (sizes : List (Datum α)) : Except (Fault α) (List Nat) :=
  (sizes.zip (List.range sizes.length)).mapM fun (size, g) =>
    checkNatural size ("relative group size " ++ toString (g + 1))

/-- The design matrix of cell means: a column for each group, and as many rows for a group as its
relative size says, one without relative sizes. -/
def cellMeans (d : StudyDesign α) : Except (Fault α) (Mat α) := do
  let groups := d.groupCount
  if groups = 0 then throw .noCategories
  else if groups = 1 then return Mat.filled 1 1 1
  else
    match d.groupSizes with
    | none =>
      let (size, _) ← checkShape groups groups
      return Mat.identity size
    | some sizes =>
      if sizes.length ≠ groups then throw (.groupSizeCount groups sizes.length)
      else
        let counts ← checkGroupSizes sizes
        discard <| checkShape (counts.foldl (· + ·) 0 : Nat) groups
        return (Mat.identity groups).repeatRows counts

/-- The design matrix. -/
def designMatrix (d : StudyDesign α) : Except (Fault α) (Option (Mat α)) := do
  if d.isMatrixMode then return d.matrix .design
  else return some (← d.cellMeans)

/-- The means, with the coefficients of the covariate below them.  A guided design gives them for
one cluster member. -/
def betaEffects (d : StudyDesign α) : Except (Fault α) (Effects α) := do
  let fixed := d.matrix .beta
  let random := d.matrix .betaRandom
  if d.isMatrixMode then return ⟨fixed, random, .below⟩
  else
    let n ← d.clusterSize
    return ⟨← fixed.mapM (repeatAcross n), ← random.mapM (repeatAcross n), .below⟩

/-! ### The hypothesis -/

/-- The fixed part of the contrast between participants that a hypothesis asks for. -/
def guidedBetween (d : StudyDesign α) (h : Hypothesis α) : Except (Fault α) (Mat α) :=
  match h.between with
  | [] => Contrast.betweenGrandMean d.factors
  | first :: _ =>
    match h.kind with
    | .mainEffect => Contrast.betweenMainEffect first.target d.factors
    | .interaction => Contrast.betweenInteraction h.between d.factors
    | .trend => Contrast.betweenTrend first d.factors
    | .manova => Contrast.betweenManova first.target d.factors

/-- The contrast between participants, or nothing when there is nothing to test.  A guided design
with a Gaussian covariate does not test the covariate. -/
def betweenContrast (d : StudyDesign α) : Except (Fault α) (Option (Effects α)) := do
  if d.isMatrixMode then
    match d.matrix .betweenContrast, d.matrix .betweenContrastRandom with
    | none, none => return none
    | fixed, random => return some ⟨fixed, random, .beside⟩
  else
    match d.primaryHypothesis with
    | none => return none
    | some h =>
      let fixed ← d.guidedBetween h
      let random := if d.gaussianCovariate then some (Mat.filled fixed.rows 1 0) else none
      return some ⟨some fixed, random, .beside⟩

/-- The contrast within participants that a hypothesis asks for, for one cluster member. -/
def guidedWithin (d : StudyDesign α) (h : Hypothesis α) : Except (Fault α) (Mat α) :=
  match h.kind, h.within with
  | .manova, _ => Contrast.withinManova d.measures d.responses
  | _, [] => Contrast.withinGrandMean d.measures d.responses
  | .mainEffect, first :: _ => Contrast.withinMainEffect first.target d.measures d.responses
  | .interaction, mappings => Contrast.withinInteraction mappings d.measures d.responses
  | .trend, first :: _ => Contrast.withinTrend first d.measures d.responses

/-- The contrast within participants, or nothing when there is nothing to test. -/
def withinContrast (d : StudyDesign α) : Journal α (Option (Mat α)) := do
  if d.isMatrixMode then return d.matrix .withinContrast
  else
    match d.primaryHypothesis with
    | none => return none
    | some h =>
      let contrast ← d.guidedWithin h
      Journal.noteMat "within contrast before clustering" (some contrast)
      let n ← d.clusterSize
      return some (← repeatDown n contrast)

/-- The null hypothesis: the literal one, or zero for every tested comparison. -/
def thetaNull (d : StudyDesign α) (between : Option (Effects α)) (within : Option (Mat α)) :
    Option (Mat α) :=
  match d.matrix .thetaNull with
  | some m => some m
  | none =>
    match between.bind (·.fixed), within with
    | some c, some u => some (Mat.filled c.rows u.cols 0)
    | _, _ => none

/-! ### Covariances -/

/-- The correlations among the members of one cluster level. -/
def clusterBlock (c : Cluster α) : Except (Fault α) (Mat α) := do
  let n ← c.members
  let correlation ← c.correlation.toReal
  let (size, _) ← checkShape n n
  return Covariance.compoundSymmetric size correlation

/-- The covariance along one dimension. -/
def measureBlock (d : StudyDesign α) (m : RepeatedMeasure α) : Journal α (Mat α) := do
  match d.covariance m.dimension with
  | none => Journal.fail (.missingCovariance m.dimension)
  | some c =>
    let points ← m.points
    match ← c.toMat m.count (some points) with
    | some block => return block
    | none => Journal.fail (.unusableCovariance m.dimension)

/-- The covariance of the responses. -/
def responseBlock (d : StudyDesign α) : Journal α (Mat α) := do
  let c := d.covariance responseCovarianceName
  match ← Covariance.toMat? c (.int (Contrast.responseCount d.responses)) none with
  | some block => return block
  | none => Journal.fail .unusableResponseCovariance

/-- The covariance of all observations on one participant or cluster: the product of a block for
each cluster level, each dimension, and the responses. -/
def guidedSigma (d : StudyDesign α) : Journal α (Mat α) := do
  let clusters ← (d.clusters.mapM clusterBlock : Except (Fault α) (List (Mat α)))
  let measures ← d.measures.mapM d.measureBlock
  let responses ← d.responseBlock
  return Mat.kronAll (clusters ++ measures ++ [responses])

/-- A square matrix made symmetric. -/
def symmetric (role : MatrixRole) (m : Option (Mat α)) : Except (Fault α) (Option (Mat α)) := do
  match m with
  | none => return none
  | some m =>
    checkSquare m role.name
    return some m.symmetricPart

/-- The covariance of the errors. -/
def sigmaError (d : StudyDesign α) : Journal α (Option (Mat α)) := do
  if d.isMatrixMode then symmetric .sigmaError (d.matrix .sigmaError)
  else symmetric .sigmaError (some (← d.guidedSigma))

/-- The covariance of the outcomes of a design with a Gaussian covariate. -/
def sigmaOutcome (d : StudyDesign α) : Journal α (Option (Mat α)) := do
  if d.isMatrixMode then symmetric .sigmaOutcome (d.matrix .sigmaOutcome)
  else d.sigmaError

/-- The matrix with another first entry. -/
def withFirst (m : Mat α) (f : α → α) : Mat α :=
  Mat.ofFn m.rows m.cols fun i j => if i = 0 ∧ j = 0 then f (m.get i j) else m.get i j

/-- The variance of the covariate.  A guided design states its standard deviation. -/
def sigmaCovariate (d : StudyDesign α) : Option (Mat α) :=
  let sigma := d.matrix .sigmaGaussian
  if d.isMatrixMode then sigma
  else sigma.map fun m => if m.size = 0 then m else withFirst m fun x => x * x

/-- The correlations in the first column turned into covariances, given the variance of the
covariate and the variance of each outcome. -/
def scaleFirstColumn (cross : Mat α) (variance : α) (outcome : Mat α) : Mat α :=
  Mat.ofFn cross.rows cross.cols fun i j =>
    if j = 0 then cross.get i j * Scalar.sqrt (variance * outcome.get i i) else cross.get i j

/-- The covariance of the outcomes and the covariate.  A guided design states correlations, for
one cluster member. -/
def sigmaOutcomeCovariate (d : StudyDesign α) (covariate outcome : Option (Mat α)) :
    Journal α (Option (Mat α)) := do
  match d.matrix .sigmaOutcomeGaussian with
  | none => return none
  | some cross =>
    if d.isMatrixMode then return some cross
    else
      match covariate.filter (·.size ≠ 0), outcome with
      | none, _ => Journal.fail .missingCovariateVariance
      | some _, none => Journal.fail .missingOutcomeCovariance
      | some variance, some outcome =>
        if outcome.rows < cross.rows ∨ outcome.rows ≠ outcome.cols then
          Journal.fail (.outcomeTooSmall outcome.shape cross.shape)
        else if cross.cols = 0 then Journal.fail .noFirstColumn
        else
          let scaled := scaleFirstColumn cross (variance.get 0 0) outcome
          Journal.noteMat "sigmaYG before clustering" (some scaled)
          let n ← d.clusterSize
          return some (← repeatDown n scaled)

end StudyDesign

end StudyPower
