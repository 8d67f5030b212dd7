import StudyPower.Proofs.Bundle.Conformance

/-!
# The two modes do not leak into each other

A design may carry literal matrices and the parts of a guided design at once.  Each matrix is built
by a function of its own that looks at the mode and at the covariate, and some read literal matrices
in either mode, so what a mode ignores is ignored only if every one of them ignores it.

## Main definitions

* `MatrixRole.isBuilt` — the matrices that a guided design does not take literally.
* `StudyDesign.SameSweep`, `StudyDesign.SameParts` — two designs declare the same sweep, and their
  matrices are the same.
* `StudyDesign.LiteralAlike`, `StudyDesign.GuidedAlike` — two designs of one mode agree on
  everything that this mode reads.

## Main statements

* `StudyDesign.assemble_congr` — a bundle is made of the sweep and the matrices.
* `StudyDesign.LiteralAlike.sameParts`, `StudyDesign.GuidedAlike.sameParts` — every matrix depends
  only on what its mode reads.
* `StudyDesign.assemble_eq_of_alike` — **designs that agree on what their mode reads have the same
  bundle, or the same fault**.
-/

namespace StudyPower

variable {α : Type}

/-- A guided design builds this matrix, whatever is declared under its name. -/
def MatrixRole.isBuilt : MatrixRole → Bool
  | design | betweenContrast | betweenContrastRandom | withinContrast | sigmaError
  | sigmaOutcome => true
  | beta | betaRandom | thetaNull | sigmaGaussian | sigmaOutcomeGaussian => false

namespace StudyDesign

/-! ### What a bundle is made of -/

/-- Two designs declare the same sweep, apart from what only some designs sweep over. -/
structure SameSweep (d d' : StudyDesign α) : Prop where
  /-- They have one goal. -/
  goal : d.goal = d'.goal
  /-- They have the same tests. -/
  tests : d.tests = d'.tests
  /-- They have the same type I error rates. -/
  alphas : d.alphas = d'.alphas
  /-- They have the same desired powers. -/
  nominalPowers : d.nominalPowers = d'.nominalPowers
  /-- They have the same sample sizes. -/
  sampleSizes : d.sampleSizes = d'.sampleSizes
  /-- They have the same scale factors for means. -/
  betaScales : d.betaScales = d'.betaScales
  /-- They have the same scale factors for variability. -/
  sigmaScales : d.sigmaScales = d'.sigmaScales

variable {d d' : StudyDesign α} {limits : Limits}

/-- The rules on a design as a whole look at the sweep, the factors, and the names of dimensions
and covariances. -/
theorem checkAdmissible_congr (hsweep : d.SameSweep d') (hfactors : d.factors = d'.factors)
    (hmeasures : d.measures = d'.measures) (hcovariances : d.covariances = d'.covariances)
    (hmethods : d.powerMethods = d'.powerMethods) (hquantiles : d.quantiles = d'.quantiles) :
    d.checkAdmissible limits = d'.checkAdmissible limits := by
  have hgroups : d.groupCount = d'.groupCount := by
    unfold groupCount
    rw [hfactors]
  have hsides : d.sides = d'.sides := by
    unfold sides unitSide powerMethodCount
    rw [hsweep.goal, hsweep.tests, hsweep.alphas, hsweep.nominalPowers, hsweep.sampleSizes,
      hsweep.betaScales, hsweep.sigmaScales, hmethods, hquantiles]
  have hcases : d.caseCount = d'.caseCount := by
    unfold caseCount
    rw [hsides]
  unfold checkAdmissible checkGroupCount checkCaseCount
  rw [hgroups, hcases, hsides, hfactors, hmeasures, hcovariances]

theorem screen_congr (h : d.checkAdmissible limits = d'.checkAdmissible limits) :
    d.screen limits = d'.screen limits := by
  unfold screen
  rw [h]

variable [Scalar α]

/-- The matrices of two designs come out the same. -/
structure SameParts (d d' : StudyDesign α) : Prop where
  /-- The design matrix does. -/
  design : d.designMatrix = d'.designMatrix
  /-- The means do. -/
  beta : d.betaEffects = d'.betaEffects
  /-- The contrast between participants does. -/
  between : d.betweenContrast = d'.betweenContrast
  /-- The contrast within participants does. -/
  within : d.withinContrast = d'.withinContrast
  /-- The null hypothesis does, given these contrasts. -/
  thetaNull : d.thetaNull = d'.thetaNull
  /-- The covariances do. -/
  covariance : d.outcomeCovariance = d'.outcomeCovariance

/-- A bundle is made of the sweep and the matrices.  Only the covariate tells whether the power
methods and the quantiles belong to it, or the confidence interval. -/
theorem assemble_congr (hscreen : d.screen limits = d'.screen limits) (hsweep : d.SameSweep d')
    (hcovariate : d.gaussianCovariate = d'.gaussianCovariate)
    (hmethods : d.gaussianCovariate = true → d.powerMethods = d'.powerMethods)
    (hquantiles : d.gaussianCovariate = true → d.quantiles = d'.quantiles)
    (hinterval : d.gaussianCovariate = false → d.interval = d'.interval)
    (hparts : d.SameParts d') : d.assemble limits = d'.assemble limits := by
  unfold assemble
  rw [hscreen, hparts.design, hparts.beta, hparts.between, hparts.within, hparts.thetaNull,
    hparts.covariance, hsweep.goal, hsweep.tests, hsweep.alphas, hsweep.nominalPowers,
    hsweep.sampleSizes, hsweep.betaScales, hsweep.sigmaScales]
  cases hg : d.gaussianCovariate with
  | true =>
    rw [← hcovariate, hg, hmethods hg, hquantiles hg]
    rfl
  | false =>
    rw [← hcovariate, hg, hinterval hg]
    rfl

/-- The covariances are made of those that the covariate calls for. -/
theorem outcomeCovariance_congr (hcovariate : d.gaussianCovariate = d'.gaussianCovariate)
    (herror : d.sigmaError = d'.sigmaError) (houtcome : d.sigmaOutcome = d'.sigmaOutcome)
    (hvariance : d.sigmaCovariate = d'.sigmaCovariate)
    (hcross : d.sigmaOutcomeCovariate = d'.sigmaOutcomeCovariate) :
    d.outcomeCovariance = d'.outcomeCovariance := by
  unfold outcomeCovariance
  rw [hcovariate, herror, houtcome, hvariance, hcross]

/-! ### Matrix mode -/

/-- Two designs in matrix mode agree on what such designs read: the literal matrices and what
belongs to the sweep. -/
structure LiteralAlike (d d' : StudyDesign α) : Prop extends SameSweep d d' where
  /-- The first is in matrix mode. -/
  mode : d.isMatrixMode = true
  /-- So is the second. -/
  mode' : d'.isMatrixMode = true
  /-- They have the same literal matrices. -/
  matrix : ∀ role, d.matrix role = d'.matrix role
  /-- Both have a Gaussian covariate, or neither has. -/
  covariate : d.gaussianCovariate = d'.gaussianCovariate
  /-- They have the same power methods. -/
  powerMethods : d.powerMethods = d'.powerMethods
  /-- They have the same quantiles. -/
  quantiles : d.quantiles = d'.quantiles
  /-- They describe the same confidence intervals. -/
  interval : d.interval = d'.interval

namespace LiteralAlike

theorem sigmaError (h : d.LiteralAlike d') : d.sigmaError = d'.sigmaError := by
  unfold StudyDesign.sigmaError
  rw [if_pos h.mode, if_pos h.mode', h.matrix]

theorem sigmaOutcome (h : d.LiteralAlike d') : d.sigmaOutcome = d'.sigmaOutcome := by
  unfold StudyDesign.sigmaOutcome
  rw [if_pos h.mode, if_pos h.mode', h.matrix]

theorem sigmaCovariate (h : d.LiteralAlike d') : d.sigmaCovariate = d'.sigmaCovariate := by
  unfold StudyDesign.sigmaCovariate
  rw [if_pos h.mode, if_pos h.mode', h.matrix]

theorem sigmaOutcomeCovariate (h : d.LiteralAlike d') :
    d.sigmaOutcomeCovariate = d'.sigmaOutcomeCovariate := by
  funext covariate outcome
  unfold StudyDesign.sigmaOutcomeCovariate
  rw [h.matrix]
  -- the literal matrix is looked up before the mode is
  cases d'.matrix .sigmaOutcomeGaussian with
  | none => rfl
  | some cross =>
    dsimp only
    rw [if_pos h.mode, if_pos h.mode']

/-- In matrix mode every matrix depends only on the literal ones. -/
theorem sameParts (h : d.LiteralAlike d') : d.SameParts d' where
  design := by
    unfold designMatrix
    rw [if_pos h.mode, if_pos h.mode', h.matrix]
  beta := by
    unfold betaEffects
    rw [if_pos h.mode, if_pos h.mode', h.matrix, h.matrix]
  between := by
    unfold betweenContrast
    rw [if_pos h.mode, if_pos h.mode', h.matrix, h.matrix]
  within := by
    unfold withinContrast
    rw [if_pos h.mode, if_pos h.mode', h.matrix]
  thetaNull := by
    unfold StudyDesign.thetaNull
    rw [h.matrix]
  covariance := outcomeCovariance_congr h.covariate h.sigmaError h.sigmaOutcome h.sigmaCovariate
    h.sigmaOutcomeCovariate

end LiteralAlike

/-! ### Guided designs -/

/-- Two guided designs agree on what such designs read: the parts that matrices are built from, the
literal matrices that are not built, and the first hypothesis.  With a Gaussian covariate they may
describe confidence intervals differently, and without one they may have other power methods and
quantiles. -/
structure GuidedAlike (d d' : StudyDesign α) : Prop extends SameSweep d d' where
  /-- The first is guided. -/
  guided : d.isMatrixMode = false
  /-- So is the second. -/
  guided' : d'.isMatrixMode = false
  /-- They have the same factors. -/
  factors : d.factors = d'.factors
  /-- They have the same repeated measurements. -/
  measures : d.measures = d'.measures
  /-- They have the same clusters. -/
  clusters : d.clusters = d'.clusters
  /-- They have the same responses. -/
  responses : d.responses = d'.responses
  /-- They have the same covariance structures. -/
  covariances : d.covariances = d'.covariances
  /-- They have the same relative group sizes. -/
  groupSizes : d.groupSizes = d'.groupSizes
  /-- They test the same hypothesis. -/
  hypothesis : d.primaryHypothesis = d'.primaryHypothesis
  /-- They have the same literal matrices, apart from those that are built. -/
  matrix : ∀ role : MatrixRole, role.isBuilt = false → d.matrix role = d'.matrix role
  /-- Both have a Gaussian covariate, or neither has. -/
  covariate : d.gaussianCovariate = d'.gaussianCovariate
  /-- With a covariate they have the same power methods. -/
  powerMethods : d.gaussianCovariate = true → d.powerMethods = d'.powerMethods
  /-- With a covariate they have the same quantiles. -/
  quantiles : d.gaussianCovariate = true → d.quantiles = d'.quantiles
  /-- Without one they describe the same confidence intervals. -/
  interval : d.gaussianCovariate = false → d.interval = d'.interval

namespace GuidedAlike

theorem clusterSize (h : d.GuidedAlike d') : d.clusterSize = d'.clusterSize := by
  unfold StudyDesign.clusterSize
  rw [h.clusters]

theorem cellMeans (h : d.GuidedAlike d') : d.cellMeans = d'.cellMeans := by
  unfold StudyDesign.cellMeans groupCount
  rw [h.factors, h.groupSizes]

theorem betweenContrast (h : d.GuidedAlike d') : d.betweenContrast = d'.betweenContrast := by
  have hbetween : d.guidedBetween = d'.guidedBetween := by
    funext g
    unfold guidedBetween
    rw [h.factors]
  unfold StudyDesign.betweenContrast
  rw [h.guided, h.guided', h.hypothesis, h.covariate, hbetween]
  rfl

theorem withinContrast (h : d.GuidedAlike d') : d.withinContrast = d'.withinContrast := by
  have hwithin : d.guidedWithin = d'.guidedWithin := by
    funext g
    unfold guidedWithin
    rw [h.measures, h.responses]
  unfold StudyDesign.withinContrast
  rw [h.guided, h.guided', h.hypothesis, h.clusterSize, hwithin]
  rfl

theorem guidedSigma (h : d.GuidedAlike d') : d.guidedSigma = d'.guidedSigma := by
  have hmeasure : d.measureBlock = d'.measureBlock := by
    funext m
    unfold measureBlock StudyDesign.covariance
    rw [h.covariances]
  have hresponse : d.responseBlock = d'.responseBlock := by
    unfold responseBlock StudyDesign.covariance
    rw [h.covariances, h.responses]
  unfold StudyDesign.guidedSigma
  rw [h.clusters, h.measures, hmeasure, hresponse]

theorem sigmaError (h : d.GuidedAlike d') : d.sigmaError = d'.sigmaError := by
  unfold StudyDesign.sigmaError
  rw [h.guided, h.guided', h.guidedSigma]
  rfl

theorem sigmaOutcome (h : d.GuidedAlike d') : d.sigmaOutcome = d'.sigmaOutcome := by
  unfold StudyDesign.sigmaOutcome
  rw [h.guided, h.guided', h.sigmaError]
  rfl

theorem sigmaCovariate (h : d.GuidedAlike d') : d.sigmaCovariate = d'.sigmaCovariate := by
  unfold StudyDesign.sigmaCovariate
  rw [h.guided, h.guided', h.matrix .sigmaGaussian rfl]

theorem sigmaOutcomeCovariate (h : d.GuidedAlike d') :
    d.sigmaOutcomeCovariate = d'.sigmaOutcomeCovariate := by
  funext covariate outcome
  unfold StudyDesign.sigmaOutcomeCovariate
  rw [h.guided, h.guided', h.matrix .sigmaOutcomeGaussian rfl, h.clusterSize]

/-- Every matrix of a guided design depends only on the parts that it is built from and on the
literal matrices that are not built. -/
theorem sameParts (h : d.GuidedAlike d') : d.SameParts d' where
  design := by
    unfold designMatrix
    rw [h.guided, h.guided', h.cellMeans]
    rfl
  beta := by
    unfold betaEffects
    rw [h.guided, h.guided', h.matrix .beta rfl, h.matrix .betaRandom rfl, h.clusterSize]
  between := h.betweenContrast
  within := h.withinContrast
  thetaNull := by
    unfold StudyDesign.thetaNull
    rw [h.matrix .thetaNull rfl]
  covariance := outcomeCovariance_congr h.covariate h.sigmaError h.sigmaOutcome h.sigmaCovariate
    h.sigmaOutcomeCovariate

end GuidedAlike

/-! ### Noninterference -/

/-- **Designs that agree on what their mode reads have the same bundle, or the same fault, and leave
the same notes.**  Designs that differ in what only the admission reads have to be admitted. -/
theorem assemble_eq_of_alike (limits : Limits) :
    (∀ d d' : StudyDesign α, d.LiteralAlike d' →
      d.checkAdmissible limits = .ok () → d'.checkAdmissible limits = .ok () →
      d.assemble limits = d'.assemble limits) ∧
    ∀ d d' : StudyDesign α, d.GuidedAlike d' →
      (d.powerMethods = d'.powerMethods ∧ d.quantiles = d'.quantiles ∨
        d.checkAdmissible limits = .ok () ∧ d'.checkAdmissible limits = .ok ()) →
      d.assemble limits = d'.assemble limits := by
  constructor
  · intro d d' h hd hd'
    exact assemble_congr (screen_congr (hd.trans hd'.symm)) h.toSameSweep h.covariate
      (fun _ => h.powerMethods) (fun _ => h.quantiles) (fun _ => h.interval) h.sameParts
  · intro d d' h hadmitted
    have hscreen : d.screen limits = d'.screen limits := by
      apply screen_congr
      rcases hadmitted with ⟨hmethods, hquantiles⟩ | ⟨hd, hd'⟩
      · exact checkAdmissible_congr h.toSameSweep h.factors h.measures h.covariances hmethods
          hquantiles
      · exact hd.trans hd'.symm
    exact assemble_congr hscreen h.toSameSweep h.covariate h.powerMethods h.quantiles h.interval
      h.sameParts

/-- A trial with literal matrices, which declares the parts of a guided design as well. -/
def literalTrial : StudyDesign ℚ := { schoolTrial with
  view := .matrix
  covariateFlag := .bool false
  matrices := [
    ("design", .identity 2),
    ("beta", .ofArray 2 1 #[3, 5]),
    ("betweenSubjectContrast", .ofArray 1 2 #[1, -1]),
    ("withinSubjectContrast", .identity 1),
    ("sigmaError", .ofArray 1 1 #[4])] }

/-- The trial with literal matrices and nothing else. -/
def bareTrial : StudyDesign ℚ := { literalTrial with
  factors := []
  measures := []
  clusters := []
  covariances := []
  groupSizes := none
  hypotheses := [] }

/-- The trial in schools with a second hypothesis, literal matrices that it does not read, and a
confidence interval that no design with a covariate has. -/
def annotatedTrial : StudyDesign ℚ := { schoolTrial with
  hypotheses := schoolTrial.hypotheses ++ [⟨.manova, [], []⟩]
  matrices := [
    ("sigmaError", .identity 3),
    ("design", .identity 1),
    ("remark", .identity 2)] ++ schoolTrial.matrices
  interval := some ⟨.bool true, .bool false, .null, .null, .int 20, .int 2⟩ }

theorem literalAlike_bareTrial : literalTrial.LiteralAlike bareTrial where
  goal := rfl
  tests := rfl
  alphas := rfl
  nominalPowers := rfl
  sampleSizes := rfl
  betaScales := rfl
  sigmaScales := rfl
  mode := rfl
  mode' := rfl
  matrix := fun _ => rfl
  covariate := rfl
  powerMethods := rfl
  quantiles := rfl
  interval := rfl

theorem guidedAlike_annotatedTrial : schoolTrial.GuidedAlike annotatedTrial where
  goal := rfl
  tests := rfl
  alphas := rfl
  nominalPowers := rfl
  sampleSizes := rfl
  betaScales := rfl
  sigmaScales := rfl
  guided := rfl
  guided' := rfl
  factors := rfl
  measures := rfl
  clusters := rfl
  responses := rfl
  covariances := rfl
  groupSizes := rfl
  hypothesis := rfl
  matrix := by
    intro role hrole
    cases role with
    | beta | betaRandom | thetaNull | sigmaGaussian | sigmaOutcomeGaussian => rfl
    | design | betweenContrast | betweenContrastRandom | withinContrast | sigmaError
    | sigmaOutcome => cases hrole
  covariate := rfl
  powerMethods := fun _ => rfl
  quantiles := fun _ => rfl
  interval := by
    intro hcovariate
    cases hcovariate

/-- The parts of a guided design do not matter in matrix mode, nor do further matrices and
hypotheses to a guided design. -/
theorem assemble_eq_of_alike_trials :
    literalTrial.LiteralAlike bareTrial ∧ literalTrial.checkAdmissible {} = .ok () ∧
      bareTrial.checkAdmissible {} = .ok () ∧
      literalTrial.assemble {} = bareTrial.assemble {} ∧
      schoolTrial.GuidedAlike annotatedTrial ∧
      schoolTrial.assemble {} = annotatedTrial.assemble {} := by
  have hliteral : literalTrial.checkAdmissible {} = .ok () := rfl
  have hbare : bareTrial.checkAdmissible {} = .ok () := rfl
  obtain ⟨hmatrices, hguided⟩ := assemble_eq_of_alike (α := ℚ) {}
  exact ⟨literalAlike_bareTrial, hliteral, hbare,
    hmatrices _ _ literalAlike_bareTrial hliteral hbare, guidedAlike_annotatedTrial,
    hguided _ _ guidedAlike_annotatedTrial (.inl ⟨rfl, rfl⟩)⟩

/-- The trial has a bundle, so there is something to agree on. -/
example : ((bareTrial.assemble {}).outcome.toOption.map (·.beta.shape)) = some (2, 1) := by
  decide +kernel

end StudyDesign

end StudyPower
