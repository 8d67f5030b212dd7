import StudyPower.Design.Basic

/-!
# Bundles

A bundle holds the numeric inputs of a power engine, assembled from one study design.

## Main definitions

* `Effects α` — a matrix of fixed effects with an optional part for the Gaussian covariate;
  `Effects.combined` joins the two.
* `OutcomeCovariance α` — the covariance of the errors, or of the outcomes and the covariate.
* `Bundle α` — the inputs.
-/

namespace StudyPower

variable {α : Type}

/-- Where the part for the covariate is joined to the fixed part. -/
inductive Joining where
  /-- At its right. -/
  | beside
  /-- Below it. -/
  | below
  deriving DecidableEq, Repr

/-- A matrix of fixed effects with an optional part for the Gaussian covariate. -/
structure Effects (α : Type) where
  /-- The fixed part. -/
  fixed : Option (Mat α)
  /-- The part for the covariate. -/
  random : Option (Mat α) := none
  /-- Where the part for the covariate is joined. -/
  joining : Joining := .beside

/-- Two matrices joined, when they agree along the common side. -/
def Joining.join [Zero α] (j : Joining) (a b : Mat α) : Except (Fault α) (Mat α) :=
  match j with
  | .beside =>
    match a.beside? b with
    | some m => .ok m
    | none => .error (.joinMismatch 0 a.rows b.rows)
  | .below =>
    match a.above? b with
    | some m => .ok m
    | none => .error (.joinMismatch 1 a.cols b.cols)

/-- The two parts joined; one part alone when the other is absent. -/
def Effects.combined [Zero α] (e : Effects α) : Except (Fault α) (Option (Mat α)) :=
  match e.fixed, e.random with
  | none, random => .ok random
  | some fixed, none => .ok (some fixed)
  | some fixed, some random => (e.joining.join fixed random).map some

/-- The covariance that the engine needs. -/
inductive OutcomeCovariance (α : Type) where
  /-- Without a Gaussian covariate: the covariance of the errors. -/
  | error (sigma : Mat α)
  /-- With one: the covariance of the outcomes, the variance of the covariate, and the covariance
  of the two. -/
  | joint (outcome covariate cross : Mat α)

/-- The covariance of the outcomes. -/
def OutcomeCovariance.outcome : OutcomeCovariance α → Mat α
  | .error sigma => sigma
  | .joint outcome _ _ => outcome

/-- The inputs of a power engine. -/
structure Bundle (α : Type) where
  /-- What is solved for. -/
  goal : Goal
  /-- The statistical tests. -/
  tests : List StatisticalTest
  /-- The type I error rates. -/
  alphas : List α
  /-- The desired powers. -/
  nominalPowers : List α
  /-- The sizes of the smallest group. -/
  sampleSizes : List (Datum α)
  /-- The scale factors for means. -/
  betaScales : List α
  /-- The scale factors for variability. -/
  sigmaScales : List α
  /-- The power methods. -/
  powerMethods : List PowerMethod
  /-- The quantiles of power. -/
  quantiles : List α
  /-- The design matrix. -/
  design : Mat α
  /-- The means. -/
  beta : Mat α
  /-- The coefficients of the Gaussian covariate. -/
  betaRandom : Option (Mat α)
  /-- The contrast between participants. -/
  between : Option (Effects α)
  /-- The contrast within participants. -/
  within : Option (Mat α)
  /-- The null hypothesis. -/
  thetaNull : Option (Mat α)
  /-- The covariance of the outcomes. -/
  covariance : OutcomeCovariance α
  /-- What confidence intervals rest on. -/
  interval : Option (IntervalDescription α)

namespace Bundle

/-- Is there a Gaussian covariate? -/
def hasGaussianCovariate (b : Bundle α) : Bool :=
  match b.covariance with
  | .error _ => false
  | .joint .. => true

/-- The means together with the coefficients of the covariate. -/
def betaEffects (b : Bundle α) : Effects α := ⟨some b.beta, b.betaRandom, .below⟩

/-- The fixed part of the contrast between participants. -/
def fixedContrast (b : Bundle α) : Option (Mat α) := b.between.bind (·.fixed)

/-- The part of the contrast between participants for the covariate. -/
def randomContrast (b : Bundle α) : Option (Mat α) := b.between.bind (·.random)

end Bundle

end StudyPower
