/-!
# Vocabulary

The closed lists of words that a study design chooses from, each with the word that stands for
it in declarations and answers.

## Main definitions

* `Term τ` — a vocabulary `τ`: its name, its members and their words; `Term.ofWord?` looks a word
  up.
* `ViewMode`, `Goal`, `HypothesisKind`, `Trend`, `PowerMethod`, `StatisticalTest`,
  `CovarianceKind`, `IntervalKind` — the vocabularies.
-/

namespace StudyPower

/-- A closed list of words. -/
class Term (τ : Type) where
  /-- The name of the vocabulary in a message. -/
  kindName : String
  /-- The members. -/
  all : List τ
  /-- The word for a member. -/
  word : τ → String

/-- The member with this word. -/
def Term.ofWord? {τ : Type} [Term τ] (s : String) : Option τ :=
  (Term.all : List τ).find? fun t => Term.word t == s

/-- How the matrices of a design are given. -/
inductive ViewMode where
  /-- Literal matrices. -/
  | matrix
  /-- Matrices built from factors, clusters and covariance structures. -/
  | guided
  deriving DecidableEq, Repr, Inhabited

instance : Term ViewMode where
  kindName := "ViewType"
  all := [.matrix, .guided]
  word
    | .matrix => "MATRIX_MODE"
    | .guided => "GUIDED_MODE"

/-- What a study solves for. -/
inductive Goal where
  /-- The power at given sample sizes. -/
  | power
  /-- The sample size that reaches a given power. -/
  | sampleSize
  /-- The smallest difference that can be detected. -/
  | detectableDifference
  deriving DecidableEq, Repr, Inhabited

instance : Term Goal where
  kindName := "SolutionType"
  all := [.power, .sampleSize, .detectableDifference]
  word
    | .power => "POWER"
    | .sampleSize => "SAMPLE_SIZE"
    | .detectableDifference => "DETECTABLE_DIFFERENCE"

/-- The form of a hypothesis. -/
inductive HypothesisKind where
  /-- The main effect of one factor. -/
  | mainEffect
  /-- The interaction of several factors. -/
  | interaction
  /-- A trend across the levels of one factor. -/
  | trend
  /-- A multivariate main effect. -/
  | manova
  deriving DecidableEq, Repr, Inhabited

instance : Term HypothesisKind where
  kindName := "HypothesisType"
  all := [.mainEffect, .interaction, .trend, .manova]
  word
    | .mainEffect => "MAIN_EFFECT"
    | .interaction => "INTERACTION"
    | .trend => "TREND"
    | .manova => "MANOVA"

/-- The comparison made among the levels of a tested factor. -/
inductive Trend where
  /-- The first level against each other level. -/
  | none
  /-- Each later level against the first. -/
  | changeFromBaseline
  /-- Every polynomial degree. -/
  | allPolynomial
  /-- Degree one. -/
  | linear
  /-- Degree two. -/
  | quadratic
  /-- Degree three. -/
  | cubic
  deriving DecidableEq, Repr, Inhabited

instance : Term Trend where
  kindName := "TrendType"
  all := [.none, .changeFromBaseline, .allPolynomial, .linear, .quadratic, .cubic]
  word
    | .none => "NONE"
    | .changeFromBaseline => "CHANGE_FROM_BASELINE"
    | .allPolynomial => "ALL_POLYNOMIAL"
    | .linear => "LINEAR"
    | .quadratic => "QUADRATIC"
    | .cubic => "CUBIC"

/-- How power is averaged over the values of a Gaussian covariate. -/
inductive PowerMethod where
  /-- At fixed covariate values. -/
  | conditional
  /-- Averaged over covariate values. -/
  | unconditional
  /-- A quantile of the power over covariate values. -/
  | quantile
  deriving DecidableEq, Repr, Inhabited

instance : Term PowerMethod where
  kindName := "PowerMethod"
  all := [.conditional, .unconditional, .quantile]
  word
    | .conditional => "CONDITIONAL"
    | .unconditional => "UNCONDITIONAL"
    | .quantile => "QUANTILE"

/-- The test statistics. -/
inductive StatisticalTest where
  /-- The uncorrected univariate approach. -/
  | unirep
  /-- The univariate approach with the conservative correction. -/
  | unirepBox
  /-- The univariate approach with the Geisser-Greenhouse correction. -/
  | unirepGG
  /-- The univariate approach with the Huynh-Feldt correction. -/
  | unirepHF
  /-- Wilks lambda. -/
  | wilksLambda
  /-- The Pillai-Bartlett trace. -/
  | pillaiBartlett
  /-- The Hotelling-Lawley trace. -/
  | hotellingLawley
  deriving DecidableEq, Repr, Inhabited

instance : Term StatisticalTest where
  kindName := "StatisticalTest"
  all := [.unirep, .unirepBox, .unirepGG, .unirepHF, .wilksLambda, .pillaiBartlett,
    .hotellingLawley]
  word
    | .unirep => "UNIREP"
    | .unirepBox => "UNIREPBOX"
    | .unirepGG => "UNIREPGG"
    | .unirepHF => "UNIREPHF"
    | .wilksLambda => "WL"
    | .pillaiBartlett => "PBT"
    | .hotellingLawley => "HLT"

/-- How a declared covariance is written down. -/
inductive CovarianceKind where
  /-- A correlation that decays with the distance of two measurements. -/
  | decaying
  /-- A literal correlation matrix. -/
  | correlation
  /-- A literal covariance matrix. -/
  | covariance
  deriving DecidableEq, Repr, Inhabited

instance : Term CovarianceKind where
  kindName := "CovarianceType"
  all := [.decaying, .correlation, .covariance]
  word
    | .decaying => "LEAR_CORRELATION"
    | .correlation => "UNSTRUCTURED_CORRELATION"
    | .covariance => "UNSTRUCTURED_COVARIANCE"

/-- Which estimates a confidence interval of power accounts for. -/
inductive IntervalKind where
  /-- The means are known and the covariance is estimated. -/
  | sigmaEstimated
  /-- The means and the covariance are estimated. -/
  | bothEstimated
  deriving DecidableEq, Repr, Inhabited

instance : Term IntervalKind where
  kindName := "IntervalKind"
  all := [.sigmaEstimated, .bothEstimated]
  word
    | .sigmaEstimated => "BETA_KNOWN_SIGMA_ESTIMATED"
    | .bothEstimated => "BETA_SIGMA_ESTIMATED"

end StudyPower
