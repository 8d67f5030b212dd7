import StudyPower.Literal
import StudyPower.Vocabulary

/-!
# Parts of a study design

The factors, measurements, clusters, responses, covariance structures and hypotheses that a design
is declared with.

## Main definitions

* `Datum.toTerm` — the member of a vocabulary that a declared word stands for.
* `Factor`, `RepeatedMeasure`, `Cluster` — the structure of participants and measurements.
* `Points` — the values at which levels lie.
* `CovarianceDraft`, `Covariance` — a covariance structure as declared, and once checked.
* `TrendChoice`, `EffectMapping`, `Hypothesis` — the effect under test.
* `IntervalDescription` — what confidence intervals of power rest on.
-/

namespace StudyPower

variable {α : Type}

/-- The member of a vocabulary that a declared word stands for. -/
def Datum.toTerm (τ : Type) [Term τ] (d : Datum α) : Except (Fault α) τ :=
  let refused : Except (Fault α) τ := .error (.notATerm (Term.kindName τ) d)
  match d with
  | .text s =>
    match Term.ofWord? s with
    | some t => .ok t
    | none => refused
  | _ => refused

/-- A predictor between participants. -/
structure Factor where
  /-- The name. -/
  name : String
  /-- The number of categories. -/
  levels : Nat
  deriving DecidableEq, Repr

/-- A dimension along which each participant is measured repeatedly. -/
structure RepeatedMeasure (α : Type) where
  /-- The name of the dimension. -/
  dimension : String
  /-- The declared number of measurements. -/
  count : Datum α
  /-- The values at which measurements are taken; equally spaced when absent. -/
  spacing : Option (List (Datum α))

/-- The points at which levels lie.  Their number may be known when their values are not. -/
structure Points (α : Type) where
  /-- How many there are. -/
  count : Except (Fault α) Nat
  /-- Their values, when all are numbers. -/
  values : Except (Fault α) (List α)

namespace Points

/-- The points with these values. -/
def ofList (xs : List α) : Points α := ⟨.ok xs.length, .ok xs⟩

/-- The points with declared values. -/
def ofDatum [Scalar α] (d : Datum α) : Points α := ⟨d.length, d.toVector⟩

/-- The points `1, 2, …, n`. -/
def equallySpaced [NatCast α] (n : Int) : Points α :=
  ofList ((List.range n.toNat).map fun i => ((i + 1 : Nat) : α))

end Points

namespace RepeatedMeasure

/-- The points at which measurements are taken. -/
def points [Scalar α] (m : RepeatedMeasure α) : Except (Fault α) (Points α) :=
  match m.spacing with
  | some ds => .ok (.ofDatum (.list ds))
  | none => Points.equallySpaced <$> m.count.toRangeEnd

end RepeatedMeasure

/-- One level of clustered sampling. -/
structure Cluster (α : Type) where
  /-- The name of the level. -/
  name : String
  /-- The declared group size. -/
  size : Datum α
  /-- The declared correlation of two members of one group. -/
  correlation : Datum α

/-- The correlation structure of one dimension, or of the responses, as declared. -/
structure CovarianceDraft (α : Type) where
  /-- The dimension that it describes. -/
  name : String
  /-- The word for its kind. -/
  kind : Datum α
  /-- The declared base of a decaying correlation. -/
  base : Datum α
  /-- The declared decay of a decaying correlation. -/
  decay : Datum α
  /-- The standard deviation of each level. -/
  deviations : Datum α
  /-- A literal matrix. -/
  matrix : Option (Datum α)

/-- The correlation structure of one dimension, or of the responses. -/
structure Covariance (α : Type) where
  /-- The dimension that it describes. -/
  name : String
  /-- How the other fields are read. -/
  kind : CovarianceKind
  /-- The declared base of a decaying correlation. -/
  base : Datum α
  /-- The declared decay of a decaying correlation. -/
  decay : Datum α
  /-- The standard deviation of each level. -/
  deviations : Option (List α)
  /-- A literal correlation or covariance matrix. -/
  matrix : Option (Mat α)

/-- The name that the covariance of the responses is declared under. -/
def responseCovarianceName : String := "__RESPONSE_COVARIANCE__"

/-- The members of an optional sequence, each read. -/
def Datum.toSequence {β : Type} (read : Datum α → Except (Fault α) β) (d : Datum α) :
    Except (Fault α) (Option (List β)) :=
  match d with
  | .null => .ok none
  | d => do return some (← (← d.each).mapM read)

/-- The parts of a sequence that must be there. -/
def requireParts {β : Type} (parts : Option (List β)) : Except (Fault α) (List β) :=
  match parts with
  | some xs => .ok xs
  | none => .error (.notIterable (Datum.null : Datum α).kindName)

/-- Check a declared covariance structure: its kind, its deviations, and its matrix. -/
def CovarianceDraft.check [Scalar α] (c : CovarianceDraft α) : Except (Fault α) (Covariance α) := do
  let kind ← c.kind.toTerm CovarianceKind
  let deviations ← c.deviations.toSequence Datum.toReal
  let matrix ← c.matrix.mapM fun d => d.toMat ("covariance " ++ Text.quoted c.name)
  return ⟨c.name, kind, c.base, c.decay, deviations, matrix⟩

/-- The comparison that a mapping asks for.  A word outside the vocabulary is refused only when a
contrast is built from it. -/
inductive TrendChoice (α : Type) where
  /-- A known comparison. -/
  | known (trend : Trend)
  /-- Anything else. -/
  | unknown (value : Datum α)

/-- The comparison that a declared word asks for. -/
def TrendChoice.ofDatum (d : Datum α) : TrendChoice α :=
  match d.toTerm Trend with
  | .ok t => .known t
  | .error _ => .unknown d

/-- The comparison, when it is known. -/
def TrendChoice.resolve : TrendChoice α → Except (Fault α) Trend
  | .known t => .ok t
  | .unknown d => .error (.notATerm (Term.kindName Trend) d)

/-- A factor or a dimension under test, and the comparison among its levels. -/
structure EffectMapping (α : Type) where
  /-- The name of the factor or the dimension. -/
  target : String
  /-- The comparison. -/
  trend : TrendChoice α

/-- A hypothesis and the effects that it involves. -/
structure Hypothesis (α : Type) where
  /-- The form of the hypothesis. -/
  kind : HypothesisKind
  /-- The factors under test. -/
  between : List (EffectMapping α)
  /-- The dimensions under test. -/
  within : List (EffectMapping α)

/-- How the means and the covariance were obtained, for confidence intervals of power, as
declared. -/
structure IntervalDescription (α : Type) where
  /-- Are the means known? -/
  betaFixed : Datum α
  /-- Is the covariance known? -/
  sigmaFixed : Datum α
  /-- The probability below the interval. -/
  lowerTail : Datum α
  /-- The probability above the interval. -/
  upperTail : Datum α
  /-- The sample size of the estimates. -/
  sampleSize : Datum α
  /-- The rank of the design matrix of the estimates. -/
  designRank : Datum α

/-- Which estimates an interval accounts for, if any. -/
def IntervalDescription.kind [Scalar α] (d : IntervalDescription α) : Option IntervalKind :=
  if d.sigmaFixed.isTruthy then none
  else if d.betaFixed.isTruthy then some .sigmaEstimated else some .bothEstimated

end StudyPower
