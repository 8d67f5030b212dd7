import StudyPower.Datum.Form
import StudyPower.Design.Draft

/-!
# Declared designs

A study design is declared as a record with one field for each part.  The parts are read in a fixed
order, so of two faults the first in that order is reported; a field that is absent keeps the value
it has in an empty draft.  Each record must fit the form of its kind, which is looked at once the
fields that hold real numbers or further records are read, and before the other fields.

## Main definitions

* `Factor.form` and its kin, `StudyDesign.form` — the fields of each kind of record.
* `Factor.ofDatum`, `RepeatedMeasure.ofDatum`, `Cluster.ofDatum`, `CovarianceDraft.ofDatum`,
  `EffectMapping.ofDatum`, `Hypothesis.ofDatum`, `IntervalDescription.ofDatum` — the parts.
* `fieldReaders` — how each field of a design is read.
* `Assignment.listOfDatum`, `StudyDesign.ofDatum` — the fields of a record, and the design.
* `Cluster.toDatum`, `EffectMapping.toDatum`, `Hypothesis.toDatum`, `IntervalDescription.toDatum` —
  the records of the parts.
-/

namespace StudyPower

variable {α : Type}

/-- The values in a field, none when it is absent. -/
def Datum.eachAt (name : String) (d : Datum α) : Except (Fault α) (List (Datum α)) :=
  match d.field? name with
  | none => .ok []
  | some values => values.each

/-- The parts that a value consists of, each read. -/
def Datum.eachAs {β : Type} (read : Datum α → Except (Fault α) β) (d : Datum α) :
    Except (Fault α) (List β) := do
  (← d.each).mapM read

/-! ### Factors and measurements -/

/-- The fields of a factor. -/
def Factor.form : Form where
  owner := "BetweenParticipantFactor"
  required := ["predictor_name", "categories"]

/-- A declared factor. -/
def Factor.ofDatum (d : Datum α) : Except (Fault α) Factor := do
  d.checkForm form
  return ⟨d.textAt "predictor_name", (← (d.get "categories").each).length⟩

/-- The fields of a dimension of repeated measurement. -/
def RepeatedMeasure.form : Form where
  owner := "RepeatedMeasuresNode"
  required := ["dimension", "number_of_measurements"]
  optional := ["spacing"]

/-- A declared dimension of repeated measurement. -/
def RepeatedMeasure.ofDatum (d : Datum α) : Except (Fault α) (RepeatedMeasure α) := do
  d.checkForm form
  let spacing ← (d.get "spacing").toSequence .ok
  return ⟨d.textAt "dimension", d.get "number_of_measurements", spacing⟩

/-- The fields of a cluster level. -/
def Cluster.form : Form where
  owner := "ClusterNode"
  required := ["group_name", "group_size"]
  optional := ["intra_cluster_correlation"]

/-- A declared cluster level, without correlation when none is declared. -/
def Cluster.ofDatum [Scalar α] (d : Datum α) : Except (Fault α) (Cluster α) := do
  let correlation ← match d.field? "intra_cluster_correlation" with
    | none => pure (.real 0)
    | some c => c.widen
  d.checkForm form
  return ⟨d.textAt "group_name", d.get "group_size", correlation⟩

/-- The record of a cluster level. -/
def Cluster.toDatum (c : Cluster α) : Datum α :=
  .record [("group_name", .text c.name), ("group_size", c.size),
    ("intra_cluster_correlation", c.correlation)]

/-! ### Responses -/

/-- The fields of a response. -/
def responseForm : Form where
  owner := "ResponseNode"
  required := ["name"]

/-- The name of a declared response. -/
def Datum.toResponse (d : Datum α) : Except (Fault α) String := do
  d.checkForm responseForm
  return d.textAt "name"

/-! ### Covariances -/

/-- The fields of a covariance structure. -/
def CovarianceDraft.form : Form where
  owner := "Covariance"
  required := ["name", "type"]
  optional := ["rho", "delta", "standard_deviations", "matrix"]

/-- A declared covariance structure. -/
def CovarianceDraft.ofDatum [Scalar α] (d : Datum α) : Except (Fault α) (CovarianceDraft α) := do
  let base ← (d.get "rho").widen
  let decay ← (d.get "delta").widen
  d.checkForm form
  return {
    name := d.textAt "name"
    kind := d.get "type"
    base, decay
    deviations := d.get "standard_deviations"
    matrix := match d.get "matrix" with
      | .null => none
      | m => some m
  }

/-- The structure that a record declares. -/
def Covariance.ofDatum [Scalar α] (d : Datum α) : Except (Fault α) (Covariance α) := do
  (← CovarianceDraft.ofDatum d).check

/-! ### Hypotheses -/

/-- What an effect under test is about. -/
inductive EffectScope where
  /-- A factor between participants. -/
  | between
  /-- A dimension of repeated measurement. -/
  | within
  deriving DecidableEq, Repr

/-- The field with the name of the factor or the dimension. -/
def EffectScope.target : EffectScope → String
  | between => "factor_name"
  | within => "dimension"

/-- The fields of an effect. -/
def EffectScope.form (scope : EffectScope) : Form where
  owner := match scope with
    | between => "HypothesisBetweenMapping"
    | within => "HypothesisRepeatedMeasuresMapping"
  required := [scope.target]
  optional := ["trend"]

/-- A declared effect. -/
def EffectMapping.ofDatum (scope : EffectScope) (d : Datum α) :
    Except (Fault α) (EffectMapping α) := do
  d.checkForm scope.form
  return ⟨d.textAt scope.target,
    match d.field? "trend" with
    | none => .known .none
    | some word => .ofDatum word⟩

/-- The record of an effect. -/
def EffectMapping.toDatum (scope : EffectScope) (m : EffectMapping α) : Datum α :=
  .record [(scope.target, .text m.target), ("trend", match m.trend with
    | .known t => .text (Term.word t)
    | .unknown d => d)]

/-- The declared effects in a field, nothing when it is null. -/
def EffectMapping.listAt (scope : EffectScope) (name : String) (d : Datum α) :
    Except (Fault α) (Option (List (EffectMapping α))) :=
  match d.field? name with
  | none => .ok (some [])
  | some effects => effects.toSequence (ofDatum scope)

/-- The fields of a hypothesis. -/
def Hypothesis.form : Form where
  owner := "Hypothesis"
  required := ["type"]
  optional := ["between_mappings", "within_mappings"]

/-- A declared hypothesis. -/
def Hypothesis.ofDatum (d : Datum α) : Except (Fault α) (Hypothesis α) := do
  let between ← EffectMapping.listAt .between "between_mappings" d
  let within ← EffectMapping.listAt .within "within_mappings" d
  d.checkForm form
  let kind ← (d.get "type").toTerm HypothesisKind
  return ⟨kind, ← requireParts between, ← requireParts within⟩

/-- The record of a hypothesis. -/
def Hypothesis.toDatum (h : Hypothesis α) : Datum α :=
  .record [("type", .text (Term.word h.kind)),
    ("between_mappings", .list (h.between.map (·.toDatum .between))),
    ("within_mappings", .list (h.within.map (·.toDatum .within)))]

/-! ### Estimates -/

/-- The fields of a description of estimates. -/
def IntervalDescription.form : Form where
  owner := "ConfidenceIntervalDescription"
  required := ["beta_fixed", "sigma_fixed", "lower_tail_probability", "upper_tail_probability",
    "sample_size", "rank_of_design_matrix"]

/-- A declared description of estimates. -/
def IntervalDescription.ofDatum [Scalar α] (d : Datum α) :
    Except (Fault α) (IntervalDescription α) := do
  let lowerTail ← (d.get "lower_tail_probability").widen
  let upperTail ← (d.get "upper_tail_probability").widen
  d.checkForm form
  return {
    betaFixed := d.get "beta_fixed"
    sigmaFixed := d.get "sigma_fixed"
    lowerTail, upperTail
    sampleSize := d.get "sample_size"
    designRank := d.get "rank_of_design_matrix"
  }

/-- The record of a description of estimates. -/
def IntervalDescription.toDatum (i : IntervalDescription α) : Datum α :=
  .record [("beta_fixed", i.betaFixed), ("sigma_fixed", i.sigmaFixed),
    ("lower_tail_probability", i.lowerTail), ("upper_tail_probability", i.upperTail),
    ("sample_size", i.sampleSize), ("rank_of_design_matrix", i.designRank)]

/-! ### Designs -/

/-- How each field of a design is read, in the order in which the fields are read. -/
def fieldReaders [Scalar α] : List (String × (Datum α → Except (Fault α) (Assignment α))) := [
  ("between_factors", fun d => .factors <$> d.toSequence Factor.ofDatum),
  ("repeated_measures", fun d => .measures <$> d.toSequence RepeatedMeasure.ofDatum),
  ("clusters", fun d => .clusters <$> d.toSequence Cluster.ofDatum),
  ("responses", fun d => .responses <$> d.toSequence Datum.toResponse),
  ("covariances", fun d => .covariances <$> d.toSequence Covariance.ofDatum),
  ("hypotheses", fun d => .hypotheses <$> d.toSequence Hypothesis.ofDatum),
  ("confidence_interval", fun d => .interval <$> match d with
    | .record _ => some <$> IntervalDescription.ofDatum d
    | _ => .ok none),
  ("view_type", fun d => .ok (.view d)),
  ("solution_type", fun d => .ok (.goal d)),
  ("gaussian_covariate", fun d => .ok (.covariateFlag d)),
  ("relative_group_sizes", fun d => .ok (.groupSizes d)),
  ("matrices", fun d => .ok (.matrices (.declared d))),
  ("statistical_tests", fun d => .ok (.tests d)),
  ("alphas", fun d => .ok (.alphas d)),
  ("nominal_powers", fun d => .ok (.nominalPowers d)),
  ("sample_sizes", fun d => .ok (.sampleSizes d)),
  ("beta_scales", fun d => .ok (.betaScales d)),
  ("sigma_scales", fun d => .ok (.sigmaScales d)),
  ("power_methods", fun d => .ok (.powerMethods d)),
  ("quantiles", fun d => .ok (.quantiles d))]

/-- The fields of a design, none of which must be declared. -/
def StudyDesign.form (α : Type) [Scalar α] : Form where
  owner := "StudyDesign"
  optional :=
    (fieldReaders : List (String × (Datum α → Except (Fault α) (Assignment α)))).map Prod.fst

/-- The fields of a design that a record declares. -/
def Assignment.listOfDatum [Scalar α] (d : Datum α) : Except (Fault α) (List (Assignment α)) := do
  let assignments ← (fieldReaders.filterMap fun (name, read) => (d.field? name).map read).mapM id
  d.checkForm (StudyDesign.form α)
  return assignments

/-- The design that a record declares. -/
def StudyDesign.ofDatum [Scalar α] (d : Datum α) : Except (Fault α) (StudyDesign α) := do
  ((← Assignment.listOfDatum d).foldl Draft.assign {}).check

end StudyPower
