import StudyPower.Design.Basic

/-!
# Drafts

A draft holds what was declared, and checking it field by field gives the study design or the first
fault.  Every design has a draft that declares it, so a design is edited by replacing fields of its
draft and checking the whole again.

## Main definitions

* `Literal α`, `Literals α` — the literal matrices, of which one that is an array already is looked
  at again like any other.
* `Draft α` — a design as declared; `Draft.check` makes a `StudyDesign`.
* `StudyDesign.draft` — the draft that declares a design.
* `Assignment α`, `StudyDesign.edit` — new values for some fields, checked again.
* `StudyDesign.editAll` — one edit after another, where an edit that fails changes nothing.
-/

namespace StudyPower

variable {α : Type}

/-- A literal matrix: nested lists as they were declared, or an array already. -/
inductive Literal (α : Type) where
  /-- Nested lists. -/
  | declared (d : Datum α)
  /-- An array. -/
  | array (a : NdArray α)

/-- The array that a literal stands for. -/
def Literal.toArray [Scalar α] (name : String) : Literal α → Except (Fault α) (NdArray α)
  | declared d => d.toArray name
  | array a => .ok a

/-- A literal matrix under its name: two-dimensional, with real entries. -/
def Literal.check [Scalar α] (name : String) (l : Literal α) :
    Except (Fault α) (String × Mat α) := do
  let m ← (← l.toArray name).toMat name
  checkFinite m.toList name
  return (name, m)

/-- The literal matrices of a draft: as declared, or a name for each. -/
inductive Literals (α : Type) where
  /-- Declared. -/
  | declared (d : Datum α)
  /-- Each under its name. -/
  | named (literals : List (String × Literal α))

/-- The matrices of a design, as they are given to a draft. -/
def Literals.ofMats (ms : List (String × Mat α)) : Literals α :=
  .named (ms.map fun (name, m) => (name, .array (.ofMat m)))

/-- The literals by name. -/
def Literals.entries : Literals α → Except (Fault α) (List (String × Literal α))
  | declared d => (·.map fun (name, literal) => (name, .declared literal)) <$> d.pairs
  | named literals => .ok literals

/-- The matrices by name.  Every literal takes the same way, whether it is an array already or
not. -/
def Literals.check [Scalar α] (l : Literals α) : Except (Fault α) (List (String × Mat α)) := do
  (← l.entries).mapM fun (name, literal) => literal.check name

/-- A study design as declared.  Parts that are declared as null are nothing. -/
structure Draft (α : Type) where
  /-- How the matrices are given. -/
  view : Datum α := .text "GUIDED_MODE"
  /-- What is solved for. -/
  goal : Datum α := .text "POWER"
  /-- Is there a Gaussian covariate? -/
  covariateFlag : Datum α := .bool false
  /-- The factors between participants. -/
  factors : Option (List Factor) := some []
  /-- The repeated measurements. -/
  measures : Option (List (RepeatedMeasure α)) := some []
  /-- The cluster levels, outermost first. -/
  clusters : Option (List (Cluster α)) := some []
  /-- The names of the responses. -/
  responses : Option (List String) := some []
  /-- The covariance structures. -/
  covariances : Option (List (Covariance α)) := some []
  /-- The relative size of each group. -/
  groupSizes : Datum α := .null
  /-- The hypotheses. -/
  hypotheses : Option (List (Hypothesis α)) := some []
  /-- The literal matrices by name. -/
  matrices : Literals α := .named []
  /-- The statistical tests. -/
  tests : Datum α := .null
  /-- The type I error rates. -/
  alphas : Datum α := .null
  /-- The desired powers. -/
  nominalPowers : Datum α := .null
  /-- The sizes of the smallest group. -/
  sampleSizes : Datum α := .null
  /-- The scale factors for means. -/
  betaScales : Datum α := .null
  /-- The scale factors for variability. -/
  sigmaScales : Datum α := .null
  /-- The power methods. -/
  powerMethods : Datum α := .null
  /-- The quantiles of power. -/
  quantiles : Datum α := .null
  /-- What confidence intervals rest on. -/
  interval : Option (IntervalDescription α) := none

/-- Check a draft, field by field. -/
def Draft.check [Scalar α] (d : Draft α) : Except (Fault α) (StudyDesign α) := do
  let view ← d.view.toTerm ViewMode
  let goal ← d.goal.toTerm Goal
  let factors ← requireParts d.factors
  let measures ← requireParts d.measures
  let clusters ← requireParts d.clusters
  let responses ← requireParts d.responses
  let covariances ← requireParts d.covariances
  let hypotheses ← requireParts d.hypotheses
  let groupSizes ← d.groupSizes.toSequence .ok
  let tests ← d.tests.toSequence (Datum.toTerm StatisticalTest)
  let alphas ← d.alphas.toSequence Datum.toReal
  let nominalPowers ← d.nominalPowers.toSequence Datum.toReal
  let sampleSizes ← d.sampleSizes.toSequence .ok
  let betaScales ← d.betaScales.toSequence Datum.toReal
  let sigmaScales ← d.sigmaScales.toSequence Datum.toReal
  let powerMethods ← d.powerMethods.toSequence (Datum.toTerm PowerMethod)
  let quantiles ← d.quantiles.toSequence Datum.toReal
  let matrices ← d.matrices.check
  return {
    view, goal, factors, measures, clusters, responses, covariances, hypotheses
    groupSizes, tests, alphas, nominalPowers, sampleSizes, betaScales, sigmaScales
    powerMethods, quantiles, matrices
    covariateFlag := d.covariateFlag
    interval := d.interval
  }

namespace StudyDesign

/-- The word for a member, as declared. -/
def wordDatum {τ : Type} [Term τ] (t : τ) : Datum α := .text (Term.word t)

/-- The list of an optional sequence, null when there is none. -/
def listDatum {β : Type} (f : β → Datum α) : Option (List β) → Datum α
  | none => .null
  | some xs => .list (xs.map f)

/-- The draft that declares a design. -/
def draft (d : StudyDesign α) : Draft α where
  view := wordDatum d.view
  goal := wordDatum d.goal
  covariateFlag := d.covariateFlag
  factors := some d.factors
  measures := some d.measures
  clusters := some d.clusters
  responses := some d.responses
  covariances := some d.covariances
  groupSizes := listDatum id d.groupSizes
  hypotheses := some d.hypotheses
  matrices := .ofMats d.matrices
  tests := listDatum wordDatum d.tests
  alphas := listDatum .real d.alphas
  nominalPowers := listDatum .real d.nominalPowers
  sampleSizes := listDatum id d.sampleSizes
  betaScales := listDatum .real d.betaScales
  sigmaScales := listDatum .real d.sigmaScales
  powerMethods := listDatum wordDatum d.powerMethods
  quantiles := listDatum .real d.quantiles
  interval := d.interval

end StudyDesign

/-- A new value for one field of a design. -/
inductive Assignment (α : Type) where
  /-- How the matrices are given. -/
  | view (d : Datum α)
  /-- What is solved for. -/
  | goal (d : Datum α)
  /-- Is there a Gaussian covariate? -/
  | covariateFlag (d : Datum α)
  /-- The factors between participants. -/
  | factors (xs : Option (List Factor))
  /-- The repeated measurements. -/
  | measures (xs : Option (List (RepeatedMeasure α)))
  /-- The cluster levels. -/
  | clusters (xs : Option (List (Cluster α)))
  /-- The names of the responses. -/
  | responses (xs : Option (List String))
  /-- The covariance structures. -/
  | covariances (xs : Option (List (Covariance α)))
  /-- The relative size of each group. -/
  | groupSizes (d : Datum α)
  /-- The hypotheses. -/
  | hypotheses (xs : Option (List (Hypothesis α)))
  /-- The literal matrices. -/
  | matrices (xs : Literals α)
  /-- The statistical tests. -/
  | tests (d : Datum α)
  /-- The type I error rates. -/
  | alphas (d : Datum α)
  /-- The desired powers. -/
  | nominalPowers (d : Datum α)
  /-- The sizes of the smallest group. -/
  | sampleSizes (d : Datum α)
  /-- The scale factors for means. -/
  | betaScales (d : Datum α)
  /-- The scale factors for variability. -/
  | sigmaScales (d : Datum α)
  /-- The power methods. -/
  | powerMethods (d : Datum α)
  /-- The quantiles of power. -/
  | quantiles (d : Datum α)
  /-- What confidence intervals rest on. -/
  | interval (x : Option (IntervalDescription α))

/-- A draft with one field replaced. -/
def Draft.assign (d : Draft α) : Assignment α → Draft α
  | .view x => { d with view := x }
  | .goal x => { d with goal := x }
  | .covariateFlag x => { d with covariateFlag := x }
  | .factors x => { d with factors := x }
  | .measures x => { d with measures := x }
  | .clusters x => { d with clusters := x }
  | .responses x => { d with responses := x }
  | .covariances x => { d with covariances := x }
  | .groupSizes x => { d with groupSizes := x }
  | .hypotheses x => { d with hypotheses := x }
  | .matrices x => { d with matrices := x }
  | .tests x => { d with tests := x }
  | .alphas x => { d with alphas := x }
  | .nominalPowers x => { d with nominalPowers := x }
  | .sampleSizes x => { d with sampleSizes := x }
  | .betaScales x => { d with betaScales := x }
  | .sigmaScales x => { d with sigmaScales := x }
  | .powerMethods x => { d with powerMethods := x }
  | .quantiles x => { d with quantiles := x }
  | .interval x => { d with interval := x }

namespace StudyDesign

/-- The design with some fields replaced, checked again as a whole. -/
def edit [Scalar α] (d : StudyDesign α) (changes : List (Assignment α)) :
    Except (Fault α) (StudyDesign α) :=
  (changes.foldl Draft.assign d.draft).check

/-- The design with another goal. -/
def withGoal [Scalar α] (d : StudyDesign α) (goal : Goal) : Except (Fault α) (StudyDesign α) :=
  d.edit [.goal (wordDatum goal)]

/-- One edit after another; an edit that fails changes nothing. -/
def editAll [Scalar α] (d : StudyDesign α) (edits : List (List (Assignment α))) : StudyDesign α :=
  edits.foldl (fun d changes =>
    match d.edit changes with
    | .ok d => d
    | .error _ => d) d

end StudyDesign

end StudyPower
