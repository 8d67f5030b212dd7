import StudyPower.Bundle.Assembly
import StudyPower.Computation.Orchestrator
import StudyPower.Design.Draft
import StudyPower.Solution
import StudyPower.Stopwatch

/-!
# Requests

A request asks for the power, the sample size or the detectable difference of a design.  The bundle
is assembled first, so a fault of the design is known before an engine is asked; only the engine's
work is left to an orchestrator.

## Main definitions

* `Means α` — the engine and the orchestrator that a request brings along.
* `RequestFault` — why a request has no solution.
* `Attempt α` — everything that a request leads to.
* `solve` — deal with a request.
-/

namespace StudyPower

variable {α : Type}

/-- The means that a request brings along to be dealt with.  An engine by itself runs on the shared
workers with the settings of the environment; an orchestrator has its own engine, workers and
settings, and may have dealt with other computations before. -/
structure Means (α : Type) where
  /-- The engine, when one is passed. -/
  engine? : Option Engine := none
  /-- The orchestrator, when one is passed. -/
  orchestrator? : Option (Orchestrator Float (Bundle α) (EngineItem α)) := none
  /-- The environment. -/
  env : Settings.Environment := []
  /-- Does a worker deal with the computation before the deadline? -/
  staffed : Bool := true

/-- The names under which a host keeps its settings and its workers. -/
structure Host where
  /-- The scope of the environment variables. -/
  scope : String
  /-- The name that workers are numbered under. -/
  workerLabel : String

/-- Why a request has no solution. -/
inductive RequestFault (α : Type) where
  /-- There is neither an engine nor an orchestrator. -/
  | noEngine
  /-- The orchestrator has another engine. -/
  | engineMismatch
  /-- The design cannot be used. -/
  | design (f : Fault α)
  /-- The environment gives no settings. -/
  | settings (f : SettingsFault)
  /-- The computation has no results. -/
  | computation (f : WaitFault)
  /-- The workers are gone. -/
  | closed (f : ClosedFault)
  /-- The results hold something that is no record. -/
  | item (f : ItemFault)
  /-- The time was not measured. -/
  | unmeasured (f : StopwatchFault)

/-- The message for a fault of a request. -/
def RequestFault.message [Scalar α] : RequestFault α → String
  | noEngine => "Either an engine or an orchestrator is required"
  | engineMismatch => "engine and orchestrator.engine differ; pass only one"
  | design f => f.message
  | settings f => f.message
  | computation f => f.message
  | closed f => f.message
  | item f => f.message
  | unmeasured f => f.message

/-- Everything that a request leads to. -/
structure Attempt (α : Type) where
  /-- What the caller was told while the request was dealt with. -/
  emitted : List String := []
  /-- The bundles that the engine was asked about for this request. -/
  asked : List (Bundle α) := []
  /-- The entries that this request added to the log. -/
  log : List Notice := []
  /-- The solution, or why there is none. -/
  outcome : Except (RequestFault α) (Solution α)

/-- An attempt that ends before anything happened. -/
def Attempt.refused (f : RequestFault α) : Attempt α := { outcome := .error f }

/-- A request. -/
structure Request (α : Type) where
  /-- The design. -/
  design : StudyDesign α
  /-- What to solve for, whatever the design says. -/
  goal : Goal
  /-- The limits on its size. -/
  limits : Limits
  /-- The deadline in seconds, when it is not the one of the settings. -/
  timeout : Option Float

/-- The clock readings of a request, in the order in which they are taken. -/
abbrev Clock : Type := Nat → Float

/-- Can a request be dealt with at all, as far as its means go?  An engine that comes with an
orchestrator must be the engine of that orchestrator. -/
def Means.check (m : Means α) : Except (RequestFault α) Unit :=
  match m.engine?, m.orchestrator? with
  | none, none => .error .noEngine
  | some e, some o =>
    if o.engine.identity = e.identity then .ok () else .error .engineMismatch
  | _, _ => .ok ()

/-- The orchestrator of a request: the one that it comes with, or one for its engine. -/
def Means.prepare (host : Host) (m : Means α) :
    Except (RequestFault α) (Orchestrator Float (Bundle α) (EngineItem α)) :=
  match m.orchestrator?, m.engine? with
  | some o, _ => .ok o
  | none, none => .error .noEngine
  | none, some e =>
    match Settings.ofEnvironment host.scope host.workerLabel m.env with
    | .error f => .error (.settings f)
    | .ok settings => .ok { engine := e, settings }

/-- The facts about a request that its solution states. -/
def Request.facts (r : Request α) (results errors : Nat) : List (String × Datum α) := [
  ("solution_type", .text (Term.word r.goal)),
  ("view_type", .text (Term.word r.design.view)),
  ("gaussian_covariate", r.design.covariateFlag),
  ("n_results", .int results),
  ("n_errors", .int errors)]

/-- The warning about failed points. -/
def errorWarning (errors results : Nat) : List String :=
  if errors = 0 then []
  else [toString errors ++ " of " ++ toString results ++ " results reported an error"]

/-- The time spent by phase, with the time that the computation waited for a worker. -/
def phases (watch : Stopwatch Float) (queue : List (String × Float)) :
    Except StopwatchFault (List (String × Float)) := do
  let sums ← watch.result
  return sums ++ queue.filter fun entry => entry.1 = "queued"

/-- The design with the goal of the request, and its bundle. -/
def Request.assemble [Scalar α] (r : Request α) :
    Except (Fault α) (StudyDesign α × Bundle α) := do
  let design ← r.design.withGoal r.goal
  return (design, ← (design.assemble r.limits).outcome)

/-- The solution that follows from a computation. -/
def Request.conclude [Scalar α] (r : Request α) (remarks : List String) (watch : Stopwatch Float)
    (clock : Clock) (c : Completion Float (EngineItem α)) :
    Except (RequestFault α) (Solution α) := do
  let records ← (translate c.items).mapError .item
  let watch := watch.timeSection "translate" (clock 7) (clock 8)
  let watch ← (watch.stop (clock 9)).mapError .unmeasured
  let errors := records.countP PowerRecord.isFailed
  let timing ← (phases watch c.timing).mapError .unmeasured
  return {
    goal := r.goal
    records
    info := r.facts records.length errors
    timing := some timing
    engineName := c.engineName
    warnings := remarks ++ errorWarning errors records.length
  }

/-- Have an engine deal with a bundle. -/
def Request.compute [Scalar α] (r : Request α) (host : Host) (means : Means α)
    (engine : Bundle α → Answer (EngineItem α)) (clock : Clock) (bundle : Bundle α)
    (remarks : List String) (watch : Stopwatch Float) : Attempt α :=
  match means.prepare host with
  | .error f => { emitted := remarks, outcome := .error f }
  | .ok o =>
    match o.run engine means.staffed bundle r.timeout (clock 3) (clock 4) (clock 5) with
    | .error f => { emitted := remarks, outcome := .error (.closed f) }
    | .ok (answer, after) =>
      let outcome := do
        let completion ← answer.mapError .computation
        r.conclude remarks (watch.timeSection "compute" (clock 3) (clock 6)) clock completion
      { emitted := remarks, asked := after.asked.drop o.asked.length
        log := after.log.drop o.log.length, outcome }

/-- Deal with a request: check its means, assemble the bundle, tell the caller what is odd about
the design, have the engine answer, and translate the answer. -/
def solve [Scalar α] (r : Request α) (host : Host) (means : Means α)
    (engine : Bundle α → Answer (EngineItem α)) (clock : Clock) : Attempt α :=
  match means.check with
  | .error f => .refused f
  | .ok () =>
    match r.assemble with
    | .error f => .refused (.design f)
    | .ok (design, bundle) =>
      let watch := ({} : Stopwatch Float).start (clock 0)
      let watch := watch.timeSection "assemble" (clock 1) (clock 2)
      r.compute host means engine clock bundle design.remarks watch

end StudyPower
