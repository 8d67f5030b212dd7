import StudyPower.Computation.Wait
import StudyPower.Journal
import StudyPower.Settings

/-!
# Orchestrators

An orchestrator submits computations to workers on behalf of one engine and waits for each of them
up to a deadline.  What becomes of a computation is classified when a caller has waited for it, and
full detail is left in a log.

## Main definitions

* `Engine` — an engine's name and capabilities.
* `Notice` — an entry of the log.
* `Orchestrator τ β ρ` — the engine, the settings, the jobs and the log.
* `submit`, `wait`, `cancel`, `timing`, `shutdown` — what callers do.
* `claim`, `beginAsking`, `conclude`, `work` — what workers do.
* `run` — submit a computation and wait for it.
-/

namespace StudyPower

/-! ### Engines -/

/-- An engine, apart from what it computes. -/
structure Engine where
  /-- The name. -/
  name : String := "function"
  /-- The capabilities that it declares. -/
  capabilities : List String := []
  /-- What tells it from other engines, which may have its name and its capabilities. -/
  identity : Nat := 0
  deriving DecidableEq, Repr

/-- The engine stops early when it is asked to. -/
def cancellationCapability : String := "cancellation"

/-- The capabilities that have a meaning. -/
def knownCapabilities : List String :=
  [cancellationCapability, "thread_safe", "confidence_intervals"]

/-- Does the engine declare this capability? -/
def Engine.supports (e : Engine) (capability : String) : Bool := e.capabilities.contains capability

/-- Is the engine told when it should stop? -/
def Engine.heedsCancel (e : Engine) : Bool := e.supports cancellationCapability

/-! ### Log -/

/-- An entry of the log. -/
inductive Notice where
  /-- A caller stopped waiting. -/
  | timedOut (engine : String) (seconds : Float) (withdrawn : Bool)
  /-- The work was withdrawn before a worker took it up. -/
  | neverRan (engine : String)
  /-- The engine refused the request. -/
  | refused (engine : String) (failure : Failure)
  /-- The engine ran out of memory. -/
  | outOfMemory (engine : String) (failure : Failure)
  /-- The engine failed. -/
  | crashed (engine : String) (failure : Failure)

namespace Notice

/-- The importance of an entry. -/
def level : Notice → Level
  | timedOut .. | refused .. => .warning
  | neverRan _ | outOfMemory .. | crashed .. => .error

/-- The failure that an entry is about. -/
def failure? : Notice → Option Failure
  | timedOut .. | neverRan _ => none
  | refused _ f | outOfMemory _ f | crashed _ f => some f

/-- The text of an entry. -/
def text : Notice → String
  | timedOut engine seconds withdrawn =>
    "Computation on engine " ++ Text.quoted engine ++ " timed out after " ++
      Decimal.fixed 3 seconds ++ "s (" ++
      (if withdrawn then "removed from queue" else "worker signalled to stop") ++ ")"
  | neverRan engine =>
    "Computation on engine " ++ Text.quoted engine ++ " was cancelled before it ran"
  | refused engine f => "Engine " ++ Text.quoted engine ++ " rejected the request: " ++ f.message
  | outOfMemory engine _ => "Engine " ++ Text.quoted engine ++ " ran out of memory"
  | crashed engine _ => "Engine " ++ Text.quoted engine ++ " failed"

/-- The entry about a failure. -/
def ofFailure (engine : String) (f : Failure) : Notice :=
  if f.kind.isRefusal then refused engine f
  else if f.kind = .outOfMemory then outOfMemory engine f
  else crashed engine f

end Notice

/-! ### Orchestrators -/

/-- The results of a computation. -/
structure Completion (τ ρ : Type) where
  /-- The items of the engine's answer. -/
  items : List ρ
  /-- The name of the engine. -/
  engineName : String
  /-- The time spent. -/
  timing : List (String × τ)

/-- What is known about the results of a computation. -/
def Completion.info {τ ρ α : Type} (c : Completion τ ρ) : List (String × Datum α) := [
  ("engine", .text c.engineName),
  ("n_results", .int c.items.length),
  ("state", .text (Term.word Stage.completed))]

/-- Computations on behalf of one engine. -/
structure Orchestrator (τ β ρ : Type) where
  /-- The engine. -/
  engine : Engine
  /-- The settings. -/
  settings : Settings
  /-- Do the workers belong to this orchestrator? -/
  ownsWorkers : Bool := false
  /-- Are computations accepted? -/
  isOpen : Bool := true
  /-- The jobs in order of submission. -/
  jobs : List (Job τ β ρ) := []
  /-- The inputs that the engine was asked about, in order. -/
  asked : List β := []
  /-- The log. -/
  log : List Notice := []

/-- A computation submitted to workers that are gone. -/
structure ClosedFault where
  deriving DecidableEq, Repr

/-- The message about such a computation. -/
def ClosedFault.message (_ : ClosedFault) : String := "cannot schedule new futures after shutdown"

namespace Orchestrator

variable {τ β ρ : Type}

/-- The job with this number. -/
def job? (o : Orchestrator τ β ρ) (n : Nat) : Option (Job τ β ρ) := o.jobs[n]?

/-- A step on the job with this number. -/
def update (o : Orchestrator τ β ρ) (n : Nat) (f : Job τ β ρ → Job τ β ρ) : Orchestrator τ β ρ :=
  { o with jobs := o.jobs.modify n f }

/-- Another entry of the log. -/
def report (o : Orchestrator τ β ρ) (notice : Notice) : Orchestrator τ β ρ :=
  { o with log := o.log ++ [notice] }

/-! ### Callers -/

/-- Submit a computation; its number is the count of those before it. -/
def submit (o : Orchestrator τ β ρ) (input : β) (now : τ) :
    Except ClosedFault (Orchestrator τ β ρ) :=
  if o.isOpen then .ok { o with jobs := o.jobs ++ [Job.submitted input now] }
  else .error ⟨⟩

/-- The log entry for what a caller found. -/
def notice? (o : Orchestrator τ β ρ) (seconds : Float) : Finding ρ → Option Notice
  | .timedOut withdrawn => some (.timedOut o.engine.name seconds withdrawn)
  | .neverRan => some (.neverRan o.engine.name)
  | .failed f => some (.ofFailure o.engine.name f)
  | .succeeded _ => none

/-- What a caller learns from what was found. -/
def classify [Sub τ] (o : Orchestrator τ β ρ) (seconds : Float) (now : τ) (handle : Handle τ) :
    Finding ρ → Except WaitFault (Completion τ ρ)
  | .timedOut withdrawn => .error (.computation (.timedOut seconds withdrawn))
  | .neverRan => .error (.computation .internal)
  | .failed f =>
    match ComputationFault.ofFailure o.settings.maxMessageLength f with
    | .ok fault => .error (.computation fault)
    | .error fault => .error (.unusable fault)
  | .succeeded items => .ok ⟨items, o.engine.name, handle.timing now⟩

/-- Wait for this job up to a deadline that the clock reaches. -/
def waitFor [Sub τ] (o : Orchestrator τ β ρ) (n : Nat) (j : Job τ β ρ) (seconds : Float)
    (now : τ) : Except WaitFault (Completion τ ρ) × Orchestrator τ β ρ :=
  let (found, j) := j.wait now
  let o := o.update n fun _ => j
  let answer := o.classify seconds now j.handle found
  match o.notice? seconds found with
  | some notice => (answer, o.report notice)
  | none => (answer, o)

/-- Wait for the job with this number up to a deadline, the one of the settings unless another is
given.  The clock is set only while there is nothing to see, so a deadline beyond its range is no
fault after the computation has ended; the fault leaves the job alone.  A job that does not exist
counts as a failure inside. -/
def wait [Sub τ] (o : Orchestrator τ β ρ) (n : Nat) (timeout : Option Float) (now : τ) :
    Except WaitFault (Completion τ ρ) × Orchestrator τ β ρ :=
  match o.job? n with
  | none => (.error (.computation .internal), o)
  | some j =>
    let seconds := timeout.getD o.settings.timeout
    if j.look.isNone && isBeyondClock seconds then (.error .beyondClock, o)
    else o.waitFor n j seconds now

/-- Give the job with this number up; was the work withdrawn? -/
def cancel (o : Orchestrator τ β ρ) (n : Nat) : Bool × Orchestrator τ β ρ :=
  match o.job? n with
  | none => (false, o)
  | some j =>
    let (j, withdrawn) := j.cancel
    (withdrawn, o.update n fun _ => j)

/-- The time spent on the job with this number. -/
def timing [Sub τ] (o : Orchestrator τ β ρ) (n : Nat) (now : τ) : List (String × τ) :=
  match o.job? n with
  | none => []
  | some j => j.handle.timing now

/-- Let the workers go, when they belong to this orchestrator: work in the queue is withdrawn, and
no more is accepted. -/
def shutdown (o : Orchestrator τ β ρ) : Orchestrator τ β ρ :=
  if o.ownsWorkers then { o with isOpen := false, jobs := o.jobs.map Job.withdraw } else o

/-! ### Workers -/

/-- A worker comes by for the job with this number; does it have work now?  There is none in a job
that does not exist. -/
def claim (o : Orchestrator τ β ρ) (n : Nat) : Except ClaimFault Bool × Orchestrator τ β ρ :=
  match o.job? n with
  | none => (.ok false, o)
  | some j =>
    if j.promise.isQueued then (.ok j.claim.promise.isRunning, o.update n Job.claim)
    else (.error ⟨⟩, o)

/-- A worker enters the computation and asks the engine; does the engine have to answer?  The work
may be dealt with while it is in the queue. -/
def beginAsking (o : Orchestrator τ β ρ) (n : Nat) (now : τ) : Bool × Orchestrator τ β ρ :=
  let o := o.update n fun j => (j.attend.enter now).inspect
  match (o.job? n).filter Job.isAsking with
  | some j => (true, { o with asked := o.asked ++ [j.input] })
  | none => (false, o)

/-- The worker delivers the engine's answer. -/
def conclude (o : Orchestrator τ β ρ) (n : Nat) (a : Answer ρ) : Orchestrator τ β ρ :=
  o.update n fun j => (j.answer a).deliver

/-- The worker delivers what it has without the engine. -/
def deliver (o : Orchestrator τ β ρ) (n : Nat) : Orchestrator τ β ρ := o.update n Job.deliver

/-- A worker deals with the job with this number from the beginning to the end. -/
def work (o : Orchestrator τ β ρ) (engine : β → Answer ρ) (n : Nat) (now : τ) :
    Orchestrator τ β ρ :=
  match o.claim n with
  | (.ok true, o) =>
    let (asked, o) := o.beginAsking n now
    match (o.job? n).filter fun _ => asked with
    | some j => o.conclude n (engine j.input)
    | none => o.deliver n
  | (_, o) => o

/-- Submit a computation and wait for it.  `staffed` tells whether a worker deals with it before
the deadline. -/
def run [Sub τ] (o : Orchestrator τ β ρ) (engine : β → Answer ρ) (staffed : Bool) (input : β)
    (timeout : Option Float) (submittedAt workedAt endedAt : τ) :
    Except ClosedFault (Except WaitFault (Completion τ ρ) × Orchestrator τ β ρ) := do
  let n := o.jobs.length
  let o ← o.submit input submittedAt
  let o := if staffed then o.work engine n workedAt else o
  return o.wait n timeout endedAt

end Orchestrator

end StudyPower
