import StudyPower.Computation.Failure
import StudyPower.Computation.Handle

/-!
# Jobs

A job is one submitted computation: its input, the handle that callers see, the promise that its
worker keeps, and how far the worker has got.  Workers and callers act on it independently, so every
action is one of a few steps that happen at once; what a worker or a caller does is a sequence of
them between which others may act.

## Main definitions

* `Promise ρ` — what becomes of the work: taken up at most once, and never after its withdrawal.
* `Worker ρ` — how far the worker has got.
* `Job τ β ρ` — the job.
* `ClaimFault` — a worker came by for work that is no longer in the queue.
* `attend` — work that is dealt with out of the queue.
* `claim`, `enter`, `inspect`, `answer`, `deliver` — the steps of a worker.
* `requestCancel`, `withdraw`, `settle` — the steps of callers.
-/

namespace StudyPower

/-- What becomes of submitted work. -/
inductive Promise (ρ : Type) where
  /-- In the queue. -/
  | pending
  /-- With a worker. -/
  | running
  /-- Withdrawn from the queue. -/
  | withdrawn
  /-- Withdrawn, and a worker has passed over it. -/
  | dismissed
  /-- Done. -/
  | kept (answer : Answer ρ)

namespace Promise

variable {ρ : Type}

/-- Was the work withdrawn? -/
def isWithdrawn : Promise ρ → Bool
  | withdrawn | dismissed => true
  | _ => false

/-- Is the work with a worker? -/
def isRunning : Promise ρ → Bool
  | running => true
  | _ => false

/-- Is nothing left to do? -/
def isDone : Promise ρ → Bool
  | withdrawn | dismissed | kept _ => true
  | pending | running => false

/-- Is the work in the queue, where a worker comes by for it? -/
def isQueued : Promise ρ → Bool
  | pending | withdrawn => true
  | running | dismissed | kept _ => false

/-- The promise after an attempt to withdraw the work. -/
def withdraw : Promise ρ → Promise ρ
  | pending => withdrawn
  | p => p

end Promise

/-- How far the worker of a job has got. -/
inductive Worker (ρ : Type) where
  /-- There is none yet. -/
  | absent
  /-- It has taken the work up. -/
  | holding
  /-- It has entered the computation. -/
  | entered
  /-- It has asked the engine. -/
  | asking
  /-- It knows the answer. -/
  | answered (answer : Answer ρ)
  /-- It has delivered the answer. -/
  | gone

/-- A worker came by for work that is no longer in the queue. -/
structure ClaimFault where
  deriving DecidableEq, Repr

/-- The message about such a worker. -/
def ClaimFault.message (_ : ClaimFault) : String := "Future in unexpected state"

/-- One submitted computation. -/
structure Job (τ β ρ : Type) where
  /-- The input of the engine. -/
  input : β
  /-- What callers see. -/
  handle : Handle τ
  /-- What becomes of the work. -/
  promise : Promise ρ := .pending
  /-- How far the worker has got. -/
  worker : Worker ρ := .absent

namespace Job

variable {τ β ρ : Type}

/-- A job that was just submitted. -/
def submitted (input : β) (now : τ) : Job τ β ρ := { input, handle := { submittedAt := now } }

/-! ### Steps of a worker -/

/-- There is a worker, even if the work is still in the queue.  A worker that is there stays where
it is. -/
def attend (j : Job τ β ρ) : Job τ β ρ :=
  match j.worker with
  | .absent => { j with worker := .holding }
  | _ => j

/-- A worker takes the work up, or passes over it when it was withdrawn. -/
def claim (j : Job τ β ρ) : Job τ β ρ :=
  match j.promise with
  | .pending => { j.attend with promise := .running }
  | .withdrawn => { j with promise := .dismissed }
  | _ => j

/-- The worker enters the computation; one that was given up has no items. -/
def enter (j : Job τ β ρ) (now : τ) : Job τ β ρ :=
  match j.worker with
  | .holding =>
    match j.handle.start? now with
    | some handle => { j with handle, worker := .entered }
    | none => { j with worker := .answered (.ok []) }
  | _ => j

/-- The worker asks the engine, unless it was asked to stop. -/
def inspect (j : Job τ β ρ) : Job τ β ρ :=
  match j.worker with
  | .entered =>
    { j with worker := if j.handle.cancelRequested then .answered (.ok []) else .asking }
  | _ => j

/-- Has the worker asked the engine? -/
def isAsking (j : Job τ β ρ) : Bool :=
  match j.worker with
  | .asking => true
  | _ => false

/-- The engine answers. -/
def answer (j : Job τ β ρ) (a : Answer ρ) : Job τ β ρ :=
  match j.worker with
  | .asking => { j with worker := .answered a }
  | _ => j

/-- The worker delivers the answer. -/
def deliver (j : Job τ β ρ) : Job τ β ρ :=
  match j.worker with
  | .answered a => { j with promise := .kept a, worker := .gone }
  | _ => j

/-! ### Steps of callers -/

/-- Ask the computation to stop. -/
def requestCancel (j : Job τ β ρ) : Job τ β ρ := { j with handle := j.handle.requestCancel }

/-- Withdraw the work, which succeeds while no worker has taken it up. -/
def withdraw (j : Job τ β ρ) : Job τ β ρ := { j with promise := j.promise.withdraw }

/-- Settle the stage, unless it is final. -/
def settle (j : Job τ β ρ) (stage : Stage) (now : τ) : Job τ β ρ :=
  { j with handle := j.handle.settle stage now }

/-- Give the job up: ask it to stop and withdraw the work.  The job and whether the work was
withdrawn. -/
def cancel (j : Job τ β ρ) : Job τ β ρ × Bool :=
  let j := j.requestCancel.withdraw
  (j, j.promise.isWithdrawn)

end Job

end StudyPower
