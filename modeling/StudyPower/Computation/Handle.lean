import StudyPower.Vocabulary

/-!
# Handles

A caller follows a computation through its handle.  The stage of a computation moves from submitted
to running to one of three final stages; one that is given up while it waits in the queue skips
running.  A final stage never changes.

## Main definitions

* `Stage` — the stages.
* `Handle τ` — the stage with the clock readings at its changes.
* `Handle.start?`, `Handle.settle` — the two changes of stage.
* `Handle.timing` — the time spent waiting and computing.
-/

namespace StudyPower

/-- The stages of a computation. -/
inductive Stage where
  /-- Waiting for a worker. -/
  | submitted
  /-- With a worker. -/
  | running
  /-- Its caller has the results. -/
  | completed
  /-- Its caller stopped waiting. -/
  | timedOut
  /-- Its caller knows that it failed. -/
  | failed
  deriving DecidableEq, Repr, Inhabited

instance : Term Stage where
  kindName := "Stage"
  all := [.submitted, .running, .completed, .timedOut, .failed]
  word
    | .submitted => "SUBMITTED"
    | .running => "RUNNING"
    | .completed => "COMPLETED"
    | .timedOut => "TIMED_OUT"
    | .failed => "FAILED"

/-- Is the stage final? -/
def Stage.isFinal : Stage → Bool
  | completed | timedOut | failed => true
  | submitted | running => false

/-- A caller's view of one computation, with clock readings of type `τ`. -/
structure Handle (τ : Type) where
  /-- The reading at submission. -/
  submittedAt : τ
  /-- The stage. -/
  stage : Stage := .submitted
  /-- Has a caller asked to stop? -/
  cancelRequested : Bool := false
  /-- The reading when a worker began. -/
  startedAt : Option τ := none
  /-- The reading when a final stage was reached. -/
  finishedAt : Option τ := none

namespace Handle

variable {τ : Type}

/-- From submitted to running; nothing when the computation was given up before. -/
def start? (h : Handle τ) (now : τ) : Option (Handle τ) :=
  if h.stage = .submitted then some { h with stage := .running, startedAt := some now } else none

/-- To a stage, unless a final one was reached before. -/
def settle (h : Handle τ) (stage : Stage) (now : τ) : Handle τ :=
  if h.stage.isFinal then h else { h with stage := stage, finishedAt := some now }

/-- Ask to stop. -/
def requestCancel (h : Handle τ) : Handle τ := { h with cancelRequested := true }

/-- The time in total, in the queue and with a worker, up to the final stage or to now. -/
def timing [Sub τ] (h : Handle τ) (now : τ) : List (String × τ) :=
  let ended := h.finishedAt.getD now
  let total := ("total_seconds", ended - h.submittedAt)
  match h.startedAt with
  | some began => [total, ("queued", began - h.submittedAt), ("compute", ended - began)]
  | none => [total, ("queued", ended - h.submittedAt)]

/-- The handle in one line. -/
def headline (h : Handle τ) : String := "ComputationHandle(state=" ++ Term.word h.stage ++ ")"

end Handle

end StudyPower
