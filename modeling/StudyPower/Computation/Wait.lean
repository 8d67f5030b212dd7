import StudyPower.Computation.Job

/-!
# Waiting for a computation

A caller that waits looks at the promise when it is kept or when the deadline passes.  If there is
nothing to see, the caller asks the computation to stop and withdraws the work, and in every case it
settles the stage.  These are separate steps, between which the worker and other callers may act.

## Main definitions

* `Finding ρ` — what a caller finds, with the stage that follows from it.
* `Job.look` — what there is to see.
* `Wait ρ`, `Wait.advance` — where a caller stands, and its next step.
* `Job.wait` — all steps of a caller with nobody acting in between.
* `isBeyondClock` — deadlines that no clock reaches.
* `WaitFault` — why a wait has no results.

## Main statements

* `Wait.advance_four` — four steps without interference are `Job.wait`.
-/

namespace StudyPower

/-- What a caller finds who waits for a computation. -/
inductive Finding (ρ : Type) where
  /-- Nothing before the deadline; was the work withdrawn? -/
  | timedOut (withdrawn : Bool)
  /-- The work was withdrawn, and no worker took it up. -/
  | neverRan
  /-- A failure. -/
  | failed (f : Failure)
  /-- The items of an answer. -/
  | succeeded (items : List ρ)

/-- The stage that follows from a finding. -/
def Finding.stage {ρ : Type} : Finding ρ → Stage
  | timedOut _ => .timedOut
  | neverRan | failed _ => .failed
  | succeeded _ => .completed

namespace Job

variable {τ β ρ : Type}

/-- What there is to see of a job.  Work that was withdrawn shows only after a worker has passed
over it. -/
def look (j : Job τ β ρ) : Option (Finding ρ) :=
  match j.promise with
  | .kept (.ok items) => some (.succeeded items)
  | .kept (.error f) => some (.failed f)
  | .dismissed => some .neverRan
  | .pending | .running | .withdrawn => none

/-- Wait until there is something to see or the deadline passes. -/
def wait (j : Job τ β ρ) (now : τ) : Finding ρ × Job τ β ρ :=
  match j.look with
  | some found => (found, j.settle found.stage now)
  | none =>
    let (j, withdrawn) := j.cancel
    (.timedOut withdrawn, j.settle .timedOut now)

end Job

/-- Where a caller stands who waits for a computation. -/
inductive Wait (ρ : Type) where
  /-- About to look. -/
  | looking
  /-- The deadline passed with nothing to see. -/
  | expired
  /-- The computation was asked to stop. -/
  | signalled
  /-- The finding is known and the stage is not settled. -/
  | settling (found : Finding ρ)
  /-- At the end. -/
  | ended (found : Finding ρ)

namespace Wait

variable {τ β ρ : Type}

/-- The next step of a caller. -/
def advance (now : τ) : Wait ρ × Job τ β ρ → Wait ρ × Job τ β ρ
  | (looking, j) =>
    match j.look with
    | some found => (settling found, j)
    | none => (expired, j)
  | (expired, j) => (signalled, j.requestCancel)
  | (signalled, j) => (settling (.timedOut j.withdraw.promise.isWithdrawn), j.withdraw)
  | (settling found, j) => (ended found, j.settle found.stage now)
  | (ended found, j) => (ended found, j)

/-- Four steps without interference are the whole wait. -/
theorem advance_four (now : τ) (j : Job τ β ρ) :
    advance now (advance now (advance now (advance now (looking, j)))) =
      (ended (j.wait now).1, (j.wait now).2) := by
  cases h : j.look <;> simp [advance, Job.wait, h, Job.cancel, Finding.stage]

end Wait

/-! ### Deadlines -/

/-- The clock counts nanoseconds in a signed word; is this number of seconds beyond its range?
An undefined number is not. -/
def isBeyondClock (seconds : Float) : Bool := 9223372036854775808.0 ≤ seconds * 1e9

/-- Why a wait has no results. -/
inductive WaitFault where
  /-- The deadline is beyond the range of the clock. -/
  | beyondClock
  /-- The computation has none. -/
  | computation (f : ComputationFault)
  /-- The message about a failure cannot be cut to the declared length. -/
  | unusable (f : Fault Float)

/-- The message for a caller. -/
def WaitFault.message : WaitFault → String
  | beyondClock => "timestamp too large to convert to C _PyTime_t"
  | computation f => f.message
  | unusable f => f.message

end StudyPower
