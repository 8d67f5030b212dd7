/-!
# Stopwatches

A stopwatch measures a total between a start and a stop and adds up durations under names.  It does
not read a clock: every operation is given the readings it needs.

## Main definitions

* `Stopwatch τ` — the state, for durations of type `τ`.
* `start`, `stop`, `record`, `timeSection` — the operations.
* `result` — the total and the sums by name, in order of first use.
-/

namespace StudyPower

/-- What a stopwatch knows. -/
structure Stopwatch (τ : Type) where
  /-- The sum of durations under each name, in order of first use. -/
  sums : List (String × τ) := []
  /-- The reading at the latest start. -/
  startedAt : Option τ := none
  /-- The time from a start to the latest stop. -/
  total : Option τ := none

/-- What can be wrong with the use of a stopwatch. -/
inductive StopwatchFault where
  /-- A stop without a start. -/
  | stoppedBeforeStart
  /-- A result without a stop. -/
  | readBeforeStop
  deriving DecidableEq, Repr

/-- The message for the wrong use of a stopwatch. -/
def StopwatchFault.message : StopwatchFault → String
  | stoppedBeforeStart => "Timer.stop() called before start()"
  | readBeforeStop => "Timer.result() called before stop()"

namespace Stopwatch

variable {τ : Type}

/-- The name of the total. -/
def totalName : String := "total_seconds"

/-- Start measuring the total. -/
def start (w : Stopwatch τ) (now : τ) : Stopwatch τ := { w with startedAt := some now }

/-- Take the total since the latest start. -/
def stop [Sub τ] (w : Stopwatch τ) (now : τ) : Except StopwatchFault (Stopwatch τ) :=
  match w.startedAt with
  | none => .error .stoppedBeforeStart
  | some began => .ok { w with total := some (now - began) }

/-- The sums with a duration added under a name; a new name comes last. -/
def addTo [Zero τ] [Add τ] (name : String) (duration : τ) :
    List (String × τ) → List (String × τ)
  | [] => [(name, 0 + duration)]
  | (other, sum) :: rest =>
    if other = name then (other, sum + duration) :: rest
    else (other, sum) :: addTo name duration rest

/-- Add a duration under a name. -/
def record [Zero τ] [Add τ] (w : Stopwatch τ) (name : String) (duration : τ) : Stopwatch τ :=
  { w with sums := addTo name duration w.sums }

/-- Add the time between two readings under a name. -/
def timeSection [Zero τ] [Add τ] [Sub τ] (w : Stopwatch τ) (name : String) (began ended : τ) :
    Stopwatch τ :=
  w.record name (ended - began)

/-- The total and the sums by name, in order of first use.  A sum under the name of the total
stands in its place. -/
def result (w : Stopwatch τ) : Except StopwatchFault (List (String × τ)) :=
  match w.total with
  | none => .error .readBeforeStop
  | some total =>
    .ok ((totalName, (w.sums.lookup totalName).getD total) ::
      w.sums.filter fun entry => entry.1 ≠ totalName)

end Stopwatch

end StudyPower
