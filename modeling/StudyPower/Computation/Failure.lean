import StudyPower.Datum.Conversion
import StudyPower.Scalar.Double
import StudyPower.Vocabulary

/-!
# Failures of a computation

An engine may fail in many ways, and its caller learns only what concerns the caller: that the
request was refused, that it needs too much memory, or that something else went wrong.  Failures
come in families, some of which are part of others.

## Main definitions

* `FailureKind` — the families; `FailureKind.ancestors`, `FailureKind.isA` — which are part of which.
* `Failure` — what an engine failed with; `Failure.ofFault` — with a value that cannot be used.
* `ComputationFault` — what a caller learns; `ComputationFault.ofFailure` classifies.

## Main statements

* `FailureKind.isRefusal_iff_isA` — refusals are two families with all that is part of them.
* `ComputationFault.ofFailure_of_isRefusal`, `ofFailure_of_outOfMemory`, `ofFailure_of_other` — the
  three classes.
-/

namespace StudyPower

/-- The families of failures. -/
inductive FailureKind where
  /-- The design is invalid. -/
  | invalidDesign
  /-- A matrix has the wrong shape. -/
  | wrongShape
  /-- The request is too large. -/
  | tooLarge
  /-- The engine refused its numeric input. -/
  | refusedInput
  /-- There is not enough memory. -/
  | outOfMemory
  /-- A failure of the study library of no special family. -/
  | general
  /-- A computation failed. -/
  | computation
  /-- A deadline passed. -/
  | deadline
  /-- A computation was refused. -/
  | badInput
  /-- A computation failed inside. -/
  | internal
  /-- A division by zero. -/
  | arithmetic
  /-- A failure at run time. -/
  | runtime
  /-- A value cannot be used. -/
  | value
  /-- A value is of the wrong kind. -/
  | type
  /-- A position does not exist. -/
  | index
  /-- A number is out of range. -/
  | overflow
  /-- The process was asked to end. -/
  | exit
  deriving DecidableEq, Repr

instance : Term FailureKind where
  kindName := "Failure"
  all := [.invalidDesign, .wrongShape, .tooLarge, .refusedInput, .outOfMemory, .general,
    .computation, .deadline, .badInput, .internal, .arithmetic, .runtime, .value, .type, .index,
    .overflow, .exit]
  word
    | .invalidDesign => "ValidationError"
    | .wrongShape => "DimensionError"
    | .tooLarge => "CaseLimitError"
    | .refusedInput => "EngineValidationError"
    | .outOfMemory => "MemoryError"
    | .general => "PyGLMMPowerError"
    | .computation => "ComputationError"
    | .deadline => "ComputationTimeout"
    | .badInput => "BadInputError"
    | .internal => "InternalComputationError"
    | .arithmetic => "ZeroDivisionError"
    | .runtime => "RuntimeError"
    | .value => "ValueError"
    | .type => "TypeError"
    | .index => "IndexError"
    | .overflow => "OverflowError"
    | .exit => "SystemExit"

namespace FailureKind

/-- The families of the study library that a family is part of, nearest first. -/
def ancestors : FailureKind → List FailureKind
  | invalidDesign | refusedInput | computation => [general]
  | wrongShape | tooLarge => [invalidDesign, general]
  | deadline | badInput | internal => [computation, general]
  | _ => []

/-- Is every failure of this family one of the other? -/
def isA (kind other : FailureKind) : Bool := kind = other || kind.ancestors.contains other

/-- Does the failure refuse the request? -/
def isRefusal : FailureKind → Bool
  | invalidDesign | wrongShape | tooLarge | refusedInput => true
  | _ => false

/-- Did the caller cause a computation to fail in this way? -/
def isClientError : FailureKind → Bool
  | deadline | badInput => true
  | _ => false

/-- A request is refused by an invalid design and by input that an engine refuses, in every form. -/
theorem isRefusal_iff_isA (kind : FailureKind) : kind.isRefusal = true ↔
    kind.isA .invalidDesign = true ∨ kind.isA .refusedInput = true := by
  cases kind <;> decide

end FailureKind

/-- The family of a failure that is a fault of this kind. -/
def Fault.Kind.failureKind : Fault.Kind → FailureKind
  | validation => .invalidDesign
  | dimension => .wrongShape
  | size => .tooLarge
  | value => .value
  | type => .type
  | index => .index
  | overflow => .overflow
  | storage => .outOfMemory

/-- What an engine failed with. -/
structure Failure where
  /-- The family. -/
  kind : FailureKind
  /-- The message. -/
  message : String
  deriving DecidableEq, Repr

/-- An engine fails with a fault of what it worked with. -/
def Failure.ofFault (f : Fault Float) : Failure := ⟨f.kind.failureKind, f.message⟩

/-- A fault refuses the request exactly if it says that the design is invalid. -/
theorem Failure.isRefusal_ofFault (f : Fault Float) :
    (ofFault f).kind.isRefusal = f.isInvalidDesign := by
  unfold ofFault Fault.isInvalidDesign
  cases f.kind <;> rfl

/-- What an engine answers: its items, or a failure. -/
abbrev Answer (ρ : Type) : Type := Except Failure (List ρ)

/-- What a caller learns about a computation without results. -/
inductive ComputationFault where
  /-- The deadline passed; `withdrawn` tells that the work had not begun and never will. -/
  | timedOut (seconds : Float) (withdrawn : Bool)
  /-- The engine refused the request, or it needs too much memory. -/
  | badInput (message : String)
  /-- Anything else. -/
  | internal

namespace ComputationFault

/-- The message of a request that needs too much memory. -/
def memoryMessage : String := "Insufficient memory to process this study design"

/-- The message for a caller. -/
def message : ComputationFault → String
  | timedOut _ _ => "Request timed out during computation"
  | badInput message => message
  | internal => "Exception during computation"

/-- The family that a caller sees. -/
def kind : ComputationFault → FailureKind
  | timedOut _ _ => .deadline
  | badInput _ => .badInput
  | internal => .internal

/-- Did the caller cause it? -/
def isClientError : ComputationFault → Bool
  | timedOut _ _ | badInput _ => true
  | internal => false

theorem isClientError_eq (f : ComputationFault) : f.isClientError = f.kind.isClientError := by
  cases f <;> rfl

/-- Whatever a caller learns is that a computation failed. -/
theorem isA_computation (f : ComputationFault) : f.kind.isA .computation = true := by
  cases f <;> rfl

/-- What a caller learns about a failure, with messages cut to a declared length. -/
def ofFailure (maxMessageLength : Datum Float) (f : Failure) :
    Except (Fault Float) ComputationFault :=
  if f.kind.isRefusal then .badInput <$> Datum.clip f.message maxMessageLength
  else if f.kind = .outOfMemory then .ok (.badInput memoryMessage)
  else .ok .internal

theorem ofFailure_of_isRefusal (n : Int) {f : Failure} (h : f.kind.isRefusal = true) :
    ofFailure (.int n) f = .ok (.badInput (Text.clip f.message n)) := by
  simp [ofFailure, h, Datum.clip, Datum.int?, Functor.map, Except.map]

theorem ofFailure_of_outOfMemory (n : Datum Float) {f : Failure} (h : f.kind = .outOfMemory) :
    ofFailure n f = .ok (.badInput memoryMessage) := by
  simp [ofFailure, h, FailureKind.isRefusal]

theorem ofFailure_of_other (n : Datum Float) {f : Failure} (h : f.kind.isRefusal = false)
    (hm : f.kind ≠ .outOfMemory) : ofFailure n f = .ok .internal := by
  simp [ofFailure, h, hm]

end ComputationFault

end StudyPower
