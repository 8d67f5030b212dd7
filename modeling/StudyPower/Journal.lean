import StudyPower.Fault

/-!
# Journals

Assembling a study leaves notes: which design was refused and why, and the shape of each matrix on
the way.  A journal is the outcome of a computation together with the notes it left, which are kept
when it fails.

## Main definitions

* `Note α` — the notes; `Note.level` and `Note.text`.
* `Journal α β` — a computation's notes and its outcome.
* `Journal.note` — leave a note.

## Main statements

* `Journal.outcome_bind` — the outcome of a sequence does not depend on the notes.
-/

namespace StudyPower

/-- How important a note is. -/
inductive Level where
  /-- Of use to a developer. -/
  | debug
  /-- Of use to an operator. -/
  | info
  /-- A request failed by its caller's fault or by time. -/
  | warning
  /-- A request failed. -/
  | error
  deriving DecidableEq, Repr

/-- The word for a level. -/
def Level.word : Level → String
  | .debug => "DEBUG"
  | .info => "INFO"
  | .warning => "WARNING"
  | .error => "ERROR"

/-- A note left while a study is assembled. -/
inductive Note (α : Type) where
  /-- A design was refused. -/
  | refused (fault : Fault α)
  /-- A matrix was built, or there is none. -/
  | built (label : String) (shape : Option (Nat × Nat))
  /-- A declared correlation matrix is missing or of the wrong size. -/
  | unusableCorrelation (name : String)
  /-- A decaying correlation lacks its base or its decay. -/
  | incompleteDecay (name : String)
  /-- A covariance is not of the expected size. -/
  | unexpectedSize (name : String) (size : Int)

namespace Note

variable {α : Type}

/-- The importance of a note. -/
def level : Note α → Level
  | refused _ => .info
  | _ => .debug

/-- The text of a note. -/
def text [Scalar α] : Note α → String
  | refused fault => "Rejected study design: " ++ fault.message
  | built label none => label ++ ": None"
  | built label (some (rows, cols)) => label ++ " (" ++ Fault.timesText rows cols ++ "):"
  | unusableCorrelation name =>
    "covariance " ++ Text.quoted name ++ ": correlation matrix missing or mis-sized"
  | incompleteDecay name => "covariance " ++ Text.quoted name ++ ": LEAR needs rho and delta"
  | unexpectedSize name size =>
    "covariance " ++ Text.quoted name ++ ": expected " ++ toString size ++ " x " ++ toString size

end Note

/-- The notes of a computation, first to last, and its outcome. -/
structure Journal (α β : Type) where
  /-- The notes. -/
  notes : List (Note α)
  /-- The result, or the fault that ended the computation. -/
  outcome : Except (Fault α) β

namespace Journal

variable {α β γ : Type}

/-- A result without notes. -/
protected def pure (b : β) : Journal α β := ⟨[], .ok b⟩

/-- One computation after another; the second does not run when the first fails. -/
protected def bind (j : Journal α β) (f : β → Journal α γ) : Journal α γ :=
  match j.outcome with
  | .error e => ⟨j.notes, .error e⟩
  | .ok b => ⟨j.notes ++ (f b).notes, (f b).outcome⟩

instance : Monad (Journal α) where
  pure := Journal.pure
  bind := Journal.bind

/-- A computation without notes. -/
def ofExcept (x : Except (Fault α) β) : Journal α β := ⟨[], x⟩

instance : MonadLift (Except (Fault α)) (Journal α) := ⟨ofExcept⟩

/-- End the computation. -/
def fail (f : Fault α) : Journal α β := ⟨[], .error f⟩

/-- Leave a note. -/
def note (n : Note α) : Journal α Unit := ⟨[n], .ok ()⟩

/-- Leave a note about a matrix. -/
def noteMat (label : String) (m : Option (Mat α)) : Journal α Unit :=
  note (.built label (m.map Mat.shape))

/-- Leave a note about the fault, when there is one. -/
def onFault (j : Journal α β) (describe : Fault α → Note α) : Journal α β :=
  match j.outcome with
  | .error e => ⟨j.notes ++ [describe e], .error e⟩
  | .ok b => ⟨j.notes, .ok b⟩

@[simp] theorem outcome_pure (b : β) : (pure b : Journal α β).outcome = .ok b := rfl

@[simp] theorem outcome_bind (j : Journal α β) (f : β → Journal α γ) :
    (j >>= f).outcome = j.outcome >>= fun b => (f b).outcome := by
  cases h : j.outcome <;> simp [bind, Journal.bind, h, Except.bind]

@[simp] theorem outcome_ofExcept (x : Except (Fault α) β) : (ofExcept x).outcome = x := rfl

@[simp] theorem outcome_monadLift (x : Except (Fault α) β) :
    (monadLift x : Journal α β).outcome = x := rfl

@[simp] theorem outcome_fail (f : Fault α) : (fail f : Journal α β).outcome = .error f := rfl

@[simp] theorem outcome_note (n : Note α) : (note n).outcome = .ok () := rfl

@[simp] theorem outcome_noteMat (label : String) (m : Option (Mat α)) :
    (noteMat label m).outcome = .ok () := rfl

@[simp] theorem outcome_onFault (j : Journal α β) (describe : Fault α → Note α) :
    (j.onFault describe).outcome = j.outcome := by
  cases h : j.outcome <;> simp [onFault, h]

end Journal

end StudyPower
