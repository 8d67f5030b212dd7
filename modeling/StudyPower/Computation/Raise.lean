import StudyPower.Computation.Failure
import StudyPower.Datum.Form

/-!
# Errors of the library

The library's own failures are raised with a message and with details that a program can read.  Each
family takes its arguments by name, the message also by itself; some arguments have a standard
value, and a family may take the arguments of another one.

## Main definitions

* `Signature`, `FailureKind.signature?` — the arguments of a family.
* `Signature.form` — their names, as a form.
* `Raised`, `FailureKind.raise` — an error, and raising one.

## Main statements

* `FailureKind.exists_raise_iff` — **an error is raised exactly if its arguments fit.**
* `ComputationFault.raise_message` — what a caller learns is raised with its standard message.
-/

namespace StudyPower

/-- The arguments of a family of errors. -/
structure Signature where
  /-- The family that takes them. -/
  owner : FailureKind
  /-- The name of the message. -/
  messageName : String
  /-- The message when none is given; without it, one must be given. -/
  standardMessage : Option String := none
  /-- The details by name, each with its value when none is given. -/
  details : List (String × Option (Datum Float)) := []

namespace Signature

/-- The arguments by name, and whether one must be given. -/
def arguments (s : Signature) : List (String × Bool) :=
  (s.messageName, s.standardMessage.isNone) ::
    s.details.map fun (name, standard) => (name, standard.isNone)

/-- The names of the arguments. -/
def form (s : Signature) : Form where
  owner := Term.word s.owner
  required := (s.arguments.filter fun a => a.2).map Prod.fst
  optional := (s.arguments.filter fun a => !a.2).map Prod.fst

/-- Every argument is a field of the form, and the required ones have no standard value. -/
theorem knows_form_iff {s : Signature} {name : String} :
    s.form.knows name = true ↔ name ∈ s.arguments.map Prod.fst := by
  rw [Form.knows_iff]
  simp only [form, List.mem_map, List.mem_filter]
  constructor
  · rintro (⟨a, ⟨ha, -⟩, rfl⟩ | ⟨a, ⟨ha, -⟩, rfl⟩)
    · exact ⟨a, ha, rfl⟩
    · exact ⟨a, ha, rfl⟩
  · rintro ⟨a, ha, rfl⟩
    cases hrequired : a.2 with
    | true => exact .inl ⟨a, ⟨ha, hrequired⟩, rfl⟩
    | false => exact .inr ⟨a, ⟨ha, by rw [hrequired]; rfl⟩, rfl⟩

end Signature

namespace FailureKind

/-- The arguments of a family; the families without an entry take a message only. -/
def signature? : FailureKind → Option Signature
  | wrongShape => some {
      owner := .wrongShape
      messageName := "message"
      details := [("matrix_name", some .null), ("expected", some .null), ("actual", some .null)] }
  | tooLarge => some {
      owner := .tooLarge
      messageName := "message"
      details := [("limit", none), ("actual", none), ("breakdown", some (.list []))] }
  | refusedInput => some {
      owner := .refusedInput
      messageName := "message"
      details := [("error_code", some .null)] }
  | computation | badInput => some { owner := .computation, messageName := "client_message" }
  | deadline => some {
      owner := .deadline
      messageName := "client_message"
      standardMessage := (ComputationFault.timedOut 0 false).message
      details := [("timeout_seconds", some .null), ("cancelled", some (.bool false))] }
  | internal => some {
      owner := .internal
      messageName := "client_message"
      standardMessage := ComputationFault.internal.message }
  | _ => none

end FailureKind

/-- An error that was raised. -/
structure Raised where
  /-- The family. -/
  kind : FailureKind
  /-- The message. -/
  message : String
  /-- The details by name. -/
  details : List (String × Datum Float)

/-- The values of details that are given by name, or their standard values. -/
def Signature.fill (s : Signature) (given : List (String × Datum Float)) :
    List (String × Datum Float) :=
  s.details.map fun (name, standard) => (name, (given.lookup name).getD (standard.getD .null))

/-- The names of the arguments that are given; a message by itself is under its name. -/
def Signature.givenNames (s : Signature) (message : Option String)
    (given : List (String × Datum Float)) : List String :=
  (message.map fun _ => s.messageName).toList ++ given.map Prod.fst

/-- Raise an error with a message by itself, if any, and arguments by name. -/
def FailureKind.raise (kind : FailureKind) (message : Option String)
    (given : List (String × Datum Float)) : Except (Fault Float) Raised :=
  match kind.signature? with
  | none => .ok ⟨kind, message.getD "", []⟩
  | some s => do
    s.form.check (s.givenNames message given)
    let named := (given.lookup s.messageName).bind Datum.text?
    let text := (message.or (named.or s.standardMessage)).getD ""
    return ⟨kind, text, s.fill given⟩

/-- **An error is raised exactly if its arguments fit**: each is one that its family takes, and those
without a standard value are given. -/
theorem FailureKind.exists_raise_iff {kind : FailureKind} {message : Option String}
    {given : List (String × Datum Float)} :
    (∃ r, kind.raise message given = .ok r) ↔ ∀ s, kind.signature? = some s →
      (∀ name ∈ s.givenNames message given, name ∈ s.arguments.map Prod.fst) ∧
        ∀ a ∈ s.arguments, a.2 = true → a.1 ∈ s.givenNames message given := by
  unfold raise
  cases hs : kind.signature? with
  | none => exact iff_of_true ⟨_, rfl⟩ nofun
  | some s =>
    have hfits : (s.form.check (s.givenNames message given) : Except (Fault Float) Unit) = .ok () ↔
        (∀ name ∈ s.givenNames message given, name ∈ s.arguments.map Prod.fst) ∧
          ∀ a ∈ s.arguments, a.2 = true → a.1 ∈ s.givenNames message given := by
      rw [Form.check_eq_ok_iff]
      simp only [← Form.knows_iff, Signature.knows_form_iff]
      simp [Signature.form]
    simp only [Option.some.injEq, forall_eq']
    rw [← hfits]
    cases (s.form.check (s.givenNames message given) : Except (Fault Float) Unit) with
    | ok _ => exact iff_of_true ⟨_, rfl⟩ rfl
    | error f => exact iff_of_false nofun nofun

/-- What a caller learns about a computation without results is raised with its own message: that of
a refusal is given, the others are standard. -/
theorem ComputationFault.raise_message (f : ComputationFault) :
    ∃ r, f.kind.raise (match f with | .badInput text => some text | _ => none) [] = .ok r ∧
      r.message = f.message := by
  cases f <;> exact ⟨_, rfl, rfl⟩

end StudyPower
