import StudyPower.Fault

/-!
# Forms

A record of some kind is filled in by naming its fields.  A form says which fields its kind has and
which of them have no standard value; a record that names another field, or leaves one of those out,
is no record of that kind.

## Main definitions

* `Form` — the fields of a kind of record.
* `Form.unknown?`, `Form.missing` — what is wrong with the names in a record.
* `Form.check`, `Datum.checkForm` — refuse a record that does not fit its form.

## Main statements

* `Form.check_eq_ok_iff` — **a record fits exactly if its names are fields, and the required ones
  are among them.**
* `Form.kind_of_check_eq_error` — one that does not fit is a value of the wrong kind.
-/

namespace StudyPower

variable {α : Type}

/-- The fields of a kind of record. -/
structure Form where
  /-- The name of the kind. -/
  owner : String
  /-- The fields without a standard value, in order. -/
  required : List String := []
  /-- The fields with one. -/
  optional : List String := []

namespace Form

variable {form : Form} {names : List String}

/-- Is there a field of this name? -/
def knows (form : Form) (name : String) : Bool :=
  form.required.contains name || form.optional.contains name

/-- The first of these names that is no field. -/
def unknown? (form : Form) (names : List String) : Option String :=
  names.find? fun name => !form.knows name

/-- The required fields that are not among these names. -/
def missing (form : Form) (names : List String) : List String :=
  form.required.filter fun name => !names.contains name

/-- The names in a record must be fields, and the required fields among them. -/
def check (form : Form) (names : List String) : Except (Fault α) Unit :=
  match form.unknown? names, form.missing names with
  | some name, _ => .error (.unknownField form.owner name)
  | none, [] => .ok ()
  | none, missing => .error (.missingFields form.owner missing)

theorem knows_iff {name : String} :
    form.knows name = true ↔ name ∈ form.required ∨ name ∈ form.optional := by
  simp [knows]

theorem unknown?_eq_none_iff :
    form.unknown? names = none ↔ ∀ name ∈ names, name ∈ form.required ∨ name ∈ form.optional := by
  simp only [unknown?, List.find?_eq_none, Bool.not_eq_true, Bool.not_eq_false', knows_iff]

theorem missing_eq_nil_iff : form.missing names = [] ↔ ∀ name ∈ form.required, name ∈ names := by
  simp [missing]

/-- **A record fits its form exactly if its names are fields and the required fields are among
them.** -/
theorem check_eq_ok_iff : (form.check names : Except (Fault α) Unit) = .ok () ↔
    (∀ name ∈ names, name ∈ form.required ∨ name ∈ form.optional) ∧
      ∀ name ∈ form.required, name ∈ names := by
  rw [← unknown?_eq_none_iff, ← missing_eq_nil_iff]
  unfold check
  cases form.unknown? names with
  | some name => simp
  | none => cases form.missing names <;> simp

/-- A record that does not fit its form is a value of the wrong kind. -/
theorem kind_of_check_eq_error {f : Fault α} (h : form.check names = .error f) : f.kind = .type := by
  unfold check at h
  cases hunknown : form.unknown? names with
  | some name =>
    rw [hunknown] at h
    cases h
    rfl
  | none =>
    rw [hunknown] at h
    cases hmissing : form.missing names with
    | nil =>
      rw [hmissing] at h
      cases h
    | cons name rest =>
      rw [hmissing] at h
      cases h
      rfl

end Form

/-- A record must fit its form. -/
def Datum.checkForm (form : Form) (d : Datum α) : Except (Fault α) Unit :=
  form.check (d.fields.map Prod.fst)

end StudyPower
