import StudyPower.Datum.Form
import StudyPower.Design.Parts
import StudyPower.Outcome

/-!
# Declared sweep outcomes

The records of a sweep, declared as records with one field for each number.  The fields are checked
in the order in which they are declared, so the first unusable one is the fault; after them the
record is held against the form of its kind.

## Main definitions

* `EngineInterval.form`, `PowerInterval.form`, `recordForm` — the fields of each kind of record.
* `checkRecordField`, `checkRecord` — can a field be used, and can the record?
* `EngineInterval.ofDatum`, `EngineRecord.ofDatum` — what an engine reports.
* `PowerInterval.ofDatum`, `PowerRecord.ofDatum` — what a caller sees.
* `EngineRecord.toDatum`, `EngineItem.toDatum`, `PowerRecord.toDatum` — the records.
-/

namespace StudyPower

variable {α : Type}

/-- What a field declares, when it holds a record. -/
def Datum.recordAt? {β : Type} (name : String) (read : Datum α → β) (d : Datum α) : Option β :=
  match d.get name with
  | .record fields => some (read (.record fields))
  | _ => none

/-- A real number, null when there is none. -/
def Datum.ofReal? (x : Option α) : Datum α := (x.map .real).getD .null

/-! ### Reading -/

section

variable [Scalar α]

/-- The fields that hold a real number. -/
def realFields : List String := [
  "alpha", "nominal_power", "actual_power", "beta_scale", "sigma_scale", "quantile"]

/-- The fields of an interval of an engine. -/
def EngineInterval.form : Form where
  owner := "EngineConfidenceInterval"
  required := ["lower_limit", "upper_limit", "alpha_lower", "alpha_upper"]

/-- The fields of an interval. -/
def PowerInterval.form : Form where
  owner := "ConfidenceInterval"
  required := ["lower_limit", "upper_limit", "lower_tail_probability", "upper_tail_probability"]

/-- The fields of a record of this kind. -/
def recordForm (owner : String) : Form where
  owner := owner
  required := ["test", "alpha", "nominal_power", "actual_power", "total_sample_size", "beta_scale",
    "sigma_scale", "power_method"]
  optional := ["quantile", "confidence_interval", "error_message"]

/-- Can an interval be used? -/
def checkInterval (form : Form) : Datum α → Except (Fault α) Unit
  | .record fields => do
    fields.forM fun (_, x) => discard x.widen
    (Datum.record fields).checkForm form
  | _ => .ok ()

/-- Can a field of a record be used?  The form is that of its interval. -/
def checkRecordField (intervalForm : Form) (name : String) (d : Datum α) :
    Except (Fault α) Unit := do
  if name = "test" then discard <| d.toTerm StatisticalTest
  else if name = "power_method" then discard <| d.toTerm PowerMethod
  else if realFields.contains name then discard d.widen
  else if name = "confidence_interval" then checkInterval intervalForm d

/-- Can a record of this kind be used? -/
def checkRecord (owner : String) (intervalForm : Form) (d : Datum α) :
    Except (Fault α) Unit := do
  d.fields.forM fun (name, x) => checkRecordField intervalForm name x
  d.checkForm (recordForm owner)

/-- A declared interval of an engine. -/
def EngineInterval.ofDatum (d : Datum α) : EngineInterval α :=
  ⟨d.realAt "lower_limit", d.realAt "upper_limit", d.realAt "alpha_lower", d.realAt "alpha_upper"⟩

/-- A declared interval. -/
def PowerInterval.ofDatum (d : Datum α) : PowerInterval α :=
  ⟨d.realAt "lower_limit", d.realAt "upper_limit", d.realAt "lower_tail_probability",
    d.realAt "upper_tail_probability"⟩

/-- What a record of an engine declares, its quantile undefined when it is absent. -/
def EngineRecord.read (d : Datum α) : Except (Fault α) (EngineRecord α) := do
  let test ← (d.get "test").toTerm StatisticalTest
  let method ← (d.get "power_method").toTerm PowerMethod
  return {
    test, method
    alpha := d.realAt "alpha"
    nominalPower := d.realAt "nominal_power"
    actualPower := d.realAt "actual_power"
    totalSampleSize := d.intAt "total_sample_size"
    betaScale := d.realAt "beta_scale"
    sigmaScale := d.realAt "sigma_scale"
    quantile := match d.field? "quantile" with
      | none => some (Scalar.ofNumeral .undefined)
      | some q => q.real?
    interval := d.recordAt? "confidence_interval" EngineInterval.ofDatum
    errorMessage := (d.get "error_message").text?
  }

/-- A declared record of an engine. -/
def EngineRecord.ofDatum (d : Datum α) : Except (Fault α) (EngineRecord α) := do
  checkRecord "EngineResult" EngineInterval.form d
  EngineRecord.read d

/-- A declared record, which has no quantile when it is absent. -/
def PowerRecord.ofDatum (d : Datum α) : Except (Fault α) (PowerRecord α) := do
  checkRecord "PowerResult" PowerInterval.form d
  let r ← EngineRecord.read d
  return { PowerRecord.ofEngine r with
    quantile := (d.get "quantile").real?
    interval := d.recordAt? "confidence_interval" PowerInterval.ofDatum }

/-- A declared item of an engine's answer: the value in the field `$raw`, or a record. -/
def EngineItem.ofDatum (d : Datum α) : Except (Fault α) (EngineItem α) :=
  match d.field? "$raw" with
  | some raw => .ok (.other raw)
  | none => .record <$> EngineRecord.ofDatum d

end

/-! ### Writing -/

/-- The record of an interval of an engine. -/
def EngineInterval.toDatum (i : EngineInterval α) : Datum α :=
  .record [("lower_limit", .real i.lower), ("upper_limit", .real i.upper),
    ("alpha_lower", .real i.alphaLower), ("alpha_upper", .real i.alphaUpper)]

/-- The record of an interval. -/
def PowerInterval.toDatum (i : PowerInterval α) : Datum α :=
  .record [("lower_limit", .real i.lower), ("upper_limit", .real i.upper),
    ("lower_tail_probability", .real i.lowerTail), ("upper_tail_probability", .real i.upperTail)]

/-- The record of what an engine reports. -/
def EngineRecord.toDatum (r : EngineRecord α) : Datum α :=
  .record [("test", .text (Term.word r.test)), ("alpha", .real r.alpha),
    ("nominal_power", .real r.nominalPower), ("actual_power", .real r.actualPower),
    ("total_sample_size", .int r.totalSampleSize), ("beta_scale", .real r.betaScale),
    ("sigma_scale", .real r.sigmaScale), ("power_method", .text (Term.word r.method)),
    ("quantile", .ofReal? r.quantile),
    ("confidence_interval", (r.interval.map EngineInterval.toDatum).getD .null),
    ("error_message", (r.errorMessage.map .text).getD .null)]

/-- The record of an item of an engine's answer. -/
def EngineItem.toDatum : EngineItem α → Datum α
  | .record r => r.toDatum
  | .other d => d

/-- The record of what a caller sees. -/
def PowerRecord.toDatum (r : PowerRecord α) : Datum α :=
  .record [("test", .text (Term.word r.test)), ("alpha", .real r.alpha),
    ("nominal_power", .real r.nominalPower), ("actual_power", .real r.actualPower),
    ("total_sample_size", .int r.totalSampleSize), ("beta_scale", .real r.betaScale),
    ("sigma_scale", .real r.sigmaScale), ("power_method", .text (Term.word r.method)),
    ("quantile", .ofReal? r.quantile),
    ("confidence_interval", (r.interval.map PowerInterval.toDatum).getD .null),
    ("error_message", (r.errorMessage.map .text).getD .null)]

end StudyPower
