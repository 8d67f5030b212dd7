import StudyPower.Datum
import StudyPower.Vocabulary

/-!
# Sweep outcomes

An engine reports one record for each point of a sweep, and a study passes each of them on to its
caller.  Both kinds of record hold the same numbers; where an engine writes an undefined quantile,
the caller sees none.

## Main definitions

* `EngineRecord`, `PowerRecord` — what an engine reports and what a caller sees.
* `EngineItem` — an item of an engine's answer: a record, or something else.
* `PowerRecord.ofEngine`, `translate` — one record, and all of them in order.
-/

namespace StudyPower

variable {α : Type}

/-- A confidence interval of power as an engine reports it. -/
structure EngineInterval (α : Type) where
  /-- The lower limit. -/
  lower : α
  /-- The upper limit. -/
  upper : α
  /-- The error probability of the lower limit. -/
  alphaLower : α
  /-- The error probability of the upper limit. -/
  alphaUpper : α

/-- One point of the sweep as an engine reports it. -/
structure EngineRecord (α : Type) where
  /-- The statistical test. -/
  test : StatisticalTest
  /-- The type I error rate. -/
  alpha : α
  /-- The desired power. -/
  nominalPower : α
  /-- The power reached. -/
  actualPower : α
  /-- The number of participants. -/
  totalSampleSize : Int
  /-- The scale factor for means. -/
  betaScale : α
  /-- The scale factor for variability. -/
  sigmaScale : α
  /-- The power method. -/
  method : PowerMethod
  /-- The quantile, undefined when it does not apply. -/
  quantile : Option α
  /-- The confidence interval. -/
  interval : Option (EngineInterval α)
  /-- Why this point failed, if it did. -/
  errorMessage : Option String

/-- A confidence interval of power. -/
structure PowerInterval (α : Type) where
  /-- The lower limit. -/
  lower : α
  /-- The upper limit. -/
  upper : α
  /-- The probability below the interval. -/
  lowerTail : α
  /-- The probability above the interval. -/
  upperTail : α

/-- One point of the sweep as a caller sees it. -/
structure PowerRecord (α : Type) where
  /-- The statistical test. -/
  test : StatisticalTest
  /-- The type I error rate. -/
  alpha : α
  /-- The desired power. -/
  nominalPower : α
  /-- The power reached. -/
  actualPower : α
  /-- The number of participants. -/
  totalSampleSize : Int
  /-- The scale factor for means. -/
  betaScale : α
  /-- The scale factor for variability. -/
  sigmaScale : α
  /-- The power method. -/
  method : PowerMethod
  /-- The quantile, when it applies. -/
  quantile : Option α
  /-- The confidence interval. -/
  interval : Option (PowerInterval α)
  /-- Why this point failed, if it did. -/
  errorMessage : Option String

/-- The interval that a caller sees. -/
def PowerInterval.ofEngine (i : EngineInterval α) : PowerInterval α :=
  ⟨i.lower, i.upper, i.alphaLower, i.alphaUpper⟩

/-- The record that a caller sees. -/
def PowerRecord.ofEngine [Scalar α] (r : EngineRecord α) : PowerRecord α where
  test := r.test
  alpha := r.alpha
  nominalPower := r.nominalPower
  actualPower := r.actualPower
  totalSampleSize := r.totalSampleSize
  betaScale := r.betaScale
  sigmaScale := r.sigmaScale
  method := r.method
  quantile := r.quantile.filter fun q => !Scalar.isUndefined q
  interval := r.interval.map .ofEngine
  errorMessage := r.errorMessage

/-- Did this point fail? -/
def PowerRecord.isFailed (r : PowerRecord α) : Bool := r.errorMessage.getD "" ≠ ""

/-- An item of an engine's answer. -/
inductive EngineItem (α : Type) where
  /-- A record. -/
  | record (r : EngineRecord α)
  /-- Something that is no record. -/
  | other (d : Datum α)

/-- An engine's answer holds something that is no record. -/
structure ItemFault where
  /-- The kind of the item. -/
  kindName : String
  deriving DecidableEq, Repr

/-- The message about such an item. -/
def ItemFault.message (f : ItemFault) : String := "Expected EngineResult, got " ++ f.kindName

/-- The record that a caller sees for an item. -/
def EngineItem.translate [Scalar α] : EngineItem α → Except ItemFault (PowerRecord α)
  | record r => .ok (.ofEngine r)
  | other d => .error ⟨d.kindName⟩

/-- The records that a caller sees, in order. -/
def translate [Scalar α] (items : List (EngineItem α)) : Except ItemFault (List (PowerRecord α)) :=
  items.mapM EngineItem.translate

end StudyPower
