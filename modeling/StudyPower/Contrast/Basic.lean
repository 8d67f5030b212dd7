import StudyPower.Contrast.Block

/-!
# Contrasts

A contrast between participants has a column for each cell of the factors, and a contrast within
participants has a row for each measurement of each response.  Both are Kronecker products of one
block for each factor, in the order in which the factors are declared, so that the last factor
varies fastest.

## Main definitions

* `Contrast.Blocks` — the blocks of the factors under test, by name; the latest entry counts.
* `Contrast.between`, `Contrast.within` — the products.
* `betweenMainEffect`, `betweenInteraction`, `betweenTrend`, `betweenManova`, `betweenGrandMean` —
  the contrasts between participants for each form of hypothesis.
* `withinMainEffect`, `withinInteraction`, `withinTrend`, `withinManova`, `withinGrandMean` — those
  within participants.
-/

namespace StudyPower.Contrast

variable {α : Type} [Scalar α]

/-- The blocks of the factors under test by name, the latest first. -/
abbrev Blocks (α : Type) : Type := List (String × Mat α)

/-! ### Between participants -/

/-- The points of a factor's levels: `1, 2, …`. -/
def factorPoints (f : Factor) : Points α := .equallySpaced f.levels

/-- The first factor with this name. -/
def findFactor (name : String) (factors : List Factor) : Except (Fault α) Factor :=
  match factors.find? (·.name == name) with
  | some f => .ok f
  | none => .error (.unknownFactor name)

/-- The block of a factor: the tested one, or the average.  A factor without levels has neither. -/
def factorBlock (tested : Blocks α) (f : Factor) : Except (Fault α) (Mat α) := do
  let mean ← average (.int f.levels)
  return (tested.lookup f.name).getD mean

/-- The contrast between participants with these blocks under test. -/
def between (tested : Blocks α) (factors : List Factor) : Except (Fault α) (Mat α) := do
  return Mat.kronAll (← factors.mapM (factorBlock tested))

/-- The main effect of one factor. -/
def betweenMainEffect (name : String) (factors : List Factor) : Except (Fault α) (Mat α) := do
  let f ← findFactor name factors
  between [(name, ← mainEffect (.int f.levels))] factors

/-- The block that a mapping asks for. -/
def factorTrend (mapping : EffectMapping α) (factors : List Factor) :
    Except (Fault α) (Mat α) := do
  let f ← findFactor mapping.target factors
  trend (← mapping.trend.resolve) (factorPoints f)

/-- The blocks that mappings ask for, the latest first. -/
def factorTrends (factors : List Factor) (mappings : List (EffectMapping α)) :
    Except (Fault α) (Blocks α) :=
  mappings.foldlM (fun tested mapping => do
    return (mapping.target, ← factorTrend mapping factors) :: tested) []

/-- The interaction of the mapped factors. -/
def betweenInteraction (mappings : List (EffectMapping α)) (factors : List Factor) :
    Except (Fault α) (Mat α) := do
  between (← factorTrends factors mappings) factors

/-- A trend across the levels of one factor. -/
def betweenTrend (mapping : EffectMapping α) (factors : List Factor) :
    Except (Fault α) (Mat α) := do
  between [(mapping.target, ← factorTrend mapping factors)] factors

/-- The multivariate effect of a factor: its main effect. -/
def betweenManova (name : String) (factors : List Factor) : Except (Fault α) (Mat α) :=
  betweenMainEffect name factors

/-- The average over all groups. -/
def betweenGrandMean (factors : List Factor) : Except (Fault α) (Mat α) := between [] factors

/-! ### Within participants -/

/-- The number of responses; a study without declared responses has one. -/
def responseCount (responses : List String) : Nat :=
  if responses.length = 0 then 1 else responses.length

/-- The first dimension with this name. -/
def findMeasure (dimension : String) (measures : List (RepeatedMeasure α)) :
    Except (Fault α) (RepeatedMeasure α) :=
  match measures.find? (·.dimension == dimension) with
  | some m => .ok m
  | none => .error (.unknownDimension dimension)

/-- The block of a dimension, transposed: the tested one, or the average. -/
def measureBlock (tested : Blocks α) (m : RepeatedMeasure α) : Except (Fault α) (Mat α) := do
  let mean ← average m.count
  return ((tested.lookup m.dimension).getD mean).transpose

/-- The contrast within participants with these blocks under test. -/
def within (tested : Blocks α) (measures : List (RepeatedMeasure α)) (responses : List String) :
    Except (Fault α) (Mat α) := do
  let blocks ← measures.mapM (measureBlock tested)
  return Mat.kronAll (blocks ++ [Mat.identity (responseCount responses)])

/-- The main effect of one dimension. -/
def withinMainEffect (dimension : String) (measures : List (RepeatedMeasure α))
    (responses : List String) : Except (Fault α) (Mat α) := do
  let m ← findMeasure dimension measures
  within [(dimension, ← mainEffect m.count)] measures responses

/-- The block that a mapping asks for. -/
def measureTrend (mapping : EffectMapping α) (measures : List (RepeatedMeasure α)) :
    Except (Fault α) (Mat α) := do
  let m ← findMeasure mapping.target measures
  let points ← m.points
  trend (← mapping.trend.resolve) points

/-- The blocks that mappings ask for, the latest first. -/
def measureTrends (measures : List (RepeatedMeasure α)) (mappings : List (EffectMapping α)) :
    Except (Fault α) (Blocks α) :=
  mappings.foldlM (fun tested mapping => do
    return (mapping.target, ← measureTrend mapping measures) :: tested) []

/-- The interaction of the mapped dimensions. -/
def withinInteraction (mappings : List (EffectMapping α)) (measures : List (RepeatedMeasure α))
    (responses : List String) : Except (Fault α) (Mat α) := do
  within (← measureTrends measures mappings) measures responses

/-- A trend along one dimension. -/
def withinTrend (mapping : EffectMapping α) (measures : List (RepeatedMeasure α))
    (responses : List String) : Except (Fault α) (Mat α) := do
  within [(mapping.target, ← measureTrend mapping measures)] measures responses

/-- The average over all measurements, a column for each response. -/
def withinGrandMean (measures : List (RepeatedMeasure α)) (responses : List String) :
    Except (Fault α) (Mat α) :=
  within [] measures responses

/-- `n` times a declared number of measurements.  One that is no integer takes the place of the
product, which is then no size. -/
def multiply (n d : Datum α) : Except (Fault α) (Datum α) :=
  match d with
  | .null | .record _ => .error (.notCombined "*=" n.kindName d.kindName)
  | d =>
    match n.int?, d.int? with
    | some m, some k => .ok (.int (m * k))
    | some _, none => .ok d
    | none, _ => .ok n

/-- The number of outcomes: measurements in every dimension of every response. -/
def outcomeCount (measures : List (RepeatedMeasure α)) (responses : List String) :
    Except (Fault α) Int := do
  let n ← measures.foldlM (fun n m => multiply n m.count) (.int (responseCount responses))
  n.toIndex

/-- The identity over all outcomes. -/
def withinManova (measures : List (RepeatedMeasure α)) (responses : List String) :
    Except (Fault α) (Mat α) := do
  let n ← outcomeCount measures responses
  let (size, _) ← checkShape n n
  return Mat.identity size

end StudyPower.Contrast
