import StudyPower.Decimal.Format
import StudyPower.Outcome
import StudyPower.Text.Layout

/-!
# Solutions

The answer to a request: the records of the sweep with what is known about how they came about, and
the two ways of laying them out, as a text and as a table.

## Main definitions

* `Solution α` — the answer.
* `Solution.summary` — the text.
* `Solution.columnNames`, `PowerRecord.cells` — the table.
* `mentions` — does a warning mention something?
-/

namespace StudyPower

variable {α : Type}

/-- The answer to a request. -/
structure Solution (α : Type) where
  /-- What was solved for. -/
  goal : Goal
  /-- The points of the sweep. -/
  records : List (PowerRecord α)
  /-- Facts about the request, by name. -/
  info : List (String × Datum α)
  /-- The seconds spent, by phase, when they were measured. -/
  timing : Option (List (String × Float))
  /-- The name of the engine. -/
  engineName : String
  /-- What the caller should know. -/
  warnings : List String

/-- Does the text hold this part? -/
def holdsText (part : List Char) : List Char → Bool
  | [] => part.isEmpty
  | c :: rest => part.isPrefixOf (c :: rest) || holdsText part rest

/-- Does one of the warnings mention this text? -/
def mentions (warnings : List String) (part : String) : Bool :=
  warnings.any fun w => holdsText part.toList w.toList

namespace Solution

/-! ### Summary -/

/-- The width of the summary. -/
def summaryWidth : Nat := 96

/-- A line of one character across the summary. -/
def rule (c : Char) : String := String.ofList (List.replicate summaryWidth c)

/-- The cells of a summary line between blanks, in columns of fixed width. -/
def summaryLine (test alpha nominal actual size beta sigma method quantile : String) : String :=
  " ".intercalate [
    Text.padRight 10 test, Text.padLeft 7 alpha, Text.padLeft 8 nominal, Text.padLeft 8 actual,
    Text.padLeft 7 size, Text.padLeft 8 beta, Text.padLeft 8 sigma, Text.padRight 14 method,
    Text.padLeft 8 quantile]

/-- The line above the records. -/
def headerLine : String :=
  summaryLine "Test" "Alpha" "Nominal" "Power" "N" "Beta sc" "Sigma sc" "Method" "Quantile"

/-- The blank cell under the name of the test. -/
def indent : String := Text.padRight 10 "" ++ " "

/-- The line about a confidence interval. -/
def intervalLine (i : PowerInterval Float) : String :=
  indent ++ "CI: [" ++ Decimal.fixed 4 i.lower ++ ", " ++ Decimal.fixed 4 i.upper ++ "] (tails " ++
    Decimal.general i.lowerTail ++ ", " ++ Decimal.general i.upperTail ++ ")"

/-- The line about a failed point. -/
def errorLine (message : String) : String := indent ++ "Error: " ++ message

/-- The line with the numbers of a record. -/
def recordLine (r : PowerRecord Float) : String :=
  summaryLine (Term.word r.test) (Decimal.fixed 4 r.alpha) (Decimal.fixed 4 r.nominalPower)
    (Decimal.fixed 4 r.actualPower) (toString r.totalSampleSize) (Decimal.fixed 4 r.betaScale)
    (Decimal.fixed 4 r.sigmaScale) (Term.word r.method)
    ((r.quantile.map (Decimal.fixed 4)).getD "")

/-- The lines about a record. -/
def recordLines (r : PowerRecord Float) : List String :=
  recordLine r :: (r.interval.map intervalLine).toList ++
    (if r.isFailed then [errorLine (r.errorMessage.getD "")] else [])

/-- The lines about the warnings. -/
def warningLines (warnings : List String) : List String :=
  if warnings.isEmpty then [] else "" :: "Warnings:" :: warnings.map ("  " ++ ·)

/-- The records as a text. -/
def summary (s : Solution Float) : String :=
  "\n".intercalate ([
    "GLMM Power Analysis (" ++ Term.word s.goal ++ ")",
    rule '=',
    "Engine: " ++ s.engineName,
    "Results: " ++ toString s.records.length,
    "",
    headerLine,
    rule '-'] ++ s.records.flatMap recordLines ++ [rule '-'] ++ warningLines s.warnings)

/-- The answer in one line. -/
def headline (s : Solution α) : String :=
  "PowerSolution(type=" ++ Term.word s.goal ++ ", n_results=" ++ toString s.records.length ++
    ", engine=" ++ Text.quoted s.engineName ++ ")"

/-! ### Table -/

/-- The columns of the table. -/
def columnNames : List String := [
  "test", "alpha", "nominal_power", "actual_power", "total_sample_size", "beta_scale",
  "sigma_scale", "power_method", "quantile", "ci_lower", "ci_upper", "error_message"]

end Solution

/-- The cell of a number; an absent or undefined one is empty. -/
def numberCell [Scalar α] (x : Option α) : Datum α :=
  match x with
  | none => .null
  | some x => if Scalar.isUndefined x then .null else .real x

/-- The cells of a record, in the order of the columns. -/
def PowerRecord.cells [Scalar α] (r : PowerRecord α) : List (Datum α) := [
  .text (Term.word r.test), numberCell (some r.alpha), numberCell (some r.nominalPower),
  numberCell (some r.actualPower), .int r.totalSampleSize, numberCell (some r.betaScale),
  numberCell (some r.sigmaScale), .text (Term.word r.method), numberCell r.quantile,
  numberCell (r.interval.map (·.lower)), numberCell (r.interval.map (·.upper)),
  (r.errorMessage.map .text).getD .null]

end StudyPower
