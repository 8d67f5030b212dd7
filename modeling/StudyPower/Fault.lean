import StudyPower.Datum
import StudyPower.Decimal.Format
import StudyPower.Text.Layout

/-!
# Faults of a study design

What can be wrong with a declared study design.  A fault records its cause; the wording is in one
place.

## Main definitions

* `Fault α` — the causes.
* `Fault.Kind`, `Fault.kind` — the family of a cause.  The families `validation`, `dimension` and
  `size` say that the design is invalid; the others that a value cannot be used at all.
* `Fault.matrixName?`, `Fault.expected?`, `Fault.actual?`, `Fault.excess?` — what a program can
  learn about a cause.
* `Fault.message` — the message.
* `SweepSide` — one dimension of a sweep, as it is counted in a message.
-/

namespace StudyPower

/-- One dimension of a sweep: its name for one value and for several, and how many it has. -/
structure SweepSide where
  /-- The name of one value. -/
  singular : String
  /-- The name of several values. -/
  plural : String
  /-- How many values there are. -/
  count : Nat
  deriving DecidableEq, Repr

/-- A cause for refusing a study design or a part of it. -/
inductive Fault (α : Type) where
  /-- Nested lists that are no array. -/
  | ragged (name : String)
  /-- An array with members that are neither numbers nor texts. -/
  | mixedArray (name : String)
  /-- An array of texts, the longest of `width` characters. -/
  | textArray (name : String) (width : Nat)
  /-- A matrix with values that are no real numbers. -/
  | nonFinite (name : String) (undefined infinite : Nat)
  /-- An array without exactly two dimensions. -/
  | notTwoDimensional (name : String) (shape : List Nat)
  /-- A matrix without rows or without columns. -/
  | emptyMatrix (name : String) (rows cols : Nat)
  /-- A matrix that had to be square. -/
  | notSquare (name : String) (rows cols : Nat)
  /-- A count that is no integer. -/
  | notPositiveInteger (name : String) (value : Datum α)
  /-- A count below one. -/
  | belowOne (name : String) (value : Int)
  /-- A relative size that is no integer. -/
  | notNaturalInteger (name : String) (value : Datum α)
  /-- A relative size below zero. -/
  | belowZero (name : String) (value : Int)
  /-- Two sizes that had to agree. -/
  | notConformable (left right : String) (leftSize rightSize : Int)
  /-- A word outside its vocabulary. -/
  | notATerm (vocabulary : String) (value : Datum α)
  /-- A text that is no numeral. -/
  | notANumeral (text : String)
  /-- A value of a kind that is no number. -/
  | notAReal (kindName : String)
  /-- A value of a kind that is no integer. -/
  | notAnInteger (kindName : String)
  /-- A truth value in place of an integer. -/
  | integerRequired
  /-- An integer beyond the range of real numbers. -/
  | integerTooLarge
  /-- A value of a kind without members. -/
  | notIterable (kindName : String)
  /-- Two kinds of values that have no order. -/
  | notOrdered (operator left right : String)
  /-- Two kinds of values that arithmetic does not combine. -/
  | notCombined (operator left right : String)
  /-- A value of a kind without length. -/
  | noLength (kindName : String)
  /-- A single number in place of a flat array. -/
  | unsized
  /-- A text cut at a position that is no integer. -/
  | notASlice
  /-- A sequence of a kind that no integer can be added to. -/
  | notConcatenated (kindName : String)
  /-- A member, by position, that had to be a pair and has another length. -/
  | notAPair (position length : Nat)
  /-- A member, by position, that had to be a pair and is no sequence. -/
  | notASequence (position : Nat)
  /-- Two repeated-measures dimensions of one name. -/
  | duplicateDimension (name : String)
  /-- Two covariances of one name. -/
  | duplicateCovariance (name : String)
  /-- More groups than allowed. -/
  | tooManyGroups (limit : Int) (actual : Nat) (factors : List (String × Nat))
  /-- More sweep cases than allowed. -/
  | tooManyCases (limit : Int) (actual : Nat) (sides : List SweepSide)
  /-- A main effect of fewer than two levels. -/
  | tooFewLevels (levels : Datum α)
  /-- A factor without levels. -/
  | noLevels (levels : Datum α)
  /-- A polynomial degree that the levels do not support. -/
  | degreeOutOfRange (degree : Datum α) (levels : Nat)
  /-- Polynomial degrees that are no integers. -/
  | notAnIndex
  /-- Truth values that mark polynomial degrees, not as many as there are degrees. -/
  | markCount (degrees marks : Nat)
  /-- Level values that are not distinct. -/
  | repeatedLevels (values : List α)
  /-- Level values whose polynomials are no real numbers. -/
  | nonFiniteLevels
  /-- A hypothesis about an undeclared factor. -/
  | unknownFactor (name : String)
  /-- A hypothesis about an undeclared dimension. -/
  | unknownDimension (name : String)
  /-- A factor without categories. -/
  | noCategories
  /-- A list of relative sizes that does not name every group once. -/
  | groupSizeCount (expected actual : Nat)
  /-- A dimension without a covariance. -/
  | missingCovariance (dimension : String)
  /-- A dimension whose covariance does not fit it. -/
  | unusableCovariance (dimension : String)
  /-- A response covariance that is missing or does not fit. -/
  | unusableResponseCovariance
  /-- A covariate without a variance. -/
  | missingCovariateVariance
  /-- An outcome covariance that is missing where it is needed. -/
  | missingOutcomeCovariance
  /-- An outcome covariance that does not cover the declared correlations. -/
  | outcomeTooSmall (outcome cross : Nat × Nat)
  /-- A matrix that the design needs. -/
  | missingMatrix (name : String)
  /-- A null hypothesis of the wrong shape. -/
  | nullShape (expected actual : Nat × Nat)
  /-- A size below zero. -/
  | negativeSize
  /-- A size beyond the largest one. -/
  | sizeTooLarge
  /-- Sizes whose product is beyond the largest one. -/
  | arrayTooLarge
  /-- An array of this shape that takes more bytes than there are. -/
  | noStorage (bytes : Nat) (shape : List Nat)
  /-- An array, by its number of dimensions, that had to have two. -/
  | notTwoSides (actual : Nat)
  /-- Distances among no measurements. -/
  | noDistances
  /-- Two arrays that cannot be joined, and the side that had to agree. -/
  | joinMismatch (side first second : Nat)
  /-- Two arrays to be joined that have not as many dimensions. -/
  | rankMismatch (first second : Nat)
  /-- An array that cannot be added to its transpose. -/
  | notAddable (shape : List Nat)
  /-- A first column that does not exist. -/
  | noFirstColumn
  /-- A field that records of this kind do not have. -/
  | unknownField (owner name : String)
  /-- Fields that a record of this kind lacks. -/
  | missingFields (owner : String) (names : List String)

namespace Fault

/-- The families of faults. -/
inductive Kind where
  /-- The design is invalid. -/
  | validation
  /-- The design is invalid: a matrix has the wrong shape. -/
  | dimension
  /-- The design is invalid: it is too large. -/
  | size
  /-- A value cannot be used. -/
  | value
  /-- A value is of the wrong kind. -/
  | type
  /-- A position does not exist. -/
  | index
  /-- A number is out of range. -/
  | overflow
  /-- There is not enough storage. -/
  | storage
  deriving DecidableEq, Repr

variable {α : Type}

/-- The family of a cause. -/
def kind : Fault α → Kind
  | notTwoDimensional .. | emptyMatrix .. | notSquare .. | notConformable .. | noCategories
  | outcomeTooSmall .. | nullShape .. => .dimension
  | tooManyGroups .. | tooManyCases .. => .size
  | notATerm .. | notANumeral .. | notAPair .. | nonFiniteLevels | negativeSize | sizeTooLarge
  | arrayTooLarge | notTwoSides .. | noDistances | joinMismatch .. | rankMismatch ..
  | notAddable .. => .value
  | notAReal .. | notAnInteger .. | notIterable .. | notOrdered .. | notCombined ..
  | notConcatenated .. | notASequence .. | noLength .. | unsized | notASlice
  | integerRequired | unknownField .. | missingFields .. => .type
  | noFirstColumn | notAnIndex | markCount .. => .index
  | integerTooLarge => .overflow
  | noStorage .. => .storage
  | _ => .validation

/-- Does the cause say that the design is invalid? -/
def isInvalidDesign (f : Fault α) : Bool :=
  match f.kind with
  | .validation | .dimension | .size => true
  | .value | .type | .index | .overflow | .storage => false

/-- A size, or the sides of an array. -/
inductive Extent where
  /-- A size. -/
  | size (n : Int)
  /-- The sides of an array. -/
  | shape (sides : List Nat)
  deriving DecidableEq, Repr

/-- The matrix that a wrong shape was found in. -/
def matrixName? : Fault α → Option String
  | notTwoDimensional name _ | emptyMatrix name _ _ | notSquare name _ _ => some name
  | noCategories => some "design"
  | outcomeTooSmall _ _ => some "sigmaOutcome"
  | nullShape _ _ => some "thetaNull"
  | _ => none

/-- The extent that a matrix had to have. -/
def expected? : Fault α → Option Extent
  | notConformable _ _ leftSize _ => some (.size leftSize)
  | nullShape expected _ => some (.shape [expected.1, expected.2])
  | _ => none

/-- The extent that a matrix has. -/
def actual? : Fault α → Option Extent
  | notTwoDimensional _ shape => some (.shape shape)
  | emptyMatrix _ rows cols | notSquare _ rows cols => some (.shape [rows, cols])
  | notConformable _ _ _ rightSize => some (.size rightSize)
  | outcomeTooSmall outcome _ => some (.shape [outcome.1, outcome.2])
  | nullShape _ actual => some (.shape [actual.1, actual.2])
  | _ => none

/-- How a request is too large: the limit, the actual size, and the counts it is the product of. -/
structure Excess where
  /-- The limit. -/
  limit : Int
  /-- The actual size. -/
  actual : Nat
  /-- The counts, each with what it counts. -/
  breakdown : List (String × Nat)
  deriving DecidableEq, Repr

/-- How a request is too large. -/
def excess? : Fault α → Option Excess
  | tooManyGroups limit actual factors => some ⟨limit, actual, factors⟩
  | tooManyCases limit actual sides =>
    some ⟨limit, actual, sides.map fun side => (side.plural, side.count)⟩
  | _ => none

/-- The sides of an array between parentheses, a single side followed by a comma. -/
def shapeText : List Nat → String
  | [n] => "(" ++ toString n ++ ",)"
  | shape => "(" ++ ", ".intercalate (shape.map toString) ++ ")"

/-- Two sizes of a matrix. -/
def timesText (rows cols : Nat) : String := toString rows ++ " x " ++ toString cols

/-- The sides of an array between parentheses, without a blank. -/
def tightShapeText : List Nat → String
  | [n] => "(" ++ toString n ++ ",)"
  | shape => "(" ++ ",".intercalate (shape.map toString) ++ ")"

/-- The message about a request that is too large: the limit, the actual size as a product of
counts, and a line for each count. -/
def sizeMessage (what : String) (limit : Int) (actual : Nat) (counts : List Nat)
    (lines : List String) : String :=
  "\n".intercalate
    (("To better manage the load on our server, we ask that you limit your request to no more than "
        ++ toString limit ++ " " ++ what ++ ".")
      :: ("Your request currently includes " ++ Text.grouped actual ++ " " ++ what ++ " ("
        ++ " × ".intercalate (counts.map toString) ++ "):")
      :: lines)

/-- The line about one factor. -/
def factorLine (factor : String × Nat) : String :=
  "  - predictor '" ++ factor.1 ++ "' has " ++ toString factor.2 ++ " values"

/-- The line about one dimension of a sweep. -/
def sideLine (side : SweepSide) : String :=
  "  - " ++ toString side.count ++ " " ++ (if side.count = 1 then side.singular else side.plural)

/-- Names between quotes, the last one after an "and". -/
def quotedNames (names : List String) : String :=
  let quoted := names.map fun name => "'" ++ name ++ "'"
  match quoted with
  | [first, second] => first ++ " and " ++ second
  | _ =>
    match quoted.reverse with
    | last :: second :: rest => ", ".intercalate ((second :: rest).reverse) ++ ", and " ++ last
    | _ => String.join quoted

/-- A number increased by one; any other value stays. -/
def next [Scalar α] : Datum α → Datum α
  | .int n => .int (n + 1)
  | .bool b => .int (if b then 2 else 1)
  | .real x => .real (x + 1)
  | d => d

/-- The message for a cause. -/
def message [Scalar α] : Fault α → String
  | ragged name => name ++ ": cannot convert to array"
  | mixedArray name =>
    name ++ ": converted to object dtype, indicating ragged rows or non-numeric data"
  | textArray name width =>
    name ++ ": non-numeric dtype <U" ++ toString width ++ ", expected numeric data"
  | nonFinite name undefined infinite =>
    name ++ ": contains non-finite values (" ++ toString undefined ++ " NaN, " ++
      toString infinite ++ " Inf)"
  | notTwoDimensional name shape =>
    name ++ ": expected 2D array, got " ++ toString shape.length ++ "D with shape " ++
      shapeText shape
  | emptyMatrix name rows cols =>
    name ++ ": matrix dimensions must be positive, got " ++ timesText rows cols
  | notSquare name rows cols =>
    name ++ ": expected a square matrix, got " ++ timesText rows cols
  | notPositiveInteger name value =>
    name ++ ": expected a positive integer, got " ++ value.kindName ++ " " ++ value.display
  | belowOne name value => name ++ ": must be a positive integer, got " ++ toString value
  | notNaturalInteger name value =>
    name ++ ": expected a non-negative integer, got " ++ value.kindName ++ " " ++ value.display
  | belowZero name value => name ++ ": must be non-negative, got " ++ toString value
  | notConformable left right leftSize rightSize =>
    "Inconsistent dimensions: " ++ left ++ " = " ++ toString leftSize ++ ", " ++ right ++ " = " ++
      toString rightSize
  | notATerm vocabulary value => value.display ++ " is not a valid " ++ vocabulary
  | notANumeral text => "could not convert string to float: " ++ Text.quoted text
  | notAReal kindName =>
    "float() argument must be a string or a real number, not '" ++ kindName ++ "'"
  | notAnInteger kindName => "'" ++ kindName ++ "' object cannot be interpreted as an integer"
  | integerRequired => "an integer is required"
  | integerTooLarge => "int too large to convert to float"
  | notIterable kindName => "'" ++ kindName ++ "' object is not iterable"
  | notOrdered operator left right =>
    "'" ++ operator ++ "' not supported between instances of '" ++ left ++ "' and '" ++ right ++ "'"
  | notCombined operator left right =>
    "unsupported operand type(s) for " ++ operator ++ ": '" ++ left ++ "' and '" ++ right ++ "'"
  | notConcatenated kindName =>
    "can only concatenate " ++ kindName ++ " (not \"int\") to " ++ kindName
  | noLength kindName => "object of type '" ++ kindName ++ "' has no len()"
  | unsized => "len() of unsized object"
  | notASlice => "slice indices must be integers or None or have an __index__ method"
  | notAPair position length =>
    "dictionary update sequence element #" ++ toString position ++ " has length " ++
      toString length ++ "; 2 is required"
  | notASequence position =>
    "cannot convert dictionary update sequence element #" ++ toString position ++
      " to a sequence"
  | duplicateDimension name => "Duplicate repeated measures dimension " ++ Text.quoted name
  | duplicateCovariance name => "Duplicate covariance name " ++ Text.quoted name
  | tooManyGroups limit actual factors =>
    sizeMessage "groups" limit actual (factors.map Prod.snd) (factors.map factorLine)
  | tooManyCases limit actual sides =>
    sizeMessage "cases" limit actual (sides.map SweepSide.count) (sides.map sideLine)
  | tooFewLevels levels => "main effect contrast needs at least 2 levels, got " ++ levels.display
  | noLevels levels => "factor must have at least 1 level, got " ++ levels.display
  | degreeOutOfRange degree levels =>
    "polynomial trend of degree " ++ degree.display ++ " needs at least " ++
      (next degree).display ++ " levels, got " ++ toString levels
  | notAnIndex => "arrays used as indices must be of integer (or boolean) type"
  | markCount degrees marks =>
    "boolean index did not match indexed array along axis 1; size of axis is " ++
      toString degrees ++ " but size of corresponding boolean axis is " ++ toString marks
  | repeatedLevels values =>
    "trend level values must be distinct, got [" ++ ", ".intercalate (values.map Scalar.text) ++ "]"
  | nonFiniteLevels => "array must not contain infs or NaNs"
  | unknownFactor name =>
    "Hypothesis refers to unknown between-participant factor " ++ Text.quoted name
  | unknownDimension name =>
    "Hypothesis refers to unknown repeated measures dimension " ++ Text.quoted name
  | noCategories =>
    "Unable to produce a valid design matrix: a between participant factor has no categories"
  | groupSizeCount expected actual =>
    "Invalid list of relative group sizes: expected " ++ toString expected ++
      " entries (one per group), got " ++ toString actual
  | missingCovariance dimension => "Missing covariance information for factor: " ++ dimension
  | unusableCovariance dimension => "Invalid covariance information for factor: " ++ dimension
  | unusableResponseCovariance => "Invalid covariance information for response variables"
  | missingCovariateVariance => "Invalid covariance for Gaussian covariate"
  | missingOutcomeCovariance => "Invalid covariance for outcome: sigmaY is missing"
  | outcomeTooSmall outcome cross =>
    "Invalid covariance for outcome: sigmaY is " ++ timesText outcome.1 outcome.2 ++
      ", sigmaYG is " ++ timesText cross.1 cross.2
  | missingMatrix name => "Missing matrix " ++ Text.quoted name
  | nullShape expected actual =>
    "thetaNull: expected " ++ timesText expected.1 expected.2 ++ ", got " ++
      timesText actual.1 actual.2
  | negativeSize => "negative dimensions are not allowed"
  | sizeTooLarge => "Maximum allowed dimension exceeded"
  | arrayTooLarge =>
    "array is too big; `arr.size * arr.dtype.itemsize` is larger than the maximum possible size."
  | noStorage bytes shape =>
    "Unable to allocate " ++ Decimal.byteSize bytes ++ " for an array with shape " ++
      shapeText shape ++ " and data type float64"
  | notTwoSides actual =>
    if actual < 2 then
      "not enough values to unpack (expected 2, got " ++ toString actual ++ ")"
    else "too many values to unpack (expected 2)"
  | noDistances => "zero-size array to reduction operation minimum which has no identity"
  | joinMismatch side first second =>
    "all the input array dimensions except for the concatenation axis must match exactly, " ++
      "but along dimension " ++ toString side ++
      ", the array at index 0 has size " ++ toString first ++
      " and the array at index 1 has size " ++ toString second
  | rankMismatch first second =>
    "all the input arrays must have same number of dimensions, but the array at index 0 has " ++
      toString first ++ " dimension(s) and the array at index 1 has " ++ toString second ++
      " dimension(s)"
  | notAddable shape =>
    "operands could not be broadcast together with shapes " ++ tightShapeText shape ++ " " ++
      tightShapeText shape.reverse ++ " "
  | noFirstColumn => "index 0 is out of bounds for axis 1 with size 0"
  | unknownField owner name =>
    owner ++ ".__init__() got an unexpected keyword argument '" ++ name ++ "'"
  | missingFields owner names =>
    owner ++ ".__init__() missing " ++ toString names.length ++ " required positional argument" ++
      (if names.length = 1 then ": " else "s: ") ++ quotedNames names

end Fault

end StudyPower
