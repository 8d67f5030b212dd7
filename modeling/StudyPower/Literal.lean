import StudyPower.Datum.Conversion
import StudyPower.NdArray

/-!
# Literal arrays

A literal is a declared value that stands for an array of numbers: nested lists of one shape whose
members are numbers.  A scalar counts as a 1 x 1 matrix and a flat list as a single column, which
is how such matrices are written by hand.

## Main definitions

* `Datum.shape?`, `Datum.leaves` — the shape of nested lists and their members.
* `EntryKind` — what the members of an array have in common.
* `Datum.toArray`, `Datum.toMat` — the array and the matrix that a literal stands for.
* `checkFinite`, `checkTwoDimensional`, `checkNonempty`, `checkSquare`, `checkShape`,
  `checkPositive`, `checkNatural`, `checkConformable` — the rules that values obey, each with its
  own fault.
-/

namespace StudyPower

variable {α : Type}

/-! ### Nested lists as arrays -/

/-- The largest number of nested lists in an array. -/
def maxDepth : Nat := 64

namespace Datum

mutual

/-- The shape of nested lists, when members of one list have one shape. -/
def shape? : Datum α → Option (List Nat)
  | list items => (shapeOfItems? items).map fun (count, shape) => count :: shape
  | _ => some []

/-- The number of items and their common shape. -/
def shapeOfItems? : List (Datum α) → Option (Nat × List Nat)
  | [] => some (0, [])
  | d :: rest =>
    match d.shape?, shapeOfItems? rest with
    | some shape, some (count, common) =>
      if count = 0 || shape == common then some (count + 1, shape) else none
    | _, _ => none

end

mutual

/-- The members of nested lists that are no lists, in order. -/
def leaves : Datum α → List (Datum α)
  | list items => leavesOfItems items
  | d => [d]

/-- The leaves of several values. -/
def leavesOfItems : List (Datum α) → List (Datum α)
  | [] => []
  | d :: rest => d.leaves ++ leavesOfItems rest

end

end Datum

/-- What the members of an array have in common. -/
inductive EntryKind where
  /-- Truth values. -/
  | bool
  /-- Integers that fit 64 bits with a sign. -/
  | signed
  /-- Integers that fit 64 bits without a sign. -/
  | unsigned
  /-- Real numbers. -/
  | real
  /-- Texts, the longest of `width` characters. -/
  | text (width : Nat)
  deriving DecidableEq, Repr

namespace EntryKind

/-- The number of characters that a member takes among texts. -/
def textWidth : EntryKind → Nat
  | bool => 5
  | signed => 21
  | unsigned => 20
  | real => 32
  | text width => width

/-- The kind that has room for the members of two kinds.  Integers with and without a sign meet in
the real numbers. -/
def join : EntryKind → EntryKind → EntryKind
  | text m, k | k, text m => text (max m k.textWidth)
  | real, _ | _, real | signed, unsigned | unsigned, signed => real
  | signed, _ | _, signed => signed
  | unsigned, _ | _, unsigned => unsigned
  | bool, bool => bool

/-- The kind of a literal's member; some members have none. -/
def ofDatum? {α : Type} : Datum α → Option EntryKind
  | .bool _ => some bool
  | .real _ => some real
  | .text s => some (text s.length)
  | .int n =>
    if -9223372036854775808 ≤ n ∧ n < 9223372036854775808 then some signed
    else if 0 ≤ n ∧ n < 18446744073709551616 then some unsigned
    else none
  | _ => none

/-- The common kind of several members, joined in their order; real when there are none. -/
def joinAll : List EntryKind → EntryKind
  | [] => real
  | k :: ks => ks.foldl join k

end EntryKind

namespace Datum

/-- The number that an array member stands for. -/
def arrayNumber [Scalar α] : Datum α → α
  | bool b => Scalar.ofBool b
  | int n => (n : α)
  | real x => x
  | _ => 0

/-- The array that a literal stands for. -/
def toArray [Scalar α] (d : Datum α) (name : String) : Except (Fault α) (NdArray α) :=
  match d.shape? with
  | none => .error (.ragged name)
  | some shape =>
    if maxDepth < shape.length then .error (.ragged name)
    else
      let members := d.leaves
      match members.mapM EntryKind.ofDatum? with
      | none => .error (.mixedArray name)
      | some kinds =>
        match EntryKind.joinAll kinds with
        | .text width => .error (.textArray name (max 1 width))
        | _ => .ok ⟨shape, (members.map arrayNumber).toArray⟩

end Datum

/-- The matrix that a literal stands for. -/
def Datum.toMat [Scalar α] (d : Datum α) (name : String) : Except (Fault α) (Mat α) := do
  (← d.toArray name).toMat name

/-! ### Rules -/

/-- Every value must be a real number. -/
def checkFinite [Scalar α] (values : List α) (name : String) : Except (Fault α) Unit :=
  if values.all Scalar.isFinite then .ok ()
  else .error (.nonFinite name (values.countP Scalar.isUndefined) (values.countP Scalar.isInfinite))

/-- An array must have two dimensions. -/
def checkTwoDimensional (shape : List Nat) (name : String) : Except (Fault α) Unit :=
  if shape.length = 2 then .ok () else .error (.notTwoDimensional name shape)

/-- A matrix must have a row and a column. -/
def checkNonempty (m : Mat α) (name : String) : Except (Fault α) Unit :=
  if m.rows = 0 ∨ m.cols = 0 then .error (.emptyMatrix name m.rows m.cols) else .ok ()

/-- A matrix must be square. -/
def checkSquare (m : Mat α) (name : String) : Except (Fault α) Unit :=
  if m.rows = m.cols then .ok () else .error (.notSquare name m.rows m.cols)

/-- The first size that is too large to be a side of an array. -/
def sizeLimit : Int := 9223372036854775808

/-- The storage that sides take, multiplied up from the first; empty sides are passed over. -/
def checkStorage (storage : Int) (side : Int) : Except (Fault α) Int :=
  if side = 0 then .ok storage
  else if side < 0 then .error .negativeSize
  else if sizeLimit ≤ storage * side then .error .arrayTooLarge
  else .ok (storage * side)

/-- The number of bytes that an array must stay below. -/
def storageLimit : Int := 34359738368

/-- Sizes must not be negative, nor take more storage than there is. -/
def checkShape [Scalar α] (rows cols : Int) : Except (Fault α) (Nat × Nat) := do
  let tooLarge (n : Int) : Bool := Scalar.entrySize α ≠ 0 && (n < -sizeLimit || sizeLimit ≤ n)
  if tooLarge rows || tooLarge cols then throw .sizeTooLarge
  let storage ← [rows, cols].foldlM checkStorage (Scalar.entrySize α : Int)
  if storageLimit ≤ storage then throw (.noStorage storage.toNat [rows.toNat, cols.toNat])
  return (rows.toNat, cols.toNat)

/-- A count must be an integer of at least one. -/
def checkPositive (value : Datum α) (name : String) : Except (Fault α) Nat :=
  match value with
  | .int n => if n < 1 then .error (.belowOne name n) else .ok n.toNat
  | _ => .error (.notPositiveInteger name value)

/-- A relative size must be an integer of at least zero. -/
def checkNatural (value : Datum α) (name : String) : Except (Fault α) Nat :=
  match value with
  | .int n => if n < 0 then .error (.belowZero name n) else .ok n.toNat
  | _ => .error (.notNaturalInteger name value)

/-- Two sizes that meet in a product must agree. -/
def checkConformable (leftSize rightSize : Int) (left right : String) : Except (Fault α) Unit :=
  if leftSize = rightSize then .ok () else .error (.notConformable left right leftSize rightSize)

end StudyPower
