import StudyPower.Fault

/-!
# Arrays

Arrays of numbers of any rank.  Like a matrix, an array is stated by its entries: `ofFn` builds it
from a function of indices and `get` reads it back.

## Main definitions

* `NdArray α` — an array; `NdArray.ofFn`, `NdArray.get` — building and reading one.
* `NdArray.toMat`, `NdArray.ofMat` — an array of at most two dimensions as a matrix, and a matrix as
  an array.
* `NdArray.kron`, `NdArray.kronAll` — Kronecker products.
* `NdArray.forceSymmetric?` — the average of an array and its transpose.
* `NdArray.join`, `NdArray.beside`, `NdArray.above` — joining two arrays along a side.
* `NdArray.sides` — the two sides of an array that must have two.
-/

namespace StudyPower

variable {α : Type}

/-- An array of numbers, its entries in row-major order. -/
structure NdArray (α : Type) where
  /-- The length of each side. -/
  shape : List Nat
  /-- The entries. -/
  entries : Array α

namespace NdArray

/-- The number of entries of an array with these sides. -/
def sizeOf (shape : List Nat) : Nat := shape.foldl (· * ·) 1

/-- The indices of an array with these sides, the last varying fastest. -/
def indices : List Nat → List (List Nat)
  | [] => [[]]
  | n :: shape => (List.range n).flatMap fun i => (indices shape).map (i :: ·)

/-- The place of an index among the entries. -/
def offset : List Nat → List Nat → Nat
  | _ :: shape, i :: index => i * sizeOf shape + offset shape index
  | _, _ => 0

/-- The entry at an index. -/
def get [Zero α] (a : NdArray α) (index : List Nat) : α :=
  a.entries[offset a.shape index]?.getD 0

/-- The array with these sides whose entry at an index is `f index`. -/
def ofFn (shape : List Nat) (f : List Nat → α) : NdArray α :=
  ⟨shape, ((indices shape).map f).toArray⟩

/-- The array with the entries of a matrix. -/
def ofMat (m : Mat α) : NdArray α := ⟨[m.rows, m.cols], m.toList.toArray⟩

/-- The array with these sides and one number at every place. -/
def filled (shape : List Nat) (x : α) : NdArray α :=
  ⟨shape, Array.replicate (sizeOf shape) x⟩

/-- The number of sides. -/
def rank (a : NdArray α) : Nat := a.shape.length

/-! ### Matrices -/

/-- The matrix with the entries of an array: a scalar is 1 x 1 and a flat array is a column. -/
def toMat [Zero α] (a : NdArray α) (name : String) : Except (Fault α) (Mat α) :=
  match a.shape with
  | [] => .ok (.ofArray 1 1 a.entries)
  | [n] => .ok (.ofArray n 1 a.entries)
  | [rows, cols] => .ok (.ofArray rows cols a.entries)
  | shape => .error (.notTwoDimensional name shape)

/-- The two sides of an array. -/
def sides (a : NdArray α) : Except (Fault α) (Nat × Nat) :=
  match a.shape with
  | [rows, cols] => .ok (rows, cols)
  | shape => .error (.notTwoSides shape.length)

/-! ### Products -/

/-- Sides of length one in front, up to `rank` sides. -/
def padShape (rank : Nat) (shape : List Nat) : List Nat :=
  List.replicate (rank - shape.length) 1 ++ shape

/-- The array with sides of length one in front, up to `rank` sides. -/
def pad (rank : Nat) (a : NdArray α) : NdArray α := ⟨padShape rank a.shape, a.entries⟩

/-- The Kronecker product; sides of length one are put in front of the array of lesser rank. -/
def kron [Zero α] [Mul α] (a b : NdArray α) : NdArray α :=
  let rank := max a.rank b.rank
  let a := a.pad rank
  let b := b.pad rank
  ofFn (a.shape.zipWith (· * ·) b.shape) fun index =>
    a.get (index.zipWith (· / ·) b.shape) * b.get (index.zipWith (· % ·) b.shape)

/-- The Kronecker product of a list of arrays, from the left; of none, the 1 x 1 identity. -/
def kronAll [Zero α] [One α] [Mul α] (as : List (NdArray α)) : NdArray α :=
  as.foldl kron (filled [1, 1] 1)

/-! ### Symmetry -/

/-- The common length of two sides, a side of length one stretching to any length. -/
def commonSide? (m n : Nat) : Option Nat :=
  if m = n then some m else if m = 1 then some n else if n = 1 then some m else none

/-- The index that stands for `index` in an array with these sides, where sides of length one
stretch. -/
def stretched (shape index : List Nat) : List Nat :=
  shape.zipWith (fun n i => if n = 1 then 0 else i) index

/-- The average of an array and its transpose, where sides of length one stretch; nothing when the
two shapes cannot be added. -/
def forceSymmetric? [Zero α] [Add α] [Div α] [NatCast α] (a : NdArray α) : Option (NdArray α) := do
  let shape ← (a.shape.zip a.shape.reverse).mapM fun (m, n) => commonSide? m n
  return ofFn shape fun index =>
    (a.get (stretched a.shape index) + a.get (stretched a.shape.reverse index).reverse) /
      ((2 : Nat) : α)

/-! ### Joining -/

/-- The first side other than `axis` that differs in length: its place and the two lengths. -/
def firstMismatch? (axis : Nat) (a b : NdArray α) : Option (Nat × Nat × Nat) :=
  ((List.range a.rank).zip (a.shape.zip b.shape)).find? fun (i, m, n) => i ≠ axis && m ≠ n

/-- `b` behind `a` along a side. -/
def join [Zero α] (axis : Nat) (a b : NdArray α) : Except (Fault α) (NdArray α) :=
  if a.rank ≠ b.rank then .error (.rankMismatch a.rank b.rank)
  else
    match firstMismatch? axis a b with
    | some (side, m, n) => .error (.joinMismatch side m n)
    | none =>
      let length := a.shape.getD axis 0
      .ok (ofFn (a.shape.modify axis (· + b.shape.getD axis 0)) fun index =>
        if index.getD axis 0 < length then a.get index
        else b.get (index.modify axis (· - length)))

/-- `b` at the right of `a`; flat arrays are joined end to end. -/
def beside [Zero α] (a b : NdArray α) : Except (Fault α) (NdArray α) :=
  let a := a.pad 1
  join (if a.rank = 1 then 0 else 1) a (b.pad 1)

/-- `b` below `a`; a flat array is a row. -/
def above [Zero α] (a b : NdArray α) : Except (Fault α) (NdArray α) := join 0 (a.pad 2) (b.pad 2)

end NdArray

end StudyPower
