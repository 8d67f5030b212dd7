/-!
# Matrices

Dense matrices whose row and column counts are part of the value.  Every operation is stated
by its entries: `ofFn` builds a matrix from an entry function and `get` reads it back, with `0`
outside the matrix, so that a formula about entries needs no bounds until it is used.

## Main definitions

* `Mat α` — a matrix; `Mat.ofFn`, `Mat.get` — building and reading one.
* `Mat.transpose`, `Mat.map`, `Mat.filled`, `Mat.identity`, `Mat.diagonal`.
* `Mat.kron`, `Mat.kronAll` — Kronecker products of two matrices and of a list of them.
* `Mat.beside?`, `Mat.above?` — joining two matrices that agree along the common side.
* `Mat.symmetricPart` — the average of a square matrix and its transpose.

## Main statements

* `Mat.get_ofFn` — the entry function is what `get` reads inside the matrix.
* `Mat.ext_get` — two matrices of one shape with the same entries are equal.
-/

namespace StudyPower

universe u v

/-- A matrix with `rows` rows and `cols` columns, stored row by row. -/
structure Mat (α : Type u) where
  /-- The number of rows. -/
  rows : Nat
  /-- The number of columns. -/
  cols : Nat
  /-- The rows, from the top. -/
  entries : Vector (Vector α cols) rows

namespace Mat

variable {α : Type u} {β : Type v}

/-- The matrix whose entry in row `i` and column `j` is `f i j`. -/
def ofFn (rows cols : Nat) (f : Nat → Nat → α) : Mat α :=
  ⟨rows, cols, Vector.ofFn fun i => Vector.ofFn fun j => f i.val j.val⟩

/-- The entry in row `i` and column `j`, and `0` outside the matrix. -/
def get [Zero α] (m : Mat α) (i j : Nat) : α :=
  if _hi : i < m.rows then
    if _hj : j < m.cols then m.entries[i][j] else 0
  else 0

/-- The row count and the column count. -/
def shape (m : Mat α) : Nat × Nat := (m.rows, m.cols)

/-- The rows as lists, from the top. -/
def toRows (m : Mat α) : List (List α) := m.entries.toList.map Vector.toList

/-- All entries, row by row. -/
def toList (m : Mat α) : List α := m.toRows.flatten

/-- The number of entries. -/
def size (m : Mat α) : Nat := m.rows * m.cols

instance : Inhabited (Mat α) := ⟨⟨0, 0, #v[]⟩⟩

/-! ### Entries -/

@[simp] theorem rows_ofFn (r c : Nat) (f : Nat → Nat → α) : (ofFn r c f).rows = r := rfl

@[simp] theorem cols_ofFn (r c : Nat) (f : Nat → Nat → α) : (ofFn r c f).cols = c := rfl

theorem get_ofFn [Zero α] {r c i j : Nat} (f : Nat → Nat → α) (hi : i < r) (hj : j < c) :
    (ofFn r c f).get i j = f i j := by
  simp [get, ofFn, hi, hj]

theorem get_eq_zero_of_rows_le [Zero α] {m : Mat α} {i : Nat} (j : Nat) (hi : m.rows ≤ i) :
    m.get i j = 0 := by
  simp [get, Nat.not_lt.mpr hi]

theorem get_eq_zero_of_cols_le [Zero α] {m : Mat α} {j : Nat} (i : Nat) (hj : m.cols ≤ j) :
    m.get i j = 0 := by
  simp [get, Nat.not_lt.mpr hj]

/-- Reading an entry function back, at any position. -/
theorem get_ofFn_eq [Zero α] (r c i j : Nat) (f : Nat → Nat → α) :
    (ofFn r c f).get i j = if i < r ∧ j < c then f i j else 0 := by
  by_cases hi : i < r <;> by_cases hj : j < c <;> simp [get, ofFn, hi, hj]

/-- Two matrices of one shape with the same entries are equal. -/
theorem ext_get [Zero α] {a b : Mat α} (hr : a.rows = b.rows) (hc : a.cols = b.cols)
    (h : ∀ i j, i < a.rows → j < a.cols → a.get i j = b.get i j) : a = b := by
  obtain ⟨r, c, x⟩ := a
  obtain ⟨r', c', y⟩ := b
  obtain rfl : r = r' := hr
  obtain rfl : c = c' := hc
  congr 1
  apply Vector.ext
  intro i hi
  apply Vector.ext
  intro j hj
  simpa [get, hi, hj] using h i j hi hj

/-! ### Building matrices -/

/-- The matrix with every entry equal to `x`. -/
def filled (rows cols : Nat) (x : α) : Mat α := ofFn rows cols fun _ _ => x

/-- The square matrix with `d` on the diagonal and `e` elsewhere. -/
def diagonal (n : Nat) (d e : α) : Mat α := ofFn n n fun i j => if i = j then d else e

/-- The identity matrix. -/
def identity [Zero α] [One α] (n : Nat) : Mat α := diagonal n 1 0

/-- The matrix with rows and columns exchanged. -/
def transpose [Zero α] (m : Mat α) : Mat α := ofFn m.cols m.rows fun i j => m.get j i

/-- `f` applied to every entry. -/
def map [Zero α] (f : α → β) (m : Mat α) : Mat β := ofFn m.rows m.cols fun i j => f (m.get i j)

/-- The matrix with these entries, row by row. -/
def ofArray [Zero α] (rows cols : Nat) (entries : Array α) : Mat α :=
  ofFn rows cols fun i j => entries[i * cols + j]?.getD 0

/-! ### Kronecker products -/

/-- The Kronecker product: block `(i, j)` of the result is `a`'s entry times `b`. -/
def kron [Zero α] [Mul α] (a b : Mat α) : Mat α :=
  ofFn (a.rows * b.rows) (a.cols * b.cols) fun i j =>
    a.get (i / b.rows) (j / b.cols) * b.get (i % b.rows) (j % b.cols)

/-- The Kronecker product of a list of matrices, from the left; of none, the 1 x 1 identity. -/
def kronAll [Zero α] [One α] [Mul α] (ms : List (Mat α)) : Mat α :=
  ms.foldl kron (filled 1 1 1)

/-! ### Joining -/

/-- `a` with `b` at its right, when both have as many rows. -/
def beside? [Zero α] (a b : Mat α) : Option (Mat α) :=
  if a.rows = b.rows then
    some (ofFn a.rows (a.cols + b.cols) fun i j =>
      if j < a.cols then a.get i j else b.get i (j - a.cols))
  else none

/-- `a` with `b` below it, when both have as many columns. -/
def above? [Zero α] (a b : Mat α) : Option (Mat α) :=
  if a.cols = b.cols then
    some (ofFn (a.rows + b.rows) a.cols fun i j =>
      if i < a.rows then a.get i j else b.get (i - a.rows) j)
  else none

/-- Row `i` of `m` repeated `counts[i]` times, for every row. -/
def repeatRows [Zero α] (m : Mat α) (counts : List Nat) : Mat α :=
  let origin := ((List.range counts.length).zip counts).flatMap fun (i, n) => List.replicate n i
  ofFn origin.length m.cols fun i j => m.get (origin[i]?.getD m.rows) j

/-! ### Symmetry -/

/-- The average of a square matrix and its transpose. -/
def symmetricPart [Zero α] [Add α] [Div α] [NatCast α] (m : Mat α) : Mat α :=
  ofFn m.rows m.cols fun i j => (m.get i j + m.get j i) / ((2 : Nat) : α)

end Mat

end StudyPower
