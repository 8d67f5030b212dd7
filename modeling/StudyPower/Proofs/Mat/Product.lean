import StudyPower.Mat
import Mathlib.Algebra.BigOperators.Group.Finset.Sigma
import Mathlib.Algebra.BigOperators.Ring.Finset

/-!
# Products of matrices

The product of two matrices and of a matrix and a vector, stated by entries, with the rules that
join them to the other operations.  A vector is a function of indices.

## Main definitions

* `Mat.mul`, written `a * b` — the product of two matrices.
* `Mat.smul`, written `c • a` — a multiple of a matrix.
* `Mat.apply a v i` — entry `i` of the product of a matrix and a vector.
* `Mat.total` — the sum of all entries.
* `Mat.IsRightInverse`, `Mat.RowsIndependent` — a matrix whose rows are independent.
* `Mat.RowsSumToZero` — a matrix whose rows are comparisons.

## Main statements

* `Mat.get_mul`, `Mat.get_smul`, `Mat.get_transpose` — the entries, at any position.
* `Mat.IsRightInverse.rowsIndependent` — rows with a right inverse are independent.
-/

deriving instance DecidableEq for StudyPower.Mat

namespace StudyPower.Mat

open Finset

variable {R : Type*}

/-! ### Entries of the basic matrices -/

@[simp] theorem rows_filled (r c : ℕ) (x : R) : (filled r c x).rows = r := rfl

@[simp] theorem cols_filled (r c : ℕ) (x : R) : (filled r c x).cols = c := rfl

section Entries

variable [Zero R]

@[simp] theorem rows_transpose (m : Mat R) : m.transpose.rows = m.cols := rfl

@[simp] theorem cols_transpose (m : Mat R) : m.transpose.cols = m.rows := rfl

theorem get_eq_zero_of_le {m : Mat R} {i j : ℕ} (h : m.rows ≤ i ∨ m.cols ≤ j) : m.get i j = 0 := by
  rcases h with h | h
  · exact get_eq_zero_of_rows_le j h
  · exact get_eq_zero_of_cols_le i h

/-- An entry function that vanishes outside the matrix is read back at any position. -/
theorem get_ofFn_of_outside {r c : ℕ} {f : ℕ → ℕ → R} (h : ∀ i j, r ≤ i ∨ c ≤ j → f i j = 0)
    (i j : ℕ) : (ofFn r c f).get i j = f i j := by
  rw [get_ofFn_eq]
  by_cases hij : i < r ∧ j < c
  · rw [if_pos hij]
  · rw [if_neg hij, h i j (by omega)]

@[simp] theorem get_transpose (m : Mat R) (i j : ℕ) : m.transpose.get i j = m.get j i :=
  get_ofFn_of_outside (fun _ _ h => get_eq_zero_of_le h.symm) i j

@[simp] theorem transpose_transpose (m : Mat R) : m.transpose.transpose = m :=
  ext_get rfl rfl fun i j _ _ => by rw [get_transpose, get_transpose]

theorem get_filled {r c i j : ℕ} (x : R) (hi : i < r) (hj : j < c) :
    (filled r c x).get i j = x :=
  get_ofFn _ hi hj

@[simp] theorem transpose_filled (r c : ℕ) (x : R) : (filled r c x).transpose = filled c r x := by
  refine ext_get rfl rfl fun i j hi hj => ?_
  have hi' : i < c := hi
  have hj' : j < r := hj
  rw [get_transpose, get_filled x hj' hi', get_filled x hi' hj']

@[simp] theorem rows_identity [One R] (n : ℕ) : (identity n : Mat R).rows = n := rfl

@[simp] theorem cols_identity [One R] (n : ℕ) : (identity n : Mat R).cols = n := rfl

theorem get_identity [One R] {n i j : ℕ} (hi : i < n) (hj : j < n) :
    (identity n : Mat R).get i j = if i = j then 1 else 0 :=
  get_ofFn _ hi hj

@[simp] theorem rows_map (f : R → R) (m : Mat R) : (m.map f).rows = m.rows := rfl

@[simp] theorem cols_map (f : R → R) (m : Mat R) : (m.map f).cols = m.cols := rfl

@[simp] theorem rows_symmetricPart [Add R] [Div R] [NatCast R] (m : Mat R) :
    m.symmetricPart.rows = m.rows := rfl

@[simp] theorem cols_symmetricPart [Add R] [Div R] [NatCast R] (m : Mat R) :
    m.symmetricPart.cols = m.cols := rfl

theorem get_symmetricPart [Add R] [Div R] [NatCast R] {m : Mat R} {i j : ℕ} (hi : i < m.rows)
    (hj : j < m.cols) : m.symmetricPart.get i j = (m.get i j + m.get j i) / ((2 : ℕ) : R) :=
  get_ofFn _ hi hj

/-! ### Joining -/

theorem exists_beside? {a b : Mat R} (h : a.rows = b.rows) :
    ∃ m, a.beside? b = some m ∧ m.rows = a.rows ∧ m.cols = a.cols + b.cols := by
  unfold beside?
  rw [if_pos h]
  exact ⟨_, rfl, rfl, rfl⟩

theorem exists_above? {a b : Mat R} (h : a.cols = b.cols) :
    ∃ m, a.above? b = some m ∧ m.rows = a.rows + b.rows ∧ m.cols = a.cols := by
  unfold above?
  rw [if_pos h]
  exact ⟨_, rfl, rfl, rfl⟩

theorem sizes_of_beside? {a b m : Mat R} (h : a.beside? b = some m) :
    a.rows = b.rows ∧ m.rows = a.rows ∧ m.cols = a.cols + b.cols := by
  by_cases hrows : a.rows = b.rows
  · obtain ⟨m', hm', hsizes⟩ := exists_beside? hrows
    obtain rfl := Option.some.inj (h.symm.trans hm')
    exact ⟨hrows, hsizes⟩
  · rw [beside?, if_neg hrows] at h
    cases h

theorem sizes_of_above? {a b m : Mat R} (h : a.above? b = some m) :
    a.cols = b.cols ∧ m.rows = a.rows + b.rows ∧ m.cols = a.cols := by
  by_cases hcols : a.cols = b.cols
  · obtain ⟨m', hm', hsizes⟩ := exists_above? hcols
    obtain rfl := Option.some.inj (h.symm.trans hm')
    exact ⟨hcols, hsizes⟩
  · rw [above?, if_neg hcols] at h
    cases h

end Entries

/-! ### Products -/

section Product

variable [NonUnitalNonAssocSemiring R]

/-- The product of two matrices. -/
def mul (a b : Mat R) : Mat R :=
  ofFn a.rows b.cols fun i j => ∑ k ∈ range a.cols, a.get i k * b.get k j

instance : Mul (Mat R) := ⟨mul⟩

/-- A multiple of a matrix. -/
def smul (c : R) (m : Mat R) : Mat R := m.map (c * ·)

instance : SMul R (Mat R) := ⟨smul⟩

/-- Entry `i` of the product of a matrix and a vector. -/
def apply (m : Mat R) (v : ℕ → R) (i : ℕ) : R := ∑ j ∈ range m.cols, m.get i j * v j

/-- The sum of all entries. -/
def total (m : Mat R) : R := ∑ i ∈ range m.rows, ∑ j ∈ range m.cols, m.get i j

@[simp] theorem rows_mul (a b : Mat R) : (a * b).rows = a.rows := rfl

@[simp] theorem cols_mul (a b : Mat R) : (a * b).cols = b.cols := rfl

theorem get_mul (a b : Mat R) (i j : ℕ) :
    (a * b).get i j = ∑ k ∈ range a.cols, a.get i k * b.get k j := by
  refine get_ofFn_of_outside (fun i j h => sum_eq_zero fun k _ => ?_) i j
  rcases h with h | h
  · rw [get_eq_zero_of_rows_le k h, zero_mul]
  · rw [get_eq_zero_of_cols_le k h, mul_zero]

@[simp] theorem rows_smul (c : R) (m : Mat R) : (c • m).rows = m.rows := rfl

@[simp] theorem cols_smul (c : R) (m : Mat R) : (c • m).cols = m.cols := rfl

theorem get_smul (c : R) (m : Mat R) (i j : ℕ) : (c • m).get i j = c * m.get i j := by
  refine get_ofFn_of_outside (fun i j h => ?_) i j
  change c * m.get i j = 0
  rw [get_eq_zero_of_le h, mul_zero]

end Product

/-! ### Independent rows -/

/-- `b` undoes `a` from the right. -/
def IsRightInverse [NonAssocSemiring R] (a b : Mat R) : Prop :=
  b.rows = a.cols ∧ a * b = identity a.rows

/-- No combination of the rows vanishes but the trivial one. -/
def RowsIndependent [NonAssocSemiring R] (a : Mat R) : Prop :=
  ∀ w : ℕ → R, (∀ j < a.cols, ∑ i ∈ range a.rows, w i * a.get i j = 0) → ∀ i < a.rows, w i = 0

/-- Rows with a right inverse are independent: a combination of them is recovered from its
values. -/
theorem IsRightInverse.rowsIndependent [Semiring R] {a b : Mat R} (h : a.IsRightInverse b) :
    a.RowsIndependent := by
  obtain ⟨hrows, hab⟩ := h
  intro w hw i hi
  have hentry : ∀ k < a.rows,
      ∑ j ∈ range a.cols, a.get k j * b.get j i = if k = i then 1 else 0 := by
    intro k hk
    rw [← get_mul, hab, get_identity hk hi]
  -- applying the inverse to the combination, which vanishes, gives back its coefficients
  calc w i
      = ∑ k ∈ range a.rows, w k * ∑ j ∈ range a.cols, a.get k j * b.get j i := by
        rw [sum_congr rfl fun k hk => by rw [hentry k (mem_range.mp hk)]]
        simp [hi]
    _ = ∑ j ∈ range a.cols, (∑ k ∈ range a.rows, w k * a.get k j) * b.get j i := by
        simp only [mul_sum, sum_mul, mul_assoc]
        exact sum_comm
    _ = 0 := sum_eq_zero fun j hj => by rw [hw j (mem_range.mp hj), zero_mul]

/-! ### Rows that add up to zero -/

/-- The entries of each row add up to zero. -/
def RowsSumToZero [AddCommMonoid R] (m : Mat R) : Prop :=
  ∀ i, ∑ j ∈ range m.cols, m.get i j = 0

/-- Only the rows of the matrix count. -/
theorem rowsSumToZero_iff [AddCommMonoid R] {m : Mat R} :
    m.RowsSumToZero ↔ ∀ i < m.rows, ∑ j ∈ range m.cols, m.get i j = 0 := by
  refine ⟨fun h i _ => h i, fun h i => ?_⟩
  rcases Nat.lt_or_ge i m.rows with hi | hi
  · exact h i hi
  · exact sum_eq_zero fun j _ => get_eq_zero_of_rows_le j hi

instance [AddCommMonoid R] [DecidableEq R] (m : Mat R) : Decidable m.RowsSumToZero :=
  decidable_of_iff _ rowsSumToZero_iff.symm

/-! ### Negation -/

section Negation

variable [Ring R]

theorem get_map_neg (m : Mat R) (i j : ℕ) : (m.map (-·)).get i j = -m.get i j := by
  refine get_ofFn_of_outside (fun i j h => ?_) i j
  change -m.get i j = 0
  rw [get_eq_zero_of_le h, neg_zero]

theorem RowsSumToZero.neg {m : Mat R} (h : m.RowsSumToZero) : (m.map (-·)).RowsSumToZero := by
  intro i
  calc ∑ j ∈ range m.cols, (m.map (-·)).get i j
      = ∑ j ∈ range m.cols, -m.get i j := sum_congr rfl fun j _ => get_map_neg m i j
    _ = 0 := by rw [sum_neg_distrib, h i, neg_zero]

theorem map_neg_mul_map_neg (a b : Mat R) : a.map (-·) * b.map (-·) = a * b := by
  refine ext_get ?_ ?_ fun i j _ _ => ?_
  · rw [rows_mul, rows_map, rows_mul]
  · rw [cols_mul, cols_map, cols_mul]
  · rw [get_mul, get_mul, cols_map]
    refine sum_congr rfl fun k _ => ?_
    rw [get_map_neg, get_map_neg, neg_mul_neg]

theorem IsRightInverse.neg {a b : Mat R} (h : a.IsRightInverse b) :
    (a.map (-·)).IsRightInverse (b.map (-·)) := by
  obtain ⟨hrows, hab⟩ := h
  refine ⟨hrows, ?_⟩
  rw [map_neg_mul_map_neg, hab, rows_map]

end Negation

end StudyPower.Mat
