import StudyPower.Proofs.Mat.Kronecker
import Mathlib.Algebra.Order.Field.Basic
import Mathlib.LinearAlgebra.BilinearMap
import Mathlib.LinearAlgebra.Pi
import Mathlib.Tactic.Linarith

/-!
# Semidefinite matrices

A symmetric matrix can be a covariance when its quadratic form takes no negative value.  A vector
for a Kronecker product is cut into slices, one for each index of the first factor, and the form of
the product adds up the form of the second factor at pairs of slices.

## Main definitions

* `Mat.form m` — the bilinear form of a matrix.
* `Mat.IsNonneg m`, `Mat.PosSemidef m` — the quadratic form is never negative; and the matrix is
  symmetric.
* `Mat.slice n v i` — slice `i` of a vector that is cut into slices of length `n`.
* `Mat.tensor n x v` — the vector whose slices are the multiples of `v` by the entries of `x`.

## Main statements

* `Mat.form_kron`, `Mat.form_kron_tensor` — **the form of a Kronecker product**, at any vectors and
  at tensors, where it is a product.
* `Mat.sum_form_sub_mean` — the form at the deviations from a mean.
* `Mat.PosSemidef.exists_pos` — only zero is semidefinite with a form that vanishes.
-/

namespace StudyPower.Mat

open Finset

/-! ### The form of a matrix -/

section Form

variable {R : Type*} [CommSemiring R]

/-- The bilinear form of a matrix. -/
def form (m : Mat R) : (ℕ → R) →ₗ[R] (ℕ → R) →ₗ[R] R :=
  LinearMap.mk₂ R (fun u v => ∑ i ∈ range m.rows, ∑ j ∈ range m.cols, u i * m.get i j * v j)
    (fun u u' v => by simp only [Pi.add_apply, add_mul, sum_add_distrib])
    (fun c u v => by simp only [Pi.smul_apply, smul_eq_mul, mul_assoc, mul_sum])
    (fun u v v' => by simp only [Pi.add_apply, mul_add, sum_add_distrib])
    (fun c u v => by simp only [Pi.smul_apply, smul_eq_mul, mul_left_comm, mul_sum])

theorem form_apply (m : Mat R) (u v : ℕ → R) :
    m.form u v = ∑ i ∈ range m.rows, ∑ j ∈ range m.cols, u i * m.get i j * v j := rfl

/-- Only the entries at the rows and the columns count. -/
theorem form_congr {m : Mat R} {u u' v v' : ℕ → R} (hu : ∀ i < m.rows, u i = u' i)
    (hv : ∀ j < m.cols, v j = v' j) : m.form u v = m.form u' v' := by
  rw [form_apply, form_apply]
  refine sum_congr rfl fun i hi => sum_congr rfl fun j hj => ?_
  rw [hu i (mem_range.mp hi), hv j (mem_range.mp hj)]

/-- The form of two unit vectors is an entry. -/
theorem form_single (m : Mat R) (i j : ℕ) : m.form (Pi.single i 1) (Pi.single j 1) = m.get i j := by
  have hrow : ∀ k, ∑ l ∈ range m.cols, m.get k l * (Pi.single j 1 : ℕ → R) l = m.get k j := by
    intro k
    simp only [Pi.single_apply, mul_ite, mul_one, mul_zero, sum_ite_eq', mem_range]
    split
    · rfl
    · next hj => rw [get_eq_zero_of_cols_le k (not_lt.mp hj)]
  have hentry : ∀ k, ∑ l ∈ range m.cols,
      (Pi.single i 1 : ℕ → R) k * m.get k l * (Pi.single j 1 : ℕ → R) l =
        if k = i then m.get k j else 0 := by
    intro k
    simp only [mul_assoc, ← mul_sum, hrow]
    rw [Pi.single_apply, ite_mul, one_mul, zero_mul]
  rw [form_apply, sum_congr rfl fun k _ => hentry k, sum_ite_eq']
  split
  · rfl
  · next hi => rw [get_eq_zero_of_rows_le j (not_lt.mp fun h => hi (mem_range.mpr h))]

/-- The form at vectors of ones adds up the entries. -/
theorem form_one (m : Mat R) : m.form 1 1 = m.total := by
  rw [form_apply, total]
  simp only [Pi.one_apply, one_mul, mul_one]

/-! ### Kronecker products -/

/-- Slice `i` of a vector that is cut into slices of length `n`. -/
def slice (n : ℕ) (v : ℕ → R) (i : ℕ) : ℕ → R := fun j => v (i * n + j)

/-- The vector whose slices are the multiples of `v` by the entries of `x`. -/
def tensor (n : ℕ) (x v : ℕ → R) : ℕ → R := fun k => x (k / n) * v (k % n)

theorem slice_tensor {n j : ℕ} (x v : ℕ → R) (i : ℕ) (hj : j < n) :
    slice n (tensor n x v) i j = (x i • v) j := by
  obtain ⟨hdiv, hmod⟩ := digits_of_lt (i := i) hj
  rw [slice, tensor, hdiv, hmod, Pi.smul_apply, smul_eq_mul]

/-- The form of a Kronecker product adds up the form of its second factor at pairs of slices. -/
theorem form_kron (a b : Mat R) (u v : ℕ → R) :
    (a.kron b).form u v = ∑ i ∈ range a.rows, ∑ j ∈ range a.cols,
      a.get i j * b.form (slice b.rows u i) (slice b.cols v j) := by
  rw [form_apply, rows_kron, cols_kron, sum_range_mul]
  refine sum_congr rfl fun i _ => ?_
  -- a row of the product has two digits, and a column too
  calc ∑ k ∈ range b.rows, ∑ c ∈ range (a.cols * b.cols),
        u (i * b.rows + k) * (a.kron b).get (i * b.rows + k) c * v c
      = ∑ k ∈ range b.rows, ∑ j ∈ range a.cols, ∑ l ∈ range b.cols,
          a.get i j * (slice b.rows u i k * b.get k l * slice b.cols v j l) := by
        refine sum_congr rfl fun k hk => ?_
        rw [sum_range_mul]
        refine sum_congr rfl fun j _ => sum_congr rfl fun l hl => ?_
        obtain ⟨hdiv, hmod⟩ := digits_of_lt (i := i) (mem_range.mp hk)
        obtain ⟨hdiv', hmod'⟩ := digits_of_lt (i := j) (mem_range.mp hl)
        rw [get_kron, hdiv, hmod, hdiv', hmod', slice, slice]
        ring
    _ = ∑ j ∈ range a.cols, a.get i j * b.form (slice b.rows u i) (slice b.cols v j) := by
        rw [sum_comm]
        refine sum_congr rfl fun j _ => ?_
        simp only [form_apply, mul_sum]

/-- At tensors, the form of a Kronecker product is the product of the forms. -/
theorem form_kron_tensor (a b : Mat R) (x y u v : ℕ → R) :
    (a.kron b).form (tensor b.rows x u) (tensor b.cols y v) = a.form x y * b.form u v := by
  rw [form_kron, form_apply a, sum_mul]
  refine sum_congr rfl fun i _ => ?_
  rw [sum_mul]
  refine sum_congr rfl fun j _ => ?_
  have hslices : b.form (slice b.rows (tensor b.rows x u) i) (slice b.cols (tensor b.cols y v) j) =
      b.form (x i • u) (y j • v) :=
    form_congr (fun k hk => slice_tensor x u i hk) fun k hk => slice_tensor y v j hk
  rw [hslices, map_smul, map_smul, LinearMap.smul_apply, smul_eq_mul, smul_eq_mul]
  ring

/-- At one tensor, when the second factor is square. -/
theorem form_kron_tensor_self (a : Mat R) {b : Mat R} (hb : b.rows = b.cols) (x u : ℕ → R) :
    (a.kron b).form (tensor b.rows x u) (tensor b.rows x u) = a.form x x * b.form u u := by
  have h := form_kron_tensor a b x x u u
  rwa [← hb] at h

end Form

/-! ### Forms that are never negative -/

section Order

variable {F : Type*} [Field F]

/-- The form at the deviations from the mean of `s` vectors adds up to its values at the vectors
less what the mean contributes. -/
theorem sum_form_sub_mean (m : Mat F) {s : ℕ} (hs : (s : F) ≠ 0) (f : ℕ → ℕ → F) {t : ℕ → F}
    (ht : ∑ i ∈ range s, f i = t) :
    ∑ i ∈ range s, m.form (f i - (s : F)⁻¹ • t) (f i - (s : F)⁻¹ • t) =
      ∑ i ∈ range s, m.form (f i) (f i) - (s : F)⁻¹ * m.form t t := by
  have hleft : ∑ i ∈ range s, m.form (f i) t = m.form t t := by
    rw [← LinearMap.sum_apply, ← map_sum, ht]
  have hright : ∑ i ∈ range s, m.form t (f i) = m.form t t := by
    rw [← map_sum, ht]
  have hterm : ∀ i ∈ range s, m.form (f i - (s : F)⁻¹ • t) (f i - (s : F)⁻¹ • t) =
      m.form (f i) (f i) - (s : F)⁻¹ * m.form (f i) t - (s : F)⁻¹ * m.form t (f i) +
        (s : F)⁻¹ * (s : F)⁻¹ * m.form t t := by
    intro i _
    simp only [map_sub, LinearMap.sub_apply, map_smul, LinearMap.smul_apply, smul_eq_mul]
    ring
  rw [sum_congr rfl hterm, sum_add_distrib, sum_sub_distrib, sum_sub_distrib, ← mul_sum, ← mul_sum,
    hleft, hright, sum_const, card_range, nsmul_eq_mul]
  -- the mean is subtracted twice and added once
  calc ∑ i ∈ range s, m.form (f i) (f i) - (s : F)⁻¹ * m.form t t - (s : F)⁻¹ * m.form t t +
        s * ((s : F)⁻¹ * (s : F)⁻¹ * m.form t t)
      = ∑ i ∈ range s, m.form (f i) (f i) - (s : F)⁻¹ * m.form t t - (s : F)⁻¹ * m.form t t +
          s * (s : F)⁻¹ * ((s : F)⁻¹ * m.form t t) := by ring
    _ = ∑ i ∈ range s, m.form (f i) (f i) - (s : F)⁻¹ * m.form t t := by
        rw [mul_inv_cancel₀ hs, one_mul, sub_add_cancel]

variable [LinearOrder F] [IsStrictOrderedRing F]

/-- The quadratic form of the matrix takes no negative value. -/
def IsNonneg (m : Mat F) : Prop := ∀ v, 0 ≤ m.form v v

/-- The matrix is symmetric and its quadratic form takes no negative value. -/
structure PosSemidef (m : Mat F) : Prop where
  /-- The matrix is its own transpose. -/
  symmetric : m.transpose = m
  /-- The quadratic form is never negative. -/
  nonneg : m.IsNonneg

/-- A semidefinite matrix with an entry other than zero has a positive value: its form is recovered
from its values at single vectors. -/
theorem PosSemidef.exists_pos {m : Mat F} (h : m.PosSemidef) {i j : ℕ} (hij : m.get i j ≠ 0) :
    ∃ v, 0 < m.form v v := by
  by_contra hall
  have hzero : ∀ v, m.form v v = 0 := by
    intro v
    exact le_antisymm (not_lt.mp fun hv => hall ⟨v, hv⟩) (h.nonneg v)
  have hsymm : m.get j i = m.get i j := by rw [← get_transpose, h.symmetric]
  have hsum := hzero (Pi.single i 1 + Pi.single j 1)
  simp only [map_add, LinearMap.add_apply, form_single, hsymm] at hsum
  have hi := hzero (Pi.single i 1)
  have hj := hzero (Pi.single j 1)
  rw [form_single] at hi hj
  exact hij (by linarith)

end Order

end StudyPower.Mat
