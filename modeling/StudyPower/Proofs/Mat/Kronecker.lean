import StudyPower.Proofs.Mat.Product
import Mathlib.Algebra.BigOperators.Intervals
import Mathlib.Algebra.Field.Defs

/-!
# Kronecker products

The entries of a Kronecker product are read by the quotients and the remainders of the indices, so
that a position in a product of several matrices is a mixed-radix numeral whose last digit varies
fastest.

## Main statements

* `Mat.get_kron` — the entries, at any position.
* `Mat.kron_assoc`, `Mat.kronAll_append` — a chain of products may be bracketed at will.
* `Mat.kron_mul_kron` — **products of Kronecker products are taken factor by factor.**
* `Mat.IsRightInverse.kronAll` — a Kronecker product of matrices with right inverses has one.
* `Mat.symmetricPart_kron` — a symmetric factor does not take part in making a product symmetric.
-/

namespace StudyPower

open Finset

/-! ### Sums over two digits -/

section Digits

variable {M : Type*} [AddCommMonoid M]

/-- A sum over numerals of two digits, the second below `n`. -/
theorem sum_range_mul (m n : ℕ) (f : ℕ → M) :
    ∑ k ∈ range (m * n), f k = ∑ i ∈ range m, ∑ j ∈ range n, f (i * n + j) := by
  induction m with
  | zero => simp
  | succ m ih => rw [Nat.succ_mul, sum_range_add, ih, sum_range_succ]

/-- The digits of a numeral. -/
theorem digits_of_lt {i j n : ℕ} (hj : j < n) : (i * n + j) / n = i ∧ (i * n + j) % n = j := by
  rw [Nat.add_comm, Nat.add_mul_div_right _ _ (by omega), Nat.add_mul_mod_self_right]
  exact ⟨by rw [Nat.div_eq_of_lt hj, Nat.zero_add], Nat.mod_eq_of_lt hj⟩

theorem numeral_lt {i j m n : ℕ} (hi : i < m) (hj : j < n) : i * n + j < m * n := by
  calc i * n + j < i * n + n := by omega
    _ = (i + 1) * n := by rw [Nat.succ_mul]
    _ ≤ m * n := Nat.mul_le_mul_right n hi

/-- A sum over numerals of two digits in which only the digits occur. -/
theorem sum_range_digits (m n : ℕ) (f : ℕ → ℕ → M) :
    ∑ k ∈ range (m * n), f (k / n) (k % n) = ∑ i ∈ range m, ∑ j ∈ range n, f i j := by
  rw [sum_range_mul]
  refine sum_congr rfl fun i _ => sum_congr rfl fun j hj => ?_
  obtain ⟨hdiv, hmod⟩ := digits_of_lt (i := i) (mem_range.mp hj)
  rw [hdiv, hmod]

end Digits

namespace Mat

variable {R : Type*}

@[simp] theorem rows_kron [Zero R] [Mul R] (a b : Mat R) : (a.kron b).rows = a.rows * b.rows := rfl

@[simp] theorem cols_kron [Zero R] [Mul R] (a b : Mat R) : (a.kron b).cols = a.cols * b.cols := rfl

/-! ### Sizes

The sizes of a product do not depend on the laws of the entries. -/

section Sizes

variable [Zero R] [Mul R]

theorem rows_foldl_kron (m : Mat R) (ms : List (Mat R)) :
    (ms.foldl kron m).rows = m.rows * (ms.map rows).prod := by
  induction ms generalizing m with
  | nil => rw [List.foldl_nil, List.map_nil, List.prod_nil, Nat.mul_one]
  | cons x ms ih =>
    rw [List.foldl_cons, ih, rows_kron, List.map_cons, List.prod_cons, Nat.mul_assoc]

theorem cols_foldl_kron (m : Mat R) (ms : List (Mat R)) :
    (ms.foldl kron m).cols = m.cols * (ms.map cols).prod := by
  induction ms generalizing m with
  | nil => rw [List.foldl_nil, List.map_nil, List.prod_nil, Nat.mul_one]
  | cons x ms ih =>
    rw [List.foldl_cons, ih, cols_kron, List.map_cons, List.prod_cons, Nat.mul_assoc]

theorem rows_kronAll [One R] (ms : List (Mat R)) : (kronAll ms).rows = (ms.map rows).prod := by
  rw [kronAll, rows_foldl_kron, rows_filled, Nat.one_mul]

theorem cols_kronAll [One R] (ms : List (Mat R)) : (kronAll ms).cols = (ms.map cols).prod := by
  rw [kronAll, cols_foldl_kron, cols_filled, Nat.one_mul]

end Sizes

variable [CommSemiring R]

/-! ### Two factors -/

theorem get_kron (a b : Mat R) (i j : ℕ) :
    (a.kron b).get i j =
      a.get (i / b.rows) (j / b.cols) * b.get (i % b.rows) (j % b.cols) := by
  refine (get_ofFn_eq _ _ _ _ _).trans ?_
  split
  · rfl
  · next h =>
    rw [not_and_or, not_lt, not_lt] at h
    -- one of the two factors lies outside its matrix
    rcases h with h | h
    · rcases Nat.eq_zero_or_pos b.rows with hb | hb
      · rw [get_eq_zero_of_rows_le (m := b) _ (by omega), mul_zero]
      · rw [get_eq_zero_of_rows_le (m := a) _ ((Nat.le_div_iff_mul_le hb).mpr h), zero_mul]
    · rcases Nat.eq_zero_or_pos b.cols with hb | hb
      · rw [get_eq_zero_of_cols_le (m := b) _ (by omega), mul_zero]
      · rw [get_eq_zero_of_cols_le (m := a) _ ((Nat.le_div_iff_mul_le hb).mpr h), zero_mul]

theorem kron_assoc (a b c : Mat R) : (a.kron b).kron c = a.kron (b.kron c) := by
  refine ext_get (Nat.mul_assoc _ _ _) (Nat.mul_assoc _ _ _) fun i j _ _ => ?_
  rw [get_kron, get_kron, get_kron a, get_kron b c, rows_kron, cols_kron, mul_assoc,
    Nat.div_div_eq_div_mul, Nat.div_div_eq_div_mul, Nat.mul_comm c.rows, Nat.mul_comm c.cols,
    Nat.mod_mul_left_div_self, Nat.mod_mul_left_div_self, Nat.mod_mul_left_mod,
    Nat.mod_mul_left_mod]

/-- The entries of a product of three factors, at the three digits of the row and of the column. -/
theorem get_kron_kron (a b c : Mat R) (i j : ℕ) :
    (a.kron (b.kron c)).get i j =
      a.get (i / (b.rows * c.rows)) (j / (b.cols * c.cols)) *
        b.get (i / c.rows % b.rows) (j / c.cols % b.cols) * c.get (i % c.rows) (j % c.cols) := by
  rw [get_kron, get_kron, rows_kron, cols_kron, Nat.mod_mul_left_div_self,
    Nat.mod_mul_left_div_self, Nat.mod_mul_left_mod, Nat.mod_mul_left_mod, mul_assoc]

@[simp] theorem one_kron (m : Mat R) : (filled 1 1 1).kron m = m := by
  refine ext_get (Nat.one_mul _) (Nat.one_mul _) fun i j hi hj => ?_
  rw [rows_kron, rows_filled, Nat.one_mul] at hi
  rw [cols_kron, cols_filled, Nat.one_mul] at hj
  rw [get_kron, Nat.div_eq_of_lt hi, Nat.div_eq_of_lt hj, Nat.mod_eq_of_lt hi, Nat.mod_eq_of_lt hj,
    get_filled 1 Nat.one_pos Nat.one_pos, one_mul]

/-- A factor of one entry multiplies the other factor by that entry. -/
theorem kron_of_shape_one {a : Mat R} (hrows : a.rows = 1) (hcols : a.cols = 1) (m : Mat R) :
    a.kron m = a.get 0 0 • m := by
  refine ext_get ?_ ?_ fun i j hi hj => ?_
  · rw [rows_kron, hrows, Nat.one_mul, rows_smul]
  · rw [cols_kron, hcols, Nat.one_mul, cols_smul]
  · rw [rows_kron, hrows, Nat.one_mul] at hi
    rw [cols_kron, hcols, Nat.one_mul] at hj
    rw [get_kron, get_smul, Nat.div_eq_of_lt hi, Nat.div_eq_of_lt hj, Nat.mod_eq_of_lt hi,
      Nat.mod_eq_of_lt hj]

@[simp] theorem kron_one (m : Mat R) : m.kron (filled 1 1 1) = m := by
  refine ext_get (Nat.mul_one _) (Nat.mul_one _) fun i j _ _ => ?_
  rw [get_kron, rows_filled, cols_filled, Nat.div_one, Nat.div_one, Nat.mod_one, Nat.mod_one,
    get_filled 1 Nat.one_pos Nat.one_pos, mul_one]

@[simp] theorem transpose_kron (a b : Mat R) :
    (a.kron b).transpose = a.transpose.kron b.transpose := by
  refine ext_get rfl rfl fun i j _ _ => ?_
  rw [get_transpose, get_kron, get_kron, get_transpose, get_transpose, rows_transpose,
    cols_transpose]

theorem filled_kron_filled (r c r' c' : ℕ) (x y : R) :
    (filled r c x).kron (filled r' c' y) = filled (r * r') (c * c') (x * y) := by
  refine ext_get rfl rfl fun i j hi hj => ?_
  have hi' : i < r * r' := hi
  have hj' : j < c * c' := hj
  have hr' : 0 < r' := Nat.pos_of_mul_pos_left (Nat.lt_of_le_of_lt i.zero_le hi')
  have hc' : 0 < c' := Nat.pos_of_mul_pos_left (Nat.lt_of_le_of_lt j.zero_le hj')
  rw [get_kron, rows_filled, cols_filled, get_filled _ hi' hj',
    get_filled _ (Nat.div_lt_of_lt_mul (Nat.mul_comm r r' ▸ hi'))
      (Nat.div_lt_of_lt_mul (Nat.mul_comm c c' ▸ hj')),
    get_filled _ (Nat.mod_lt _ hr') (Nat.mod_lt _ hc')]

theorem identity_kron_identity (m n : ℕ) :
    (identity m : Mat R).kron (identity n) = identity (m * n) := by
  refine ext_get rfl rfl fun i j hi hj => ?_
  have hi' : i < m * n := hi
  have hj' : j < m * n := hj
  have hn : 0 < n := Nat.pos_of_mul_pos_left (Nat.lt_of_le_of_lt i.zero_le hi')
  rw [get_kron, rows_identity, cols_identity, get_identity hi' hj',
    get_identity (Nat.div_lt_of_lt_mul (Nat.mul_comm m n ▸ hi'))
      (Nat.div_lt_of_lt_mul (Nat.mul_comm m n ▸ hj')),
    get_identity (Nat.mod_lt _ hn) (Nat.mod_lt _ hn)]
  -- two numerals are equal when both digits are
  by_cases h : i = j
  · rw [h, if_pos rfl, if_pos rfl, if_pos rfl, one_mul]
  · rw [if_neg h]
    by_cases hdiv : i / n = j / n
    · have hmod : i % n ≠ j % n := by
        intro hmod
        rw [← Nat.div_add_mod i n, ← Nat.div_add_mod j n, hdiv, hmod] at h
        exact h rfl
      rw [if_neg hmod, mul_zero]
    · rw [if_neg hdiv, zero_mul]

/-- **Products of Kronecker products are taken factor by factor**, as long as the second factors
fit. -/
theorem kron_mul_kron (a c : Mat R) {b d : Mat R} (h : b.cols = d.rows) :
    a.kron b * c.kron d = (a * c).kron (b * d) := by
  refine ext_get rfl rfl fun i j _ _ => ?_
  rw [get_kron, get_mul, get_mul, get_mul, cols_kron, rows_mul, cols_mul, sum_mul_sum,
    ← sum_range_digits]
  refine sum_congr rfl fun k _ => ?_
  rw [get_kron, get_kron, h, mul_mul_mul_comm]

theorem total_kron (a b : Mat R) : (a.kron b).total = a.total * b.total := by
  unfold total
  calc ∑ i ∈ range (a.rows * b.rows), ∑ j ∈ range (a.cols * b.cols), (a.kron b).get i j
      = ∑ i ∈ range (a.rows * b.rows), (∑ j ∈ range a.cols, a.get (i / b.rows) j) *
          ∑ j ∈ range b.cols, b.get (i % b.rows) j := by
        refine sum_congr rfl fun i _ => ?_
        rw [sum_mul_sum, ← sum_range_digits]
        exact sum_congr rfl fun j _ => get_kron a b i j
    _ = _ := by
        rw [sum_mul_sum]
        exact sum_range_digits a.rows b.rows fun i k =>
          (∑ j ∈ range a.cols, a.get i j) * ∑ j ∈ range b.cols, b.get k j

/-- The Kronecker product of right inverses is one. -/
theorem IsRightInverse.kron {a b c d : Mat R} (hab : a.IsRightInverse b)
    (hcd : c.IsRightInverse d) : (a.kron c).IsRightInverse (b.kron d) := by
  obtain ⟨hb, hab⟩ := hab
  obtain ⟨hd, hcd⟩ := hcd
  refine ⟨?_, ?_⟩
  · rw [rows_kron, cols_kron, hb, hd]
  · rw [kron_mul_kron a b hd.symm, hab, hcd, identity_kron_identity, rows_kron]

/-! ### Any number of factors -/

theorem foldl_kron (m : Mat R) (ms : List (Mat R)) : ms.foldl kron m = m.kron (kronAll ms) := by
  unfold kronAll
  induction ms generalizing m with
  | nil => rw [List.foldl_nil, List.foldl_nil, kron_one]
  | cons x ms ih =>
    rw [List.foldl_cons, List.foldl_cons, ih, ih ((filled 1 1 1).kron x), kron_assoc, one_kron]

@[simp] theorem kronAll_nil : kronAll ([] : List (Mat R)) = filled 1 1 1 := rfl

@[simp] theorem kronAll_cons (m : Mat R) (ms : List (Mat R)) :
    kronAll (m :: ms) = m.kron (kronAll ms) := by
  rw [kronAll, List.foldl_cons, one_kron, foldl_kron]

theorem kronAll_append (ms ns : List (Mat R)) :
    kronAll (ms ++ ns) = (kronAll ms).kron (kronAll ns) := by
  induction ms with
  | nil => rw [List.nil_append, kronAll_nil, one_kron]
  | cons m ms ih => rw [List.cons_append, kronAll_cons, kronAll_cons, ih, kron_assoc]

theorem transpose_kronAll (ms : List (Mat R)) :
    (kronAll ms).transpose = kronAll (ms.map transpose) := by
  induction ms with
  | nil => rw [List.map_nil, kronAll_nil, transpose_filled]
  | cons m ms ih => rw [kronAll_cons, transpose_kron, ih, List.map_cons, kronAll_cons]

theorem total_kronAll (ms : List (Mat R)) : (kronAll ms).total = (ms.map total).prod := by
  induction ms with
  | nil => simp [total, get_filled]
  | cons m ms ih => rw [kronAll_cons, total_kron, ih, List.map_cons, List.prod_cons]

/-- A Kronecker product of matrices with right inverses has one. -/
theorem IsRightInverse.kronAll {ms ns : List (Mat R)} (h : List.Forall₂ IsRightInverse ms ns) :
    (kronAll ms).IsRightInverse (Mat.kronAll ns) := by
  induction h with
  | nil =>
    refine ⟨rfl, ext_get rfl rfl fun i j hi hj => ?_⟩
    obtain rfl : i = 0 := Nat.lt_one_iff.mp hi
    obtain rfl : j = 0 := Nat.lt_one_iff.mp hj
    simp [get_mul, get_filled, get_identity]
  | cons hm _ ih =>
    rw [kronAll_cons, kronAll_cons]
    exact hm.kron ih

/-! ### Symmetry -/

/-- Making a Kronecker product symmetric only changes its second factor when the first one is
symmetric. -/
theorem symmetricPart_kron {F : Type*} [Field F] {a b : Mat F} (ha : a.transpose = a)
    (hb : b.rows = b.cols) : (a.kron b).symmetricPart = a.kron b.symmetricPart := by
  have hsquare : a.rows = a.cols := congrArg Mat.cols ha
  refine ext_get rfl rfl fun i j hi hj => ?_
  have hi' : i < a.rows * b.rows := hi
  have hj' : j < a.cols * b.cols := hj
  have hrows : 0 < b.rows := Nat.pos_of_mul_pos_left (Nat.lt_of_le_of_lt i.zero_le hi')
  have hcols : 0 < b.cols := hb ▸ hrows
  have hentry : a.get (j / b.cols) (i / b.rows) = a.get (i / b.rows) (j / b.cols) := by
    rw [← get_transpose, ha]
  rw [get_symmetricPart hi' hj', get_kron, get_kron, get_kron, rows_symmetricPart,
    cols_symmetricPart, get_symmetricPart (Nat.mod_lt _ hrows) (Nat.mod_lt _ hcols), ← hentry, hb,
    ← mul_add, mul_div_assoc]

end Mat

end StudyPower
