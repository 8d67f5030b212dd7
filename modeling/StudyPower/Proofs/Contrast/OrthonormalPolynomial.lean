import Mathlib
import StudyPower.Contrast.Polynomial
import StudyPower.Proofs.Mat.Product

/-!
# Orthonormal polynomials at points

The columns of the orthonormal factor of a matrix of powers are the values of polynomials, one of
each degree, because the triangular factor only lets a column use the powers up to its own.  The
points are distinct, so no diagonal entry of the triangular factor is zero: the power of a column
would otherwise be a polynomial of lower degree at all points.  With the signs of the diagonal taken
back, the leading coefficients are positive, and that leaves no choice.

## Main definitions

* `IsOrthonormalPolynomial xs d v` — `v` are the values at the points `xs` of a polynomial of degree
  `d` with a positive leading coefficient, of unit length, and orthogonal to all lower degrees.
* `Mat.IsFactorization V Q R` — `V` is the product of `Q` with orthonormal columns and `R`, which is
  upper triangular.

## Main statements

* `IsOrthonormalPolynomial.eq` — there is only one such polynomial at the points.
* `IsOrthonormalPolynomial.of_affine` — the polynomials at points that are moved and scaled up are
  the polynomials at the points.
* `exists_polynomial_of_isFactorization` — the columns of an orthonormal factor are polynomials.
* `isOrthonormalPolynomial_of_isFactorization` — **with their signs, they are the orthonormal
  polynomials.**
-/

namespace StudyPower

open Mat Finset

variable {F : Type*} [Field F]

/-! ### Polynomials at points -/

section Order

variable [LinearOrder F]

/-- The values `v` at the points `xs` are those of the orthonormal polynomial of degree `d`. -/
structure IsOrthonormalPolynomial (xs : List F) (d : ℕ) (v : ℕ → F) : Prop where
  /-- They are the values of a polynomial of that degree, with a positive leading coefficient. -/
  exists_polynomial : ∃ p : Polynomial F, p.natDegree = d ∧ 0 < p.leadingCoeff ∧
    ∀ j < xs.length, v j = p.eval (xs.getD j 0)
  /-- They have unit length. -/
  unit : ∑ j ∈ range xs.length, v j * v j = 1
  /-- They are orthogonal to the values of every polynomial of lower degree. -/
  orthogonal : ∀ p : Polynomial F, p.natDegree < d →
    ∑ j ∈ range xs.length, v j * p.eval (xs.getD j 0) = 0

/-- Of two polynomials of one degree, the second can be scaled to leave a lower degree. -/
theorem exists_degree_sub_lt [IsStrictOrderedRing F] {p q : Polynomial F} {d : ℕ}
    (hp : p.natDegree = d) (hplead : 0 < p.leadingCoeff) (hq : q.natDegree = d)
    (hqlead : 0 < q.leadingCoeff) : ∃ c : F, 0 < c ∧ (p - Polynomial.C c * q).degree < d := by
  set c := p.leadingCoeff / q.leadingCoeff with hc
  have hcpos : 0 < c := div_pos hplead hqlead
  have hscaled : (Polynomial.C c * q).leadingCoeff = p.leadingCoeff := by
    rw [Polynomial.leadingCoeff_mul, Polynomial.leadingCoeff_C, hc, div_mul_cancel₀ _ hqlead.ne']
  have hpne : p ≠ 0 := Polynomial.leadingCoeff_ne_zero.mp hplead.ne'
  have hqne : Polynomial.C c * q ≠ 0 :=
    Polynomial.leadingCoeff_ne_zero.mp (hscaled.symm ▸ hplead.ne')
  have hdegree : p.degree = (Polynomial.C c * q).degree := by
    rw [Polynomial.degree_eq_natDegree hpne, Polynomial.degree_eq_natDegree hqne,
      Polynomial.natDegree_C_mul hcpos.ne', hp, hq]
  refine ⟨c, hcpos, ?_⟩
  rw [← hp, ← Polynomial.degree_eq_natDegree hpne]
  exact Polynomial.degree_sub_lt_left hdegree hpne hscaled.symm

namespace IsOrthonormalPolynomial

variable {xs : List F} {d : ℕ} {v w : ℕ → F}

theorem congr (h : IsOrthonormalPolynomial xs d v) (hsame : ∀ j < xs.length, v j = w j) :
    IsOrthonormalPolynomial xs d w where
  exists_polynomial := by
    obtain ⟨p, hdegree, hlead, hp⟩ := h.exists_polynomial
    exact ⟨p, hdegree, hlead, fun j hj => (hsame j hj).symm.trans (hp j hj)⟩
  unit := by
    rw [← h.unit]
    exact sum_congr rfl fun j hj => by rw [hsame j (mem_range.mp hj)]
  orthogonal := by
    intro p hp
    refine (sum_congr rfl fun j hj => ?_).trans (h.orthogonal p hp)
    rw [hsame j (mem_range.mp hj)]

/-- The zero polynomial counts as one of lower degree, also below degree zero. -/
theorem orthogonal_of_degree_lt (h : IsOrthonormalPolynomial xs d v) {p : Polynomial F}
    (hp : p.degree < d) : ∑ j ∈ range xs.length, v j * p.eval (xs.getD j 0) = 0 := by
  rcases eq_or_ne p 0 with rfl | hne
  · exact sum_eq_zero fun j _ => by rw [Polynomial.eval_zero, mul_zero]
  · exact h.orthogonal p ((Polynomial.natDegree_lt_iff_degree_lt hne).mpr hp)

/-- Polynomials of different degrees are orthogonal. -/
theorem orthogonal_of_lt {e : ℕ} (h : IsOrthonormalPolynomial xs d v)
    (h' : IsOrthonormalPolynomial xs e w) (hlt : e < d) :
    ∑ j ∈ range xs.length, v j * w j = 0 := by
  obtain ⟨p, hdegree, -, hp⟩ := h'.exists_polynomial
  rw [← h.orthogonal p (hdegree.symm ▸ hlt)]
  exact sum_congr rfl fun j hj => by rw [hp j (mem_range.mp hj)]

theorem orthogonal_of_ne {e : ℕ} (h : IsOrthonormalPolynomial xs d v)
    (h' : IsOrthonormalPolynomial xs e w) (hne : e ≠ d) :
    ∑ j ∈ range xs.length, v j * w j = 0 := by
  rcases Nat.lt_or_gt_of_ne hne with hlt | hgt
  · exact h.orthogonal_of_lt h' hlt
  · rw [← h'.orthogonal_of_lt h hgt]
    exact sum_congr rfl fun j _ => mul_comm _ _

/-- Above degree zero, the values add up to zero. -/
theorem sum_eq_zero (h : IsOrthonormalPolynomial xs d v) (hd : 0 < d) :
    ∑ j ∈ range xs.length, v j = 0 := by
  rw [← h.orthogonal 1 (by rwa [Polynomial.natDegree_one])]
  exact sum_congr rfl fun j _ => by rw [Polynomial.eval_one, mul_one]

variable [IsStrictOrderedRing F]

/-- Two orthonormal polynomials of one degree are multiples of each other: brought to the same
leading coefficient, they differ by a polynomial of lower degree, to which both are orthogonal. -/
theorem exists_scale (h : IsOrthonormalPolynomial xs d v) (h' : IsOrthonormalPolynomial xs d w) :
    ∃ c, 0 < c ∧ ∀ j < xs.length, v j = c * w j := by
  obtain ⟨p, hp, hplead, hv⟩ := h.exists_polynomial
  obtain ⟨q, hq, hqlead, hw⟩ := h'.exists_polynomial
  obtain ⟨c, hc, hlower⟩ := exists_degree_sub_lt hp hplead hq hqlead
  set r := p - Polynomial.C c * q with hr
  have hvalue : ∀ j < xs.length, v j - c * w j = r.eval (xs.getD j 0) := by
    intro j hj
    rw [hr, Polynomial.eval_sub, Polynomial.eval_mul, Polynomial.eval_C, hv j hj, hw j hj]
  have hdistance : ∑ j ∈ range xs.length, (v j - c * w j) * (v j - c * w j) = 0 := by
    calc ∑ j ∈ range xs.length, (v j - c * w j) * (v j - c * w j)
        = ∑ j ∈ range xs.length,
            (v j * r.eval (xs.getD j 0) - c * (w j * r.eval (xs.getD j 0))) := by
          refine sum_congr rfl fun j hj => ?_
          rw [← hvalue j (mem_range.mp hj)]
          ring
      _ = 0 := by
          rw [sum_sub_distrib, ← mul_sum, h.orthogonal_of_degree_lt hlower,
            h'.orthogonal_of_degree_lt hlower, mul_zero, sub_zero]
  refine ⟨c, hc, fun j hj => ?_⟩
  have hterm := (sum_eq_zero_iff_of_nonneg fun j _ => mul_self_nonneg (v j - c * w j)).mp hdistance
    j (mem_range.mpr hj)
  exact sub_eq_zero.mp (mul_self_eq_zero.mp hterm)

/-- There is only one orthonormal polynomial of each degree at the points. -/
theorem eq (h : IsOrthonormalPolynomial xs d v) (h' : IsOrthonormalPolynomial xs d w) :
    ∀ j < xs.length, v j = w j := by
  obtain ⟨c, hc, hscale⟩ := h.exists_scale h'
  -- both have unit length, so the scale is one
  have hsquare : c * c = 1 := by
    rw [← h.unit, ← mul_one (c * c), ← h'.unit, mul_sum]
    refine sum_congr rfl fun j hj => ?_
    rw [hscale j (mem_range.mp hj)]
    ring
  have hone : c = 1 := (mul_self_eq_one_iff.mp hsquare).resolve_right (by linarith)
  intro j hj
  rw [hscale j hj, hone, one_mul]

/-- Moving the points and scaling them up does not change the polynomials at them. -/
theorem of_affine {ys : List F} (h : IsOrthonormalPolynomial ys d v) {a b : F} (ha : 0 < a)
    (hys : ys = xs.map fun x => a * x + b) : IsOrthonormalPolynomial xs d v := by
  subst hys
  have hlength : (xs.map fun x => a * x + b).length = xs.length := List.length_map _
  have hpoint : ∀ j < xs.length,
      (xs.map fun x => a * x + b).getD j 0 = a * xs.getD j 0 + b := by
    intro j hj
    rw [List.getD_eq_getElem _ _ (hlength.symm ▸ hj), List.getD_eq_getElem _ _ hj, List.getElem_map]
  have hdegree : ∀ {c e : F}, c ≠ 0 →
      (Polynomial.C c * Polynomial.X + Polynomial.C e).natDegree = 1 :=
    fun hc => Polynomial.natDegree_linear hc
  refine ⟨?_, by rw [← h.unit, hlength], ?_⟩
  · obtain ⟨p, hp, hlead, hv⟩ := h.exists_polynomial
    refine ⟨p.comp (Polynomial.C a * Polynomial.X + Polynomial.C b), ?_, ?_, fun j hj => ?_⟩
    · rw [Polynomial.natDegree_comp, hdegree ha.ne', mul_one, hp]
    · rw [Polynomial.leadingCoeff_comp (by rw [hdegree ha.ne']; exact one_ne_zero),
        Polynomial.leadingCoeff_linear ha.ne']
      exact mul_pos hlead (pow_pos ha _)
    · rw [hv j (hlength.symm ▸ hj), hpoint j hj]
      simp
  · intro p hp
    -- a polynomial at the points is one of the same degree at the moved points
    have hmoved := h.orthogonal
      (p.comp (Polynomial.C a⁻¹ * Polynomial.X + Polynomial.C (-(b / a))))
      (by rwa [Polynomial.natDegree_comp, hdegree (inv_ne_zero ha.ne'), mul_one])
    rw [hlength] at hmoved
    refine (sum_congr rfl fun j hj => ?_).trans hmoved
    have hback : a⁻¹ * (a * xs.getD j 0 + b) + -(b / a) = xs.getD j 0 := by
      field_simp
      ring
    rw [hpoint j (mem_range.mp hj), Polynomial.eval_comp, Polynomial.eval_add, Polynomial.eval_mul,
      Polynomial.eval_C, Polynomial.eval_X, Polynomial.eval_C, hback]

end IsOrthonormalPolynomial

end Order

/-! ### Factorizations -/

/-- The matrix `V` is the product of `Q`, whose columns are orthonormal, and `R`, which is upper
triangular, with a row and a column for each column of `V`. -/
structure Mat.IsFactorization (V Q R : Mat F) : Prop where
  /-- The product is the matrix. -/
  product : Q * R = V
  /-- The columns of the first factor are orthonormal. -/
  orthonormal : Q.transpose * Q = identity V.cols
  /-- The second factor has a row for each column. -/
  rows : R.rows = V.cols
  /-- Below its diagonal there are zeros. -/
  triangular : ∀ i < V.cols, ∀ j < i, R.get i j = 0

namespace Mat.IsFactorization

variable {V Q R : Mat F}

theorem rows_left (h : IsFactorization V Q R) : Q.rows = V.rows := by rw [← h.product, rows_mul]

theorem cols_left (h : IsFactorization V Q R) : Q.cols = V.cols := by
  rw [← cols_mul Q.transpose Q, h.orthonormal, cols_identity]

/-- The inner products of the orthonormal columns. -/
theorem sum_mul_self (h : IsFactorization V Q R) {i j : ℕ} (hi : i < V.cols) (hj : j < V.cols) :
    ∑ k ∈ range V.rows, Q.get k i * Q.get k j = if i = j then 1 else 0 := by
  rw [← get_identity hi hj, ← h.orthonormal, get_mul, cols_transpose, h.rows_left]
  exact sum_congr rfl fun k _ => by rw [get_transpose]

/-- A column of the matrix is a combination of the orthonormal columns up to its own. -/
theorem get_eq (h : IsFactorization V Q R) {j : ℕ} (hj : j < V.cols) (i : ℕ) :
    V.get i j = (∑ e ∈ range j, R.get e j * Q.get i e) + Q.get i j * R.get j j := by
  have hupper : ∀ e ∈ range V.cols, e ∉ range (j + 1) → Q.get i e * R.get e j = 0 := by
    intro e he hlarge
    rw [mem_range] at he hlarge
    rw [h.triangular e he j (by omega), mul_zero]
  rw [← h.product, get_mul, h.cols_left,
    ← sum_subset (range_mono (Nat.succ_le_of_lt hj)) hupper, sum_range_succ]
  exact congrArg (· + _) (sum_congr rfl fun e _ => mul_comm _ _)

/-- The triangular factor holds the inner products of the orthonormal columns with the columns of
the matrix. -/
theorem sum_mul_get (h : IsFactorization V Q R) {i j : ℕ} (hi : i < V.cols) :
    ∑ k ∈ range V.rows, Q.get k i * V.get k j = R.get i j := by
  have hcolumn : ∀ k, V.get k j = ∑ e ∈ range V.cols, Q.get k e * R.get e j := by
    intro k
    rw [← h.cols_left, ← get_mul, h.product]
  calc ∑ k ∈ range V.rows, Q.get k i * V.get k j
      = ∑ e ∈ range V.cols, (∑ k ∈ range V.rows, Q.get k i * Q.get k e) * R.get e j := by
        simp only [hcolumn, mul_sum, sum_mul, mul_assoc]
        exact sum_comm
    _ = ∑ e ∈ range V.cols, (if i = e then 1 else 0) * R.get e j :=
        sum_congr rfl fun e he => by rw [h.sum_mul_self hi (mem_range.mp he)]
    _ = R.get i j := by simp [hi]

/-- The signs of the factors are free. -/
theorem neg (h : IsFactorization V Q R) : IsFactorization V (Q.map (-·)) (R.map (-·)) where
  product := by rw [map_neg_mul_map_neg, h.product]
  orthonormal := by
    have htranspose : (Q.map (-·)).transpose = Q.transpose.map (-·) := by
      refine ext_get rfl rfl fun i j _ _ => ?_
      rw [get_transpose, get_map_neg, get_map_neg, get_transpose]
    rw [htranspose, map_neg_mul_map_neg, h.orthonormal]
  rows := h.rows
  triangular := by
    intro i hi j hj
    rw [get_map_neg, h.triangular i hi j hj, neg_zero]

end Mat.IsFactorization

/-! ### Factors of powers -/

section Powers

variable {xs : List F} {V Q R : Mat F}

/-- The matrix has the powers of one point in each row. -/
structure IsPowers (xs : List F) (V : Mat F) : Prop where
  /-- There is a row for each point. -/
  rows : V.rows = xs.length
  /-- There is a column for each power. -/
  cols : V.cols = xs.length
  /-- The entries are the powers. -/
  get : ∀ i < xs.length, ∀ j < xs.length, V.get i j = xs.getD i 0 ^ j

/-- A polynomial has too few roots to vanish at more distinct points than its degree. -/
theorem exists_eval_ne_zero (hdistinct : xs.Nodup) {p : Polynomial F} (hp : p ≠ 0)
    (hdegree : p.natDegree < xs.length) : ∃ i < xs.length, p.eval (xs.getD i 0) ≠ 0 := by
  classical
  by_contra! hvanish
  have hroots : ∀ x ∈ xs.toFinset, p.eval x = 0 := by
    intro x hx
    obtain ⟨i, hi, rfl⟩ := List.mem_iff_getElem.mp (List.mem_toFinset.mp hx)
    rw [← List.getD_eq_getElem xs 0 hi, hvanish i hi]
  refine hp (Polynomial.eq_zero_of_natDegree_lt_card_of_eval_eq_zero' _ _ hroots ?_)
  rwa [List.toFinset_card_of_nodup hdistinct]

/-- At distinct points, a column of the orthonormal factor holds the values of a polynomial whose
degree is the place of the column, and whose leading coefficient undoes the diagonal entry of the
triangular factor. -/
theorem exists_polynomial_of_isFactorization (hdistinct : xs.Nodup) (hV : IsPowers xs V)
    (h : V.IsFactorization Q R) (d : ℕ) (hd : d < xs.length) :
    ∃ p : Polynomial F, p.natDegree = d ∧ p.leadingCoeff * R.get d d = 1 ∧
      ∀ i < xs.length, Q.get i d = p.eval (xs.getD i 0) := by
  induction d using Nat.strong_induction_on with
  | h d ih =>
  choose! p hp using fun e (he : e < d) => ih e he (he.trans hd)
  -- the power without its components along the earlier columns
  set lower : Polynomial F := ∑ e ∈ range d, R.get e d • p e with hlower
  have hdegree : lower.degree < d := by
    refine Polynomial.mem_degreeLT.mp (Submodule.sum_mem _ fun e he => Submodule.smul_mem _ _ ?_)
    have hlt := mem_range.mp he
    refine Polynomial.mem_degreeLT.mpr (Polynomial.degree_le_natDegree.trans_lt ?_)
    rw [(hp e hlt).1]
    exact_mod_cast hlt
  have hmonic : (Polynomial.X ^ d - lower).Monic := Polynomial.monic_X_pow_sub hdegree
  have hnatDegree : (Polynomial.X ^ d - lower).natDegree = d := by
    refine Polynomial.natDegree_eq_of_degree_eq_some ?_
    rw [Polynomial.degree_sub_eq_left_of_degree_lt (by rwa [Polynomial.degree_X_pow]),
      Polynomial.degree_X_pow]
  have hvalue : ∀ i < xs.length,
      (Polynomial.X ^ d - lower).eval (xs.getD i 0) = Q.get i d * R.get d d := by
    intro i hi
    have hcolumn := h.get_eq (hV.cols.symm ▸ hd) i
    rw [hV.get i hi d hd] at hcolumn
    have hearlier : lower.eval (xs.getD i 0) = ∑ e ∈ range d, R.get e d * Q.get i e := by
      rw [hlower, Polynomial.eval_finsetSum]
      refine sum_congr rfl fun e he => ?_
      rw [Polynomial.eval_smul, smul_eq_mul, (hp e (mem_range.mp he)).2.2 i hi]
    rw [Polynomial.eval_sub, Polynomial.eval_pow, Polynomial.eval_X, hcolumn, hearlier,
      add_sub_cancel_left]
  have hdiagonal : R.get d d ≠ 0 := by
    intro hzero
    obtain ⟨i, hi, hne⟩ := exists_eval_ne_zero hdistinct hmonic.ne_zero (hnatDegree.trans_lt hd)
    exact hne (by rw [hvalue i hi, hzero, mul_zero])
  refine ⟨Polynomial.C (R.get d d)⁻¹ * (Polynomial.X ^ d - lower), ?_, ?_, fun i hi => ?_⟩
  · rw [Polynomial.natDegree_C_mul (inv_ne_zero hdiagonal), hnatDegree]
  · rw [Polynomial.leadingCoeff_mul, Polynomial.leadingCoeff_C, hmonic.leadingCoeff, mul_one,
      inv_mul_cancel₀ hdiagonal]
  · rw [Polynomial.eval_mul, Polynomial.eval_C, hvalue i hi, mul_comm, mul_assoc,
      mul_inv_cancel₀ hdiagonal, mul_one]

/-- A column of the orthonormal factor is orthogonal to every polynomial of lower degree. -/
theorem sum_mul_eval_of_isFactorization (hV : IsPowers xs V) (h : V.IsFactorization Q R) {d : ℕ}
    (hd : d < xs.length) {p : Polynomial F} (hp : p.natDegree < d) :
    ∑ i ∈ range xs.length, Q.get i d * p.eval (xs.getD i 0) = 0 := by
  have hvalue : ∀ i ∈ range xs.length, Q.get i d * p.eval (xs.getD i 0) =
      ∑ j ∈ range d, p.coeff j * (Q.get i d * V.get i j) := by
    intro i hi
    rw [Polynomial.eval_eq_sum_range' hp, mul_sum]
    refine sum_congr rfl fun j hj => ?_
    rw [hV.get i (mem_range.mp hi) j ((mem_range.mp hj).trans hd)]
    ring
  rw [sum_congr rfl hvalue, sum_comm]
  refine sum_eq_zero fun j hj => ?_
  rw [← mul_sum, ← hV.rows, h.sum_mul_get (hV.cols.symm ▸ hd),
    h.triangular d (hV.cols.symm ▸ hd) j (mem_range.mp hj), mul_zero]

/-- **With the signs of the diagonal, the columns of an orthonormal factor are the orthonormal
polynomials.** -/
theorem isOrthonormalPolynomial_of_isFactorization [LinearOrder F] [IsStrictOrderedRing F]
    (hdistinct : xs.Nodup) (hV : IsPowers xs V) (h : V.IsFactorization Q R) {d : ℕ}
    (hd : d < xs.length) {s : F} (hs : s * s = 1) (hpositive : 0 < s * R.get d d) :
    IsOrthonormalPolynomial xs d fun i => Q.get i d * s := by
  obtain ⟨p, hdegree, hlead, hp⟩ := exists_polynomial_of_isFactorization hdistinct hV h d hd
  have hsne : s ≠ 0 := left_ne_zero_of_mul_eq_one hs
  refine ⟨⟨Polynomial.C s * p, ?_, ?_, fun i hi => ?_⟩, ?_, fun q hq => ?_⟩
  · rw [Polynomial.natDegree_C_mul hsne, hdegree]
  · -- the leading coefficient is the inverse of the diagonal entry, up to the same sign
    have hproduct : (Polynomial.C s * p).leadingCoeff * (s * R.get d d) = 1 := by
      rw [Polynomial.leadingCoeff_mul, Polynomial.leadingCoeff_C]
      calc s * p.leadingCoeff * (s * R.get d d)
          = (s * s) * (p.leadingCoeff * R.get d d) := by ring
        _ = 1 := by rw [hs, hlead, mul_one]
    exact pos_of_mul_pos_left (hproduct.symm ▸ one_pos) hpositive.le
  · rw [Polynomial.eval_mul, Polynomial.eval_C, hp i hi, mul_comm]
  · have hcols : d < V.cols := hV.cols.symm ▸ hd
    have hunit := h.sum_mul_self hcols hcols
    rw [if_pos rfl, hV.rows] at hunit
    rw [← hunit]
    refine sum_congr rfl fun i _ => ?_
    calc Q.get i d * s * (Q.get i d * s) = Q.get i d * Q.get i d * (s * s) := by ring
      _ = Q.get i d * Q.get i d := by rw [hs, mul_one]
  · have hzero := sum_mul_eval_of_isFactorization hV h hd hq
    calc ∑ i ∈ range xs.length, Q.get i d * s * q.eval (xs.getD i 0)
        = s * ∑ i ∈ range xs.length, Q.get i d * q.eval (xs.getD i 0) := by
          rw [mul_sum]
          exact sum_congr rfl fun i _ => by ring
      _ = 0 := by rw [hzero, mul_zero]

end Powers

end StudyPower
