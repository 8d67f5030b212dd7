import Mathlib
import StudyPower.Contrast.Basic
import StudyPower.Proofs.Mat.Kronecker
import StudyPower.Proofs.Scalar.Exact
import StudyPower.Proofs.Success

/-!
# Contrast blocks

The block that a factor contributes has a column for each of its levels.  The rows of the block of a
factor under test are comparisons: their entries add up to zero.  A block that compares levels one
by one has independent rows, and so has an average.

## Main definitions

* `Contrast.averageRow n` — the average of `n` levels.
* `Trend.comparisons n` — the number of rows that a comparison among `n` levels has.
* `Trend.isPolynomial` — is the comparison one of polynomials?
* `Points.Aligned` — there are as many values as points.

## Main statements

* `Contrast.mainEffect_of_ok`, `Contrast.filled_of_average`, `Polynomial.shape_of_block`,
  `Contrast.trend_sizes_of_ok` — what a builder of blocks returns, whatever the arithmetic.
* `Contrast.trend_of_ok` — the block for a comparison has the shape that the comparison asks for,
  and unless it is one of polynomials its rows add up to zero and have a right inverse.
-/

namespace StudyPower

open Mat Finset

/-- The number of comparisons among `n` levels. -/
def Trend.comparisons (n : ℕ) : Trend → ℕ
  | .none | .changeFromBaseline | .allPolynomial => n - 1
  | .linear | .quadratic | .cubic => 1

/-- Is the comparison one of polynomials? -/
def Trend.isPolynomial : Trend → Bool
  | .none | .changeFromBaseline => false
  | .allPolynomial | .linear | .quadratic | .cubic => true

/-- Only an integer is used as a count. -/
theorem Datum.eq_int_of_toIndex {α : Type} {k : Datum α} {n : ℤ} (h : k.toIndex = .ok n) :
    k = .int n := by
  cases k <;> simp_all [Datum.toIndex]

theorem Datum.int?_of_toRangeEnd {α : Type} {k : Datum α} {n : ℤ} (h : k.toRangeEnd = .ok n) :
    k.int? = some n := by
  cases k <;> simp_all [Datum.toRangeEnd, Datum.toIndex, Datum.int?]

theorem Datum.isBelow_int {α : Type} [Scalar α] (bound n : ℤ) :
    (Datum.int n : Datum α).isBelow bound = .ok (decide (n < bound)) := rfl

/-! ### What the builders return

The sizes depend on the declared numbers of levels alone, whatever the arithmetic. -/

/-- There is a column for each degree, also where truth values mark the degrees. -/
theorem Polynomial.length_columnsOf_of_ok {α : Type} {k : ℕ} {degrees : List (Datum α)}
    {columns : List ℕ} (h : columnsOf k degrees = .ok columns) :
    columns.length = degrees.length := by
  unfold columnsOf at h
  split at h
  · split at h
    · next hk => rw [← Except.ok.inj h, List.length_range, hk]
    · cases h
  · exact (List.mapM_eq_ok_iff.mp h).length_eq.symm

section Builders

variable {α : Type} [Scalar α]

namespace Contrast

@[simp] theorem rows_firstAgainstRest (n : ℕ) : (firstAgainstRest n : Mat α).rows = n - 1 := rfl

@[simp] theorem cols_firstAgainstRest (n : ℕ) : (firstAgainstRest n : Mat α).cols = n := rfl

theorem mainEffect_of_ok {k : Datum α} {b : Mat α} (h : mainEffect k = .ok b) :
    ∃ n : ℕ, k = .int n ∧ 2 ≤ n ∧ b = firstAgainstRest n := by
  unfold mainEffect at h
  obtain ⟨below, hbelow, h⟩ := Except.bind_eq_ok_iff.mp h
  split at h
  · simp [Except.bind_eq_ok_iff] at h
  · next hfew =>
    simp only [Except.bind_eq_ok_iff, Except.pure_eq_ok_iff] at h
    obtain ⟨z, hz, shape, hshape, rfl⟩ := h
    obtain rfl := Datum.eq_int_of_toIndex hz
    rw [Datum.isBelow_int, Except.ok.injEq] at hbelow
    rw [← hbelow, decide_eq_true_eq, not_lt] at hfew
    obtain ⟨n, rfl⟩ := Int.eq_ofNat_of_zero_le (by omega : 0 ≤ z)
    refine ⟨n, rfl, by omega, ?_⟩
    rw [checkShape_of_ok hshape, Int.toNat_natCast]

/-- An average of levels is a row that holds one number. -/
theorem filled_of_average {k : Datum α} {b : Mat α} (h : average k = .ok b) :
    ∃ (n : ℕ) (x : α), k = .int n ∧ 1 ≤ n ∧ Datum.realOfInt n = .ok x ∧
      b = filled 1 n (1 / x) := by
  unfold average at h
  obtain ⟨below, hbelow, h⟩ := Except.bind_eq_ok_iff.mp h
  split at h
  · simp [Except.bind_eq_ok_iff] at h
  · next hfew =>
    simp only [Except.bind_eq_ok_iff, Except.map_eq_ok_iff, Except.pure_eq_ok_iff] at h
    obtain ⟨z, hz, share, ⟨x, hx, rfl⟩, shape, hshape, rfl⟩ := h
    obtain rfl := Datum.eq_int_of_toIndex hz
    rw [Datum.isBelow_int, Except.ok.injEq] at hbelow
    rw [← hbelow, decide_eq_true_eq, not_lt] at hfew
    obtain ⟨n, rfl⟩ := Int.eq_ofNat_of_zero_le (by omega : 0 ≤ z)
    refine ⟨n, x, rfl, by omega, hx, ?_⟩
    rw [checkShape_of_ok hshape, Int.toNat_natCast]
    rfl

theorem changeFromBaseline_of_ok {k : Datum α} {b : Mat α} (h : changeFromBaseline k = .ok b) :
    ∃ n : ℕ, k = .int n ∧ 2 ≤ n ∧ b = (firstAgainstRest n).map (-·) := by
  unfold changeFromBaseline at h
  simp only [Except.bind_eq_ok_iff, Except.pure_eq_ok_iff] at h
  obtain ⟨m, hm, rfl⟩ := h
  obtain ⟨n, hk, hn, rfl⟩ := mainEffect_of_ok hm
  exact ⟨n, hk, hn, rfl⟩

end Contrast

namespace Polynomial

@[simp] theorem length_standardize (xs : List α) : (standardize xs).length = xs.length := by
  unfold standardize rescale center
  simp only
  split
  · rw [List.length_map, List.length_map]
  · rw [List.length_map]

theorem rows_basis_of_ok [Scalar.KeepsRows α] {xs : List α} {m : Mat α} (h : basis xs = .ok m) :
    m.rows = xs.length := by
  unfold basis at h
  simp only at h
  split at h
  · rw [← Except.ok.inj h]
    exact (Scalar.rows_orthogonalize _).trans (length_standardize xs)
  · cases h

/-- A block of polynomials has a row for each degree and a column for each point. -/
theorem shape_of_block [Scalar.KeepsRows α] {xs : List α} {degrees : List (Datum α)} {m : Mat α}
    (h : block xs degrees = .ok m) : m.rows = degrees.length ∧ m.cols = xs.length := by
  unfold block at h
  obtain ⟨⟨⟩, -, h⟩ := Except.bind_eq_ok_iff.mp h
  split at h
  · simp only [Except.bind_eq_ok_iff, Except.pure_eq_ok_iff] at h
    obtain ⟨values, hvalues, columns, hcolumns, rfl⟩ := h
    exact ⟨length_columnsOf_of_ok hcolumns, rows_basis_of_ok hvalues⟩
  · cases h

end Polynomial

/-- There are as many values as points. -/
def Points.Aligned (points : Points α) : Prop :=
  ∀ n xs, points.count = .ok n → points.values = .ok xs → xs.length = n

theorem Points.aligned_equallySpaced (n : ℤ) : (Points.equallySpaced n : Points α).Aligned := by
  rintro k xs ⟨⟩ ⟨⟩
  rfl

theorem Points.aligned_ofDatum (ds : List (Datum α)) :
    (Points.ofDatum (.list ds) : Points α).Aligned := by
  rintro k xs ⟨⟩ h
  exact (List.mapM_eq_ok_iff.mp h).length_eq.symm

/-- The declared number of measurements, zero when it is no natural number. -/
def RepeatedMeasure.levelCount (m : RepeatedMeasure α) : ℕ := (m.count.int?.getD 0).toNat

/-- The number of points at which measurements are taken. -/
def RepeatedMeasure.pointCount (m : RepeatedMeasure α) : ℕ :=
  (m.spacing.map List.length).getD m.levelCount

theorem RepeatedMeasure.aligned_of_points {m : RepeatedMeasure α} {points : Points α}
    (h : m.points = .ok points) : points.Aligned := by
  unfold RepeatedMeasure.points at h
  split at h
  · rw [← Except.ok.inj h]
    exact Points.aligned_ofDatum _
  · obtain ⟨n, -, rfl⟩ := Except.map_eq_ok_iff.mp h
    exact Points.aligned_equallySpaced n

theorem RepeatedMeasure.count_of_points {m : RepeatedMeasure α} {points : Points α}
    (h : m.points = .ok points) : points.count = .ok m.pointCount := by
  unfold RepeatedMeasure.points at h
  unfold RepeatedMeasure.pointCount
  cases hds : m.spacing with
  | none =>
    rw [hds] at h
    obtain ⟨n, hn, rfl⟩ := Except.map_eq_ok_iff.mp h
    simp [Points.equallySpaced, Points.ofList, levelCount, Datum.int?_of_toRangeEnd hn]
  | some ds =>
    rw [hds] at h
    obtain rfl := Except.ok.inj h
    rfl

/-- The block for a comparison has a row for each comparison and a column for each point.  It is
empty only when all polynomials are asked for at a single point. -/
theorem Contrast.trend_sizes_of_ok [Scalar.KeepsRows α] {t : Trend} {points : Points α}
    (haligned : points.Aligned) {b : Mat α} (h : trend t points = .ok b) :
    ∃ n, points.count = .ok n ∧ b.rows = t.comparisons n ∧ b.cols = n ∧
      (b.rows = 0 ↔ t = .allPolynomial ∧ n ≤ 1) := by
  unfold trend at h
  obtain ⟨n, hn, h⟩ := Except.bind_eq_ok_iff.mp h
  -- the four comparisons by polynomials differ in their degrees only
  have hpolynomial : ∀ degrees : List (Datum α),
      (points.values >>= fun xs => Polynomial.block xs degrees) = .ok b →
        b.rows = degrees.length ∧ b.cols = n := by
    intro degrees h
    obtain ⟨xs, hxs, hb⟩ := Except.bind_eq_ok_iff.mp h
    obtain ⟨hrows, hcols⟩ := Polynomial.shape_of_block hb
    exact ⟨hrows, hcols.trans (haligned n xs hn hxs)⟩
  have hsingle : ∀ (t : Trend) (degree : Datum α), t ≠ .allPolynomial → t.comparisons n = 1 →
      (points.values >>= fun xs => Polynomial.block xs [degree]) = .ok b →
        b.rows = t.comparisons n ∧ b.cols = n ∧ (b.rows = 0 ↔ t = .allPolynomial ∧ n ≤ 1) := by
    intro t degree ht hone h
    obtain ⟨hrows, hcols⟩ := hpolynomial [degree] h
    rw [List.length_singleton] at hrows
    refine ⟨hrows.trans hone.symm, hcols, iff_of_false (by omega) fun hall => ht hall.1⟩
  refine ⟨n, hn, ?_⟩
  cases t with
  | none =>
    obtain ⟨k, hk, htwo, rfl⟩ := mainEffect_of_ok h
    obtain rfl : n = k := by simpa using hk
    refine ⟨rfl, rfl, iff_of_false ?_ fun hall => Trend.noConfusion hall.1⟩
    rw [rows_firstAgainstRest]
    omega
  | changeFromBaseline =>
    obtain ⟨k, hk, htwo, rfl⟩ := changeFromBaseline_of_ok h
    obtain rfl : n = k := by simpa using hk
    refine ⟨rfl, rfl, iff_of_false ?_ fun hall => Trend.noConfusion hall.1⟩
    rw [rows_map, rows_firstAgainstRest]
    omega
  | allPolynomial =>
    obtain ⟨hrows, hcols⟩ := hpolynomial _ h
    rw [allDegrees, List.length_map, List.length_range] at hrows
    refine ⟨hrows, hcols, ?_⟩
    rw [hrows]
    constructor
    · intro hzero
      exact ⟨rfl, by omega⟩
    · rintro ⟨-, hle⟩
      omega
  | linear => exact hsingle .linear _ Trend.noConfusion rfl h
  | quadratic => exact hsingle .quadratic _ Trend.noConfusion rfl h
  | cubic => exact hsingle .cubic _ Trend.noConfusion rfl h

end Builders

variable {α : Type} [ExactScalar α]

/-! ### One level against the others -/

namespace Contrast

theorem get_firstAgainstRest {n i j : ℕ} (hi : i < n - 1) (hj : j < n) :
    (firstAgainstRest n : Mat α).get i j =
      if j = 0 then 1 else if j = i + 1 then -1 else 0 :=
  get_ofFn _ hi hj

/-- Combining the levels of a factor in a row leaves the difference of two of them. -/
theorem sum_firstAgainstRest {n i : ℕ} (hi : i < n - 1) (v : ℕ → α) :
    ∑ j ∈ range n, (firstAgainstRest n : Mat α).get i j * v j = v 0 - v (i + 1) := by
  obtain ⟨m, rfl⟩ : ∃ m, n = m + 1 := ⟨n - 1, by omega⟩
  have hi' : i < m := hi
  have hrest : ∀ j ∈ range m, (firstAgainstRest (m + 1) : Mat α).get i (j + 1) * v (j + 1) =
      if j = i then -v (i + 1) else 0 := by
    intro j hj
    rw [get_firstAgainstRest hi (Nat.succ_lt_succ (mem_range.mp hj)), if_neg (Nat.succ_ne_zero j)]
    by_cases h : j = i
    · rw [if_pos h, if_pos (by omega), h, neg_one_mul]
    · rw [if_neg h, if_neg (by omega), zero_mul]
  -- the first level on its own, and one of the others
  rw [sum_range_succ', sum_congr rfl hrest, sum_ite_eq', if_pos (mem_range.mpr hi'),
    get_firstAgainstRest hi (Nat.succ_pos m), if_pos rfl, one_mul, neg_add_eq_sub]

theorem rowsSumToZero_firstAgainstRest (n : ℕ) : (firstAgainstRest n : Mat α).RowsSumToZero := by
  refine rowsSumToZero_iff.mpr fun i hi => ?_
  have h := sum_firstAgainstRest hi fun _ => (1 : α)
  simpa only [mul_one, sub_self, cols_firstAgainstRest] using h

/-- The levels after the first, negated, undo the comparisons with the first. -/
theorem firstAgainstRest_isRightInverse (n : ℕ) :
    (firstAgainstRest n : Mat α).IsRightInverse
      (ofFn n (n - 1) fun j i => if j = i + 1 then -1 else 0) := by
  refine ⟨rfl, ext_get rfl rfl fun i k hi hk => ?_⟩
  have hi' : i < n - 1 := hi
  have hk' : k < n - 1 := hk
  have hcolumn : ∀ j ∈ range n, (firstAgainstRest n : Mat α).get i j *
      (ofFn n (n - 1) fun j i => if j = i + 1 then (-1 : α) else 0).get j k =
        (firstAgainstRest n).get i j * if j = k + 1 then -1 else 0 := by
    intro j hj
    rw [get_ofFn _ (mem_range.mp hj) hk']
  rw [get_mul, rows_firstAgainstRest, get_identity hi' hk']
  refine (sum_congr rfl hcolumn).trans ?_
  rw [sum_firstAgainstRest hi' fun j => if j = k + 1 then (-1 : α) else 0,
    if_neg (Nat.succ_ne_zero k).symm, zero_sub]
  by_cases h : i = k
  · rw [if_pos (by omega), if_pos h, neg_neg]
  · rw [if_neg (by omega), if_neg h, neg_zero]

/-! ### Averages -/

/-- The average of `n` levels. -/
def averageRow (n : ℕ) : Mat α := filled 1 n (1 / (n : α))

@[simp] theorem rows_averageRow (n : ℕ) : (averageRow n : Mat α).rows = 1 := rfl

@[simp] theorem cols_averageRow (n : ℕ) : (averageRow n : Mat α).cols = n := rfl

theorem get_averageRow {n j : ℕ} (hj : j < n) : (averageRow n : Mat α).get 0 j = 1 / (n : α) :=
  get_filled _ Nat.one_pos hj

/-- A column of ones undoes an average. -/
theorem averageRow_isRightInverse {n : ℕ} (hn : 1 ≤ n) :
    (averageRow n : Mat α).IsRightInverse (filled n 1 1) := by
  refine ⟨rfl, ext_get rfl rfl fun i k hi hk => ?_⟩
  obtain rfl : i = 0 := Nat.lt_one_iff.mp hi
  obtain rfl : k = 0 := Nat.lt_one_iff.mp hk
  have hn' : (n : α) ≠ 0 := Nat.cast_ne_zero.mpr (by omega)
  have hshare : ∀ j ∈ range n,
      (averageRow n : Mat α).get 0 j * (filled n 1 1).get j 0 = 1 / (n : α) := by
    intro j hj
    rw [get_averageRow (mem_range.mp hj), get_filled _ (mem_range.mp hj) Nat.one_pos, mul_one]
  rw [get_mul, rows_averageRow, get_identity Nat.one_pos Nat.one_pos, if_pos rfl]
  refine (sum_congr rfl hshare).trans ?_
  rw [sum_const, card_range, nsmul_eq_mul, mul_one_div_cancel hn']

theorem averageRow_kron_averageRow (m n : ℕ) :
    (averageRow m : Mat α).kron (averageRow n) = averageRow (m * n) := by
  rw [averageRow, averageRow, filled_kron_filled, averageRow, Nat.cast_mul, one_div_mul_one_div]

/-- The average over several factors is the average over all their cells. -/
theorem kronAll_averageRow (ns : List ℕ) :
    kronAll (ns.map averageRow) = (averageRow ns.prod : Mat α) := by
  induction ns with
  | nil => rw [List.map_nil, kronAll_nil, List.prod_nil, averageRow, Nat.cast_one, one_div_one]
  | cons n ns ih =>
    rw [List.map_cons, kronAll_cons, ih, averageRow_kron_averageRow, List.prod_cons]

theorem average_of_ok {k : Datum α} {b : Mat α} (h : average k = .ok b) :
    ∃ n : ℕ, k = .int n ∧ 1 ≤ n ∧ b = averageRow n := by
  obtain ⟨n, x, hk, hn, hx, rfl⟩ := filled_of_average h
  refine ⟨n, hk, hn, ?_⟩
  have hx' : x = (n : α) := by
    simp only [Datum.realOfInt, Scalar.isInfinite_eq_false, Bool.false_eq_true, if_false,
      Except.ok.injEq] at hx
    rw [← hx, Int.cast_natCast]
  rw [hx']
  rfl

/-! ### Comparisons at points -/

/-- The block for a comparison has the shape that the comparison asks for.  Unless it is one of
polynomials, its rows add up to zero and have a right inverse. -/
theorem trend_of_ok {t : Trend} {points : Points α} (haligned : points.Aligned) {b : Mat α}
    (h : trend t points = .ok b) :
    ∃ n, points.count = .ok n ∧ b.rows = t.comparisons n ∧ b.cols = n ∧
      (t.isPolynomial = false → b.RowsSumToZero ∧ ∃ r, b.IsRightInverse r) := by
  obtain ⟨n, hn, hrows, hcols, -⟩ := trend_sizes_of_ok haligned h
  refine ⟨n, hn, hrows, hcols, ?_⟩
  unfold trend at h
  obtain ⟨k, -, h⟩ := Except.bind_eq_ok_iff.mp h
  cases t with
  | none =>
    obtain ⟨k, -, -, rfl⟩ := mainEffect_of_ok h
    exact fun _ => ⟨rowsSumToZero_firstAgainstRest k, _, firstAgainstRest_isRightInverse k⟩
  | changeFromBaseline =>
    obtain ⟨k, -, -, rfl⟩ := changeFromBaseline_of_ok h
    exact fun _ =>
      ⟨(rowsSumToZero_firstAgainstRest k).neg, _, (firstAgainstRest_isRightInverse k).neg⟩
  | allPolynomial | linear | quadratic | cubic => exact Bool.noConfusion

end Contrast

end StudyPower
