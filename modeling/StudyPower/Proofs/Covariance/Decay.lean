import Mathlib
import StudyPower.Covariance
import StudyPower.Proofs.Mat.Product
import StudyPower.Proofs.Scalar.Symmetry

/-!
# Correlations that decay with distance

The correlation of two measurements is a power of the base, whose exponent depends on their distance
only: it runs from the least distance of two points, for the closest pairs, to that distance plus
the decay, for the farthest.  So what keeps the distances of the points keeps the correlations, and
what permutes the points permutes them.

## Main definitions

* `Covariance.distance xs i j`, `Covariance.distances xs` — the distances of points.
* `Covariance.correlationsAt rho delta near far xs` — the correlations when the distances run from
  `near` to `far`.
* `IsExponent delta near far e` — `e` runs from `near` to `near + delta` along the distances.
* `IsDecaying rho delta near far xs C` — `C` holds powers of `rho` with such exponents.
* `Scalar.withZeroQuotient quotient` — the scalars with other quotients by zero.

## Main statements

* `Scalar.least?_eq_some_iff`, `Scalar.greatest?_eq_some_iff` — the ends of a list.
* `exists_decaying_eq` — numbers as parameters give correlations at two points or more.
* `exists_decaying_symmetric` — at one point or more they are symmetric, also when rounded.
* `isExponent_exponentAt` — what the exponent is at a distance.
* `decaying_of_isometry` — points at permuted distances have permuted correlations.
* `decaying_correlations` — **correlations at two points or more, and what changes them.**
-/

namespace StudyPower

/-! ### Ends of a list -/

namespace Scalar

variable {α : Type} [ExactScalar α]

theorem lesser_eq_min (x y : α) : lesser x y = min x y := by
  unfold lesser
  rw [isUndefined_eq_false, isUndefined_eq_false, if_neg Bool.false_ne_true,
    if_neg Bool.false_ne_true]
  split
  · next h => exact (min_eq_right (lt_eq_true_iff.mp h).le).symm
  · next h =>
    rw [lt_eq_true_iff, not_lt] at h
    exact (min_eq_left h).symm

theorem greater_eq_max (x y : α) : greater x y = max x y := by
  unfold greater
  rw [isUndefined_eq_false, isUndefined_eq_false, if_neg Bool.false_ne_true,
    if_neg Bool.false_ne_true]
  split
  · next h => exact (max_eq_right (lt_eq_true_iff.mp h).le).symm
  · next h =>
    rw [lt_eq_true_iff, not_lt] at h
    exact (max_eq_left h).symm

theorem least?_eq_some_iff {xs : List α} {m : α} :
    least? xs = some m ↔ IsLeast {x | x ∈ xs} m := by
  have hmin : least? xs = xs.min? := by
    cases xs with
    | nil => rfl
    | cons x xs =>
      have hfold : lesser (α := α) = min := funext₂ lesser_eq_min
      rw [least?, hfold, List.min?_cons']
  rw [hmin, List.min?_eq_some_iff]
  rfl

theorem greatest?_eq_some_iff {xs : List α} {m : α} :
    greatest? xs = some m ↔ IsGreatest {x | x ∈ xs} m := by
  have hmax : greatest? xs = xs.max? := by
    cases xs with
    | nil => rfl
    | cons x xs =>
      have hfold : greater (α := α) = max := funext₂ greater_eq_max
      rw [greatest?, hfold, List.max?_cons']
  rw [hmax, List.max?_eq_some_iff]
  rfl

/-- The scalars with other quotients by zero. -/
@[reducible]
def withZeroQuotient (quotient : α → α) : Scalar α :=
  { ‹ExactScalar α›.toScalar with div := fun x y => if y = 0 then quotient x else x / y }

end Scalar

namespace Covariance

open Mat

/-! ### Distances -/

section Distances

variable {α : Type} [Scalar α]

/-- The distance of two points of a list. -/
def distance (xs : List α) (i j : ℕ) : α := Scalar.abs (xs[i]?.getD 0 - xs[j]?.getD 0)

/-- The distances of different points of a list. -/
def distances (xs : List α) : Set α :=
  {d | ∃ i j : Fin xs.length, i ≠ j ∧ distance xs i j = d}

theorem mem_pairDistances_iff {xs : List α} {d : α} :
    d ∈ pairDistances xs.toArray ↔ d ∈ distances xs := by
  unfold pairDistances
  simp only [List.size_toArray, List.mem_flatMap, List.mem_range, List.mem_map, List.mem_filter,
    decide_eq_true_eq, List.getElem?_toArray]
  constructor
  · rintro ⟨i, hi, j, ⟨hj, hne⟩, rfl⟩
    refine ⟨⟨i, hi⟩, ⟨j, hj⟩, ?_, rfl⟩
    rintro ⟨⟩
    exact hne rfl
  · rintro ⟨i, j, hne, rfl⟩
    exact ⟨i, i.isLt, j, ⟨j.isLt, fun h => hne (Fin.ext h.symm)⟩, rfl⟩

/-- The correlations when the distances run from `near` to `far`. -/
def correlationsAt (rho delta near far : α) (xs : List α) : Mat α :=
  Mat.ofFn xs.length xs.length fun i j =>
    if i = j then 1 else Scalar.pow rho (exponentAt delta near far (distance xs i j))

theorem get_correlationsAt (rho delta near far : α) {xs : List α} {i j : ℕ} (hi : i < xs.length)
    (hj : j < xs.length) :
    (correlationsAt rho delta near far xs).get i j =
      if i = j then 1 else Scalar.pow rho (exponentAt delta near far (distance xs i j)) :=
  get_ofFn _ hi hj

theorem transpose_correlationsAt [Scalar.Symmetric α] (rho delta near far : α) (xs : List α) :
    (correlationsAt rho delta near far xs).transpose = correlationsAt rho delta near far xs := by
  refine ext_get rfl rfl fun i j hi hj => ?_
  rw [get_transpose, get_correlationsAt rho delta near far hj hi,
    get_correlationsAt rho delta near far hi hj, distance, Scalar.Symmetric.abs_sub_comm,
    ← distance]
  simp only [eq_comm]

theorem operand_of_real? {operator : String} {parameter : Datum α} {x : α}
    (h : parameter.real? = some x) : operand operator parameter = .ok x := by
  unfold operand
  rw [h]

/-- Numbers as parameters give correlations at two points or more. -/
theorem exists_decaying_eq {base decay : Datum α} {rho delta : α} (hbase : base.real? = some rho)
    (hdecay : decay.real? = some delta) {xs : List α} (htwo : 2 ≤ xs.length) :
    ∃ near far, Scalar.least? (pairDistances xs.toArray) = some near ∧
      Scalar.greatest? (pairDistances xs.toArray) = some far ∧
      decaying base decay xs = .ok (correlationsAt rho delta near far xs) := by
  have hmem : distance xs 0 1 ∈ pairDistances xs.toArray := by
    refine mem_pairDistances_iff.mpr ⟨⟨0, by omega⟩, ⟨1, htwo⟩, ?_, rfl⟩
    simp
  obtain ⟨d, ds, hds⟩ := List.exists_cons_of_ne_nil (List.ne_nil_of_mem hmem)
  have hnear : Scalar.least? (pairDistances xs.toArray) = some (ds.foldl Scalar.lesser d) := by
    rw [hds]
    rfl
  have hfar : Scalar.greatest? (pairDistances xs.toArray) = some (ds.foldl Scalar.greater d) := by
    rw [hds]
    rfl
  refine ⟨_, _, hnear, hfar, ?_⟩
  unfold decaying
  simp only [show xs.length ≠ 1 by omega, if_false, hnear, hfar, operand_of_real? hbase,
    operand_of_real? hdecay, List.getElem?_toArray]
  unfold correlationsAt distance exponentAt
  -- the decay is looked at only when the distances differ
  split
  · simp only [bind, Except.bind, pure, Except.pure]
  · simp only [bind, Except.bind, pure, Except.pure]

/-- They are symmetric with a unit diagonal, and so is the correlation of one point with itself. -/
theorem exists_decaying_symmetric [Scalar.Symmetric α] {base decay : Datum α}
    (hbase : base.real?.isSome) (hdecay : decay.real?.isSome) {xs : List α} (hne : xs ≠ []) :
    ∃ C, decaying base decay xs = .ok C ∧ C.shape = (xs.length, xs.length) ∧ C.transpose = C ∧
      ∀ i < xs.length, C.get i i = 1 := by
  obtain ⟨rho, hrho⟩ := Option.isSome_iff_exists.mp hbase
  obtain ⟨delta, hdelta⟩ := Option.isSome_iff_exists.mp hdecay
  by_cases hone : xs.length = 1
  · refine ⟨filled 1 1 1, by rw [decaying, if_pos hone]; rfl, by rw [hone]; rfl,
      transpose_filled 1 1 1, ?_⟩
    rw [hone]
    exact fun i hi => get_filled 1 hi hi
  · have htwo : 2 ≤ xs.length := by
      have := List.length_pos_iff.mpr hne
      omega
    obtain ⟨near, far, -, -, hC⟩ := exists_decaying_eq hrho hdelta htwo
    refine ⟨_, hC, rfl, transpose_correlationsAt rho delta near far xs, fun i hi => ?_⟩
    rw [get_correlationsAt rho delta near far hi hi, if_pos rfl]

end Distances

/-! ### Exponents -/

section Exact

variable {α : Type} [ExactScalar α]

/-- An exponent runs from the least distance, where it is this distance, to the greatest one, where
`delta` has been added, steadily in the direction of `delta`. -/
structure IsExponent (delta near far : α) (e : α → α) : Prop where
  /-- It stays between its ends. -/
  between : ∀ d, near ≤ d → d ≤ far → e d ∈ Set.uIcc near (near + delta)
  /-- It starts at the least distance. -/
  closest : e near = near
  /-- It ends `delta` later, unless the distances are all the same. -/
  farthest : near < far → e far = near + delta
  /-- It does not fall with the distance when `delta` is not negative. -/
  monotone : 0 ≤ delta → Monotone e
  /-- It does not rise when `delta` is not positive. -/
  antitone : delta ≤ 0 → Antitone e

theorem exponentAt_of_lt {near far : α} (h : near < far) (delta d : α) :
    exponentAt delta near far d = near + delta * ((d - near) / (far - near)) := by
  rw [exponentAt, if_pos (Scalar.lt_eq_true_iff.mpr h), mul_div_assoc]

theorem exponentAt_of_not_lt {near far : α} (h : ¬ near < far) (delta d : α) :
    exponentAt delta near far d = near := by
  rw [exponentAt, if_neg (Scalar.lt_eq_true_iff.not.mpr h)]

/-- Between different ends the exponent is the share of the way that a distance has gone, times
`delta`. -/
theorem isExponent_of_lt {near far : α} (h : near < far) (delta : α) :
    IsExponent delta near far fun d => near + delta * ((d - near) / (far - near)) := by
  have hwidth : 0 < far - near := sub_pos.mpr h
  have hshare : Monotone fun d => (d - near) / (far - near) := by
    intro d d' hd
    exact div_le_div_of_nonneg_right (sub_le_sub_right hd near) hwidth.le
  constructor
  case between =>
    intro d hnear hfar
    have hnonneg : 0 ≤ (d - near) / (far - near) := div_nonneg (sub_nonneg.mpr hnear) hwidth.le
    have hle : (d - near) / (far - near) ≤ 1 :=
      (div_le_one hwidth).mpr (sub_le_sub_right hfar near)
    rw [Set.mem_uIcc]
    rcases le_total 0 delta with hdelta | hdelta
    · left
      constructor
      · exact le_add_of_nonneg_right (mul_nonneg hdelta hnonneg)
      · exact add_le_add_right (mul_le_of_le_one_right hdelta hle) near
    · right
      constructor
      · exact add_le_add_right (le_mul_of_le_one_right hdelta hle) near
      · exact add_le_of_nonpos_right (mul_nonpos_of_nonpos_of_nonneg hdelta hnonneg)
  case closest => simp
  case farthest => simp [div_self hwidth.ne']
  case monotone =>
    intro hdelta d d' hd
    exact add_le_add_right (mul_le_mul_of_nonneg_left (hshare hd) hdelta) near
  case antitone =>
    intro hdelta d d' hd
    exact add_le_add_right (mul_le_mul_of_nonpos_left (hshare hd) hdelta) near

/-- When all distances are the same the exponent stays there. -/
theorem isExponent_const {near far : α} (h : ¬ near < far) (delta : α) :
    IsExponent delta near far fun _ => near where
  between := fun _ _ _ => Set.left_mem_uIcc
  closest := rfl
  farthest := fun hlt => absurd hlt h
  monotone := fun _ => monotone_const
  antitone := fun _ => antitone_const

theorem isExponent_exponentAt (delta near far : α) :
    IsExponent delta near far (exponentAt delta near far) := by
  by_cases h : near < far
  · rw [funext (exponentAt_of_lt h delta)]
    exact isExponent_of_lt h delta
  · rw [funext (exponentAt_of_not_lt h delta)]
    exact isExponent_const h delta

theorem exponentAt_zero (near far d : α) : exponentAt 0 near far d = near := by
  by_cases h : near < far
  · rw [exponentAt_of_lt h, zero_mul, add_zero]
  · exact exponentAt_of_not_lt h 0 d

/-- The exponent is a quotient only when the distances differ, and then the divisor is not zero. -/
theorem exponentAt_withZeroQuotient (quotient : α → α) (delta near far d : α) :
    @exponentAt α (Scalar.withZeroQuotient quotient) delta near far d =
      exponentAt delta near far d := by
  change (if Scalar.lt near far then
      near + (if far - near = 0 then quotient (delta * (d - near))
        else delta * (d - near) / (far - near))
    else near) = _
  unfold exponentAt
  split
  · next h => rw [if_neg (sub_ne_zero.mpr (Scalar.lt_eq_true_iff.mp h).ne')]
  · rfl

/-! ### The matrix -/

theorem distance_eq (xs : List α) (i j : ℕ) :
    distance xs i j = |xs[i]?.getD 0 - xs[j]?.getD 0| :=
  Scalar.abs_eq_abs _

theorem setOf_mem_pairDistances (xs : List α) :
    {d | d ∈ pairDistances xs.toArray} = distances xs :=
  Set.ext fun _ => mem_pairDistances_iff

theorem isLeast_distances {xs : List α} {near : α}
    (h : Scalar.least? (pairDistances xs.toArray) = some near) : IsLeast (distances xs) near := by
  rw [← setOf_mem_pairDistances]
  exact Scalar.least?_eq_some_iff.mp h

theorem isGreatest_distances {xs : List α} {far : α}
    (h : Scalar.greatest? (pairDistances xs.toArray) = some far) :
    IsGreatest (distances xs) far := by
  rw [← setOf_mem_pairDistances]
  exact Scalar.greatest?_eq_some_iff.mp h

/-- `C` holds the correlations of points whose distances run from `near` to `far`. -/
structure IsDecaying (rho delta near far : α) (xs : List α) (C : Mat α) : Prop where
  /-- The closest points have the least distance. -/
  closest : IsLeast (distances xs) near
  /-- The farthest points have the greatest distance. -/
  farthest : IsGreatest (distances xs) far
  /-- There are a row and a column for each point. -/
  shape : C.shape = (xs.length, xs.length)
  /-- The correlations do not depend on the order of two points. -/
  symmetric : C.transpose = C
  /-- Each point is fully correlated with itself. -/
  unit_diagonal : ∀ i < xs.length, C.get i i = 1
  /-- The exponents run along the distances. -/
  exponent : IsExponent delta near far (exponentAt delta near far)
  /-- Two points have the power of `rho` with the exponent at their distance. -/
  power : ∀ i < xs.length, ∀ j < xs.length, i ≠ j →
    C.get i j = Scalar.pow rho (exponentAt delta near far (distance xs i j))

theorem correlationsAt_withZeroQuotient (quotient : α → α) (rho delta near far : α) (xs : List α) :
    @correlationsAt α (Scalar.withZeroQuotient quotient) rho delta near far xs =
      correlationsAt rho delta near far xs := by
  unfold correlationsAt
  simp only [exponentAt_withZeroQuotient]
  rfl

/-- At two points or more no quotient by zero is taken. -/
theorem decaying_withZeroQuotient (quotient : α → α) {base decay : Datum α} {rho delta : α}
    (hbase : base.real? = some rho) (hdecay : decay.real? = some delta) {xs : List α}
    (htwo : 2 ≤ xs.length) :
    @decaying α (Scalar.withZeroQuotient quotient) base decay xs = decaying base decay xs := by
  obtain ⟨near, far, hnear, hfar, hC⟩ := exists_decaying_eq hbase hdecay htwo
  obtain ⟨near', far', hnear', hfar', hC'⟩ :=
    @exists_decaying_eq α (Scalar.withZeroQuotient quotient) base decay rho delta hbase hdecay xs
      htwo
  obtain rfl : near' = near := Option.some.inj (hnear'.symm.trans hnear)
  obtain rfl : far' = far := Option.some.inj (hfar'.symm.trans hfar)
  rw [hC, hC', correlationsAt_withZeroQuotient]

theorem isDecaying_correlationsAt (rho delta : α) {near far : α} {xs : List α}
    (hnear : IsLeast (distances xs) near) (hfar : IsGreatest (distances xs) far) :
    IsDecaying rho delta near far xs (correlationsAt rho delta near far xs) where
  closest := hnear
  farthest := hfar
  shape := rfl
  symmetric := transpose_correlationsAt rho delta near far xs
  unit_diagonal := fun i hi => by
    rw [get_correlationsAt rho delta near far hi hi, if_pos rfl]
  exponent := isExponent_exponentAt delta near far
  power := fun i hi j hj hij => by
    rw [get_correlationsAt rho delta near far hi hj, if_neg hij]

/-- Without decay all correlations are alike. -/
theorem correlationsAt_zero (rho near far : α) (xs : List α) :
    correlationsAt rho 0 near far xs = compoundSymmetric xs.length (Scalar.pow rho near) := by
  unfold correlationsAt compoundSymmetric diagonal
  simp only [exponentAt_zero]

/-! ### Points that are moved or permuted -/

variable {xs ys : List α} {σ : Equiv.Perm (Fin xs.length)}

theorem distances_of_isometry (hlength : ys.length = xs.length)
    (hσ : ∀ i j : Fin xs.length, distance ys i j = distance xs (σ i) (σ j)) :
    distances ys = distances xs := by
  ext d
  constructor
  · rintro ⟨i, j, hne, rfl⟩
    refine ⟨σ (i.cast hlength), σ (j.cast hlength), ?_, (hσ (i.cast hlength) (j.cast hlength)).symm⟩
    exact fun h => hne (Fin.cast_injective hlength (σ.injective h))
  · rintro ⟨i, j, hne, rfl⟩
    refine ⟨(σ.symm i).cast hlength.symm, (σ.symm j).cast hlength.symm, ?_, ?_⟩
    · exact fun h => hne (σ.symm.injective (Fin.cast_injective hlength.symm h))
    · refine (hσ (σ.symm i) (σ.symm j)).trans ?_
      rw [σ.apply_symm_apply, σ.apply_symm_apply]

/-- Points whose distances are those of permuted points have the permuted correlations. -/
theorem decaying_of_isometry {base decay : Datum α} {rho delta : α} (hbase : base.real? = some rho)
    (hdecay : decay.real? = some delta) (htwo : 2 ≤ xs.length) (hlength : ys.length = xs.length)
    (hσ : ∀ i j : Fin xs.length, distance ys i j = distance xs (σ i) (σ j)) {C : Mat α}
    (hC : decaying base decay xs = .ok C) :
    ∃ C', decaying base decay ys = .ok C' ∧ C'.shape = C.shape ∧
      ∀ i j : Fin xs.length, C'.get i j = C.get (σ i) (σ j) := by
  obtain ⟨near, far, hnear, hfar, hxs⟩ := exists_decaying_eq hbase hdecay htwo
  obtain ⟨near', far', hnear', hfar', hys⟩ := exists_decaying_eq hbase hdecay (hlength ▸ htwo)
  obtain rfl : C = correlationsAt rho delta near far xs := Except.ok.inj (hC.symm.trans hxs)
  -- the distances are the same, so they run between the same ends
  have hdistances := distances_of_isometry hlength hσ
  obtain rfl : near' = near :=
    (hdistances ▸ isLeast_distances hnear').unique (isLeast_distances hnear)
  obtain rfl : far' = far :=
    (hdistances ▸ isGreatest_distances hfar').unique (isGreatest_distances hfar)
  refine ⟨_, hys, ?_, fun i j => ?_⟩
  · exact congrArg₂ Prod.mk hlength hlength
  · rw [get_correlationsAt rho delta near' far' (i.isLt.trans_eq hlength.symm)
        (j.isLt.trans_eq hlength.symm),
      get_correlationsAt rho delta near' far' (σ i).isLt (σ j).isLt, hσ]
    simp only [Fin.val_inj, σ.injective.eq_iff]

/-- Points whose distances are those of other points have their correlations. -/
theorem decaying_of_distance {base decay : Datum α} {rho delta : α} (hbase : base.real? = some rho)
    (hdecay : decay.real? = some delta) (htwo : 2 ≤ xs.length) (hlength : ys.length = xs.length)
    (h : ∀ i j : Fin xs.length, distance ys i j = distance xs i j) :
    decaying base decay ys = decaying base decay xs := by
  obtain ⟨near, far, -, -, hC⟩ := exists_decaying_eq hbase hdecay htwo
  obtain ⟨C', hC', hshape, hentry⟩ :=
    decaying_of_isometry (σ := Equiv.refl _) hbase hdecay htwo hlength h hC
  have hrows : C'.rows = xs.length := congrArg Prod.fst hshape
  have hcols : C'.cols = xs.length := congrArg Prod.snd hshape
  rw [hC, hC']
  refine congrArg Except.ok (ext_get hrows hcols fun i j hi hj => ?_)
  exact hentry ⟨i, hi.trans_eq hrows⟩ ⟨j, hj.trans_eq hcols⟩

/-- **Correlations that decay with distance.**  Whatever function the power is, at two points or more
they are powers of `rho` with exponents between the least distance and that distance plus `delta`,
and no quotient by zero is taken.  Moving the points or reflecting them changes nothing, permuting
them permutes the rows and the columns, and without decay all correlations are alike. -/
theorem decaying_correlations {base decay : Datum α} {rho delta : α}
    (hbase : base.real? = some rho) (hdecay : decay.real? = some delta) {xs : List α}
    (htwo : 2 ≤ xs.length) :
    ∃ C near far, decaying base decay xs = .ok C ∧ IsDecaying rho delta near far xs C ∧
      (∀ quotient, @decaying α (Scalar.withZeroQuotient quotient) base decay xs = .ok C) ∧
      (∀ c, decaying base decay (xs.map (· + c)) = .ok C) ∧
      (∀ c, decaying base decay (xs.map (c - ·)) = .ok C) ∧
      (∀ σ : Equiv.Perm (Fin xs.length), ∃ C',
        decaying base decay (List.ofFn fun i => xs[σ i]) = .ok C' ∧ C'.shape = C.shape ∧
          ∀ i j : Fin xs.length, C'.get i j = C.get (σ i) (σ j)) ∧
      (delta = 0 → C = compoundSymmetric xs.length (Scalar.pow rho near)) := by
  obtain ⟨near, far, hnear, hfar, hC⟩ := exists_decaying_eq hbase hdecay htwo
  refine ⟨_, near, far, hC,
    isDecaying_correlationsAt rho delta (isLeast_distances hnear) (isGreatest_distances hfar),
    fun quotient => ?_, fun c => ?_, fun c => ?_, fun σ => ?_, ?_⟩
  · rw [decaying_withZeroQuotient quotient hbase hdecay htwo, hC]
  · rw [← hC]
    refine decaying_of_distance hbase hdecay htwo (List.length_map _) fun i j => ?_
    simp [distance_eq]
  · rw [← hC]
    refine decaying_of_distance hbase hdecay htwo (List.length_map _) fun i j => ?_
    simp [distance_eq, abs_sub_comm]
  · refine decaying_of_isometry hbase hdecay htwo (List.length_ofFn) (fun i j => ?_) hC
    simp [distance_eq]
  · rintro rfl
    exact correlationsAt_zero rho near far xs

end Exact

/-- Visits on the first, fourth and second day, whose correlations halve with each day between
them. -/
def visitDays : List ℚ := [0, 3, 1]

theorem decaying_correlations_visitDays :
    ∃ C, decaying (.real (1 / 2)) (.int 2) visitDays = .ok C ∧
      C.toRows = [[1, 1 / 8, 1 / 2], [1 / 8, 1, 1 / 4], [1 / 2, 1 / 4, 1]] ∧ C.transpose = C ∧
      (∀ quotient, @decaying ℚ (Scalar.withZeroQuotient quotient) (.real (1 / 2)) (.int 2)
        visitDays = .ok C) ∧
      ∀ c, decaying (.real (1 / 2)) (.int 2) (visitDays.map (c - ·)) = .ok C := by
  have hbase : (Datum.real (1 / 2) : Datum ℚ).real? = some (1 / 2) := rfl
  have hdecay : (Datum.int 2 : Datum ℚ).real? = some 2 := rfl
  have htwo : 2 ≤ visitDays.length := by decide
  obtain ⟨C, near, far, hC, hdecaying, hquotient, -, hreflected, -⟩ :=
    decaying_correlations hbase hdecay htwo
  have hrows : (decaying (.real (1 / 2)) (.int 2) visitDays).toOption.map toRows =
      some [[1, 1 / 8, 1 / 2], [1 / 8, 1, 1 / 4], [1 / 2, 1 / 4, 1]] := by decide +kernel
  rw [hC] at hrows
  exact ⟨C, hC, Option.some.inj hrows, hdecaying.symmetric, hquotient, hreflected⟩

end Covariance

end StudyPower
