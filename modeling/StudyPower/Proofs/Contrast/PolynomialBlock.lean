import Mathlib
import StudyPower.Proofs.Contrast.Faults
import StudyPower.Proofs.Contrast.OrthonormalPolynomial

/-!
# Polynomial contrasts

The rows of a polynomial contrast are the orthonormal polynomials of the asked degrees at the
levels, whatever factorization of the powers of the levels the scalars come with.  The levels are
moved and scaled before their powers are taken, which is an affine map that keeps their order, so
the polynomials are those at the levels themselves.

## Main definitions

* `Scalar.withFactors factors` — the scalars with another way to factor matrices.
* `Polynomial.blockWith factors xs degrees` — the contrast that these scalars build.
* `Polynomial.HasFactors factors xs` — the powers of the levels have been factored.
* `IsDegreeBelow k d` — `d` is a degree of `1, …, k - 1`.

## Main statements

* `exists_standardize_eq` — moving and scaling the levels is an affine map with a positive slope.
* `blockWith_eq_error_iff`, `blockWith_of_degrees` — when a contrast is refused, and what it holds.
* `polynomial_contrasts` — **the rows of a polynomial contrast are the orthonormal polynomials,
  for every factorization and up to moving and scaling the levels.**
-/

namespace StudyPower

open Mat Finset Except

/-! ### Another factorization -/

section Factors

variable {α : Type} [Scalar α]

/-- The scalars with another way to factor matrices. -/
@[reducible]
def Scalar.withFactors (factors : Mat α → Mat α × Mat α) : Scalar α :=
  { ‹Scalar α› with orthogonalize := factors }

variable (factors : Mat α → Mat α × Mat α)

/-- The contrast that is built with another way to factor matrices. -/
def Polynomial.blockWith (xs : List α) (degrees : List (Datum α)) : Except (Fault α) (Mat α) :=
  @block α (Scalar.withFactors factors) xs degrees

theorem Polynomial.blockWith_orthogonalize (xs : List α) (degrees : List (Datum α)) :
    blockWith Scalar.orthogonalize xs degrees = block xs degrees := rfl

theorem Scalar.allDistinct_withFactors (xs : List α) :
    @allDistinct α (withFactors factors) xs = allDistinct xs := by
  induction xs with
  | nil => rfl
  | cons x xs ih => exact congrArg (!xs.any (same x) && ·) ih

theorem Scalar.fillLanes_withFactors (lanes xs : List α) (groups : ℕ) :
    @fillLanes α (withFactors factors) lanes xs groups = fillLanes lanes xs groups := by
  induction groups generalizing lanes xs with
  | zero => rfl
  | succ groups ih => exact ih _ _

theorem Scalar.sumBlock_withFactors (xs : List α) :
    @sumBlock α (withFactors factors) xs = sumBlock xs := by
  unfold sumBlock
  rw [fillLanes_withFactors]
  rfl

theorem Scalar.sumHalves_withFactors (xs : List α) (depth : ℕ) :
    @sumHalves α (withFactors factors) xs depth = sumHalves xs depth := by
  induction depth generalizing xs with
  | zero => exact sumBlock_withFactors factors xs
  | succ depth ih =>
    unfold sumHalves
    simp only [ih, sumBlock_withFactors]

theorem Polynomial.power_withFactors (x : α) (n : ℕ) :
    @power α (Scalar.withFactors factors) x n = power x n := by
  induction n with
  | zero => rfl
  | succ n ih => exact congrArg (· * x) ih

/-- The powers that are factored do not depend on the factorization. -/
theorem Polynomial.powers_withFactors (xs : List α) :
    @powers α (Scalar.withFactors factors) (@standardize α (Scalar.withFactors factors) xs) =
      powers (standardize xs) := by
  have hmean : @Scalar.mean α (Scalar.withFactors factors) xs = Scalar.mean xs :=
    congrArg (· / (xs.length : α)) (Scalar.sumHalves_withFactors factors xs xs.length)
  have hstandardize :
      @standardize α (Scalar.withFactors factors) xs = standardize xs := by
    unfold standardize center
    rw [hmean]
    rfl
  rw [hstandardize]
  unfold powers
  simp only [power_withFactors]

theorem Polynomial.overflows_withFactors (xs : List α) :
    @Overflows α (Scalar.withFactors factors) xs = Overflows xs := by
  unfold Overflows
  rw [powers_withFactors]
  rfl

end Factors

/-- The integer is a degree between one and below `k`. -/
def IsDegreeBelow (k : ℕ) (d : ℤ) : Prop := 1 ≤ d ∧ d ≤ (k : ℤ) - 1

theorem IsDegreeBelow.toNat {k : ℕ} {d : ℤ} (h : IsDegreeBelow k d) :
    0 < d.toNat ∧ d.toNat < k := by
  obtain ⟨hlo, hhi⟩ := h
  omega

theorem IsDegreeBelow.toNat_inj {k : ℕ} {d e : ℤ} (hd : IsDegreeBelow k d)
    (he : IsDegreeBelow k e) : d.toNat = e.toNat ↔ d = e := by
  obtain ⟨hd, -⟩ := hd
  obtain ⟨he, -⟩ := he
  omega

namespace Polynomial

/-! ### What is built, and what is refused -/

section Refusal

variable {α : Type} [Scalar α]

theorem checkDegree_int (k : ℕ) (d : ℤ) : checkDegree (α := α) k (.int d) =
    if d < 1 ∨ (k : ℤ) - 1 < d then .error (.degreeOutOfRange (.int d) k) else .ok () := by
  change (if decide (d < 1) || decide ((k : ℤ) - 1 < d) then _ else _) = _
  simp only [Bool.or_eq_true, decide_eq_true_iff]
  rfl

theorem checkDegree_eq_ok_iff {k : ℕ} {d : ℤ} :
    checkDegree (α := α) k (.int d) = .ok () ↔ IsDegreeBelow k d := by
  rw [checkDegree_int, IsDegreeBelow]
  split
  · next hout => exact iff_of_false nofun (by omega)
  · next hin => exact iff_of_true rfl (by omega)

theorem forM_checkDegree_eq_ok_iff {k : ℕ} {degrees : List ℤ} :
    (degrees.map Datum.int).forM (checkDegree (α := α) k) = .ok () ↔
      ∀ d ∈ degrees, IsDegreeBelow k d := by
  induction degrees with
  | nil => exact iff_of_true rfl fun _ h => absurd h List.not_mem_nil
  | cons d degrees ih =>
    rw [List.forall_mem_cons, ← ih, ← checkDegree_eq_ok_iff (α := α)]
    exact Except.check_bind_eq_ok_iff

theorem forM_checkDegree_failsWith (k : ℕ) (degrees : List ℤ) :
    FailsWith (fun f => f.kind = .validation)
      ((degrees.map Datum.int).forM (checkDegree (α := α) k)) := by
  refine FailsWith.forM fun d hd => ?_
  obtain ⟨n, -, rfl⟩ := List.mem_map.mp hd
  rw [checkDegree_int]
  split
  · exact FailsWith.error rfl
  · exact FailsWith.ok _

/-- The rows of a contrast, from the values of the polynomials of all degrees. -/
def rowsAt (values : Mat α) (degrees : List ℤ) : Mat α :=
  ofFn degrees.length values.rows fun i j => values.get j ((degrees.map Int.toNat)[i]?.getD 0)

omit [Scalar α] in
theorem columnsOf_int (k : ℕ) (degrees : List ℤ) :
    columnsOf (α := α) k (degrees.map Datum.int) = .ok (degrees.map Int.toNat) := by
  have hmarks : (!(degrees.map (Datum.int (α := α))).isEmpty &&
      (degrees.map (Datum.int (α := α))).all (·.bool?.isSome)) = false := by
    cases degrees with
    | nil => rfl
    | cons d degrees => rfl
  unfold columnsOf
  rw [hmarks, if_neg Bool.false_ne_true, List.mapM_eq_ok_iff, List.forall₂_map_left_iff,
    List.forall₂_map_right_iff]
  exact List.forall₂_same.mpr fun d _ => rfl

/-- At different levels whose powers are real numbers, degrees that are in range are given their
rows. -/
theorem block_of_degrees {xs : List α} {degrees : List ℤ}
    (hdegrees : ∀ d ∈ degrees, IsDegreeBelow xs.length d) (hdistinct : Scalar.allDistinct xs = true)
    (hfinite : ¬ Overflows xs) :
    block xs (degrees.map Datum.int) =
      .ok (rowsAt (withSigns (Scalar.orthogonalize (powers (standardize xs))).1
        (Scalar.orthogonalize (powers (standardize xs))).2) degrees) := by
  have hbasis : basis xs = .ok (withSigns (Scalar.orthogonalize (powers (standardize xs))).1
      (Scalar.orthogonalize (powers (standardize xs))).2) := by
    unfold basis
    dsimp only
    rw [if_pos (Bool.not_eq_false _ ▸ hfinite)]
  unfold block
  rw [forM_checkDegree_eq_ok_iff.mpr hdegrees]
  change (if Scalar.allDistinct xs then _ else _) = _
  rw [if_pos hdistinct, hbasis, columnsOf_int]
  change Except.ok (ofFn _ _ _) = _
  simp [rowsAt]

/-- Repeated levels are refused, unless a degree is refused before. -/
theorem block_of_repeated {xs : List α} (degrees : List ℤ)
    (hrepeated : Scalar.allDistinct xs = false) :
    ∃ f, block xs (degrees.map Datum.int) = .error f ∧ f.kind = .validation := by
  unfold block
  cases hcheck : (degrees.map Datum.int).forM (checkDegree (α := α) xs.length) with
  | error f => exact ⟨f, rfl, forM_checkDegree_failsWith _ _ f hcheck⟩
  | ok _ =>
    refine ⟨.repeatedLevels xs, ?_, rfl⟩
    change (if Scalar.allDistinct xs then _ else _) = _
    rw [hrepeated]
    rfl

/-- A degree that is out of range is refused before anything is looked at but the number of
levels. -/
theorem block_of_degree {xs : List α} {degrees : List ℤ}
    (hdegree : ∃ d ∈ degrees, ¬ IsDegreeBelow xs.length d) :
    ∃ f, (degrees.map Datum.int).forM (checkDegree (α := α) xs.length) = .error f ∧
      f.kind = .validation ∧ block xs (degrees.map Datum.int) = .error f := by
  unfold block
  cases hcheck : (degrees.map Datum.int).forM (checkDegree (α := α) xs.length) with
  | error f => exact ⟨f, rfl, forM_checkDegree_failsWith _ _ f hcheck, rfl⟩
  | ok _ =>
    obtain ⟨d, hd, hout⟩ := hdegree
    exact absurd (forM_checkDegree_eq_ok_iff.mp hcheck d hd) hout

end Refusal

/-! ### Exact arithmetic -/

variable {α : Type} [ExactScalar α]

theorem power_eq_pow (x : α) (n : ℕ) : power x n = x ^ n := by
  induction n with
  | zero => exact (pow_zero x).symm
  | succ n ih => rw [power, ih, pow_succ]

theorem isPowers_powers (xs : List α) : IsPowers xs (powers xs) where
  rows := rfl
  cols := rfl
  get := by
    intro i hi j hj
    refine (get_ofFn _ hi hj).trans ?_
    rw [power_eq_pow, List.getElem?_toArray, List.getD_eq_getElem?_getD]

/-- The levels are divided by a positive number after they are moved. -/
theorem exists_standardize_eq (xs : List α) :
    ∃ a b : α, 0 < a ∧ standardize xs = xs.map fun x => a * x + b := by
  unfold standardize rescale center
  dsimp only
  split
  · next hpos =>
    have hextent := (ExactScalar.lt_iff _ _).mp hpos
    refine ⟨_, -(Scalar.mean xs / extent (xs.map (· - Scalar.mean xs))), inv_pos.mpr hextent, ?_⟩
    rw [List.map_map]
    refine List.map_congr_left fun x _ => ?_
    change (x - _) / _ = _
    rw [sub_div, sub_eq_add_neg, div_eq_inv_mul]
  · exact ⟨1, _, one_pos, List.map_congr_left fun x _ => by rw [one_mul, sub_eq_add_neg]⟩

theorem nodup_standardize {xs : List α} (h : xs.Nodup) : (standardize xs).Nodup := by
  obtain ⟨a, b, ha, hstandard⟩ := exists_standardize_eq xs
  rw [hstandard]
  refine h.map fun x y hxy => ?_
  exact mul_left_cancel₀ ha.ne' (add_right_cancel hxy)

theorem not_overflows (xs : List α) : ¬ Overflows xs := by
  have hall : (powers (standardize xs)).toList.all Scalar.isFinite = true :=
    List.all_eq_true.mpr fun x _ => by simp [Scalar.isFinite]
  rw [Overflows, hall]
  exact Bool.noConfusion

theorem allDistinct_eq_true_iff {xs : List α} : Scalar.allDistinct xs = true ↔ xs.Nodup := by
  induction xs with
  | nil => simp [Scalar.allDistinct]
  | cons x xs ih =>
    have hsame : xs.any (Scalar.same x) = true ↔ x ∈ xs := by
      rw [List.any_eq_true]
      simp [Scalar.same, ExactScalar.beq_iff]
    rw [Scalar.allDistinct, Bool.and_eq_true, Bool.not_eq_true', ← Bool.not_eq_true, hsame, ih,
      List.nodup_cons]

/-- The sign of a number that is not zero is one or minus one, and makes it positive. -/
theorem sign_of_ne_zero {x : α} (h : x ≠ 0) :
    Scalar.sign x * Scalar.sign x = 1 ∧ 0 < Scalar.sign x * x := by
  unfold Scalar.sign
  rcases lt_or_gt_of_ne h with hneg | hpos
  · have hbelow : Scalar.lt x 0 = true := (ExactScalar.lt_iff x 0).mpr hneg
    have habove : ¬ Scalar.lt 0 x = true := fun hlt => hneg.not_gt ((ExactScalar.lt_iff 0 x).mp hlt)
    rw [if_neg habove, if_pos hbelow]
    exact ⟨by ring, by linarith⟩
  · have habove : Scalar.lt 0 x = true := (ExactScalar.lt_iff 0 x).mpr hpos
    rw [if_pos habove]
    exact ⟨one_mul 1, by rwa [one_mul]⟩

/-- The powers of the levels have been factored. -/
def HasFactors (factors : Mat α → Mat α × Mat α) (xs : List α) : Prop :=
  (powers (standardize xs)).IsFactorization (factors (powers (standardize xs))).1
    (factors (powers (standardize xs))).2

variable {xs : List α} {factors : Mat α → Mat α × Mat α}

/-- The columns of a factorization, with their signs, are the polynomials at the levels. -/
theorem HasFactors.isOrthonormalPolynomial (h : HasFactors factors xs) (hdistinct : xs.Nodup)
    {d : ℕ} (hd : d < xs.length) :
    IsOrthonormalPolynomial xs d fun j => (withSigns (factors (powers (standardize xs))).1
      (factors (powers (standardize xs))).2).get j d := by
  obtain ⟨a, b, ha, hstandard⟩ := exists_standardize_eq xs
  have hd' : d < (standardize xs).length := by rwa [length_standardize]
  have hpowers := isPowers_powers (standardize xs)
  have hnodup := nodup_standardize hdistinct
  obtain ⟨p, -, hlead, -⟩ := exists_polynomial_of_isFactorization hnodup hpowers h d hd'
  obtain ⟨hs, hpositive⟩ := sign_of_ne_zero (right_ne_zero_of_mul_eq_one hlead)
  have hstandardized :=
    isOrthonormalPolynomial_of_isFactorization hnodup hpowers h hd' hs hpositive
  refine (hstandardized.of_affine ha hstandard).congr fun j hj => ?_
  have hrow : j < (factors (powers (standardize xs))).1.rows := by
    rwa [h.rows_left, hpowers.rows, length_standardize]
  have hcol : d < (factors (powers (standardize xs))).1.cols := by
    rwa [h.cols_left, hpowers.cols]
  unfold withSigns
  rw [get_ofFn _ hrow hcol]

theorem blockWith_of_degrees (h : HasFactors factors xs) (hdistinct : xs.Nodup) {degrees : List ℤ}
    (hdegrees : ∀ d ∈ degrees, IsDegreeBelow xs.length d) :
    ∃ B, blockWith factors xs (degrees.map .int) = .ok B ∧ B.rows = degrees.length ∧
      B.cols = xs.length ∧ ∀ i (hi : i < degrees.length),
        IsOrthonormalPolynomial xs degrees[i].toNat (B.get i) := by
  have hblock := @block_of_degrees α (Scalar.withFactors factors) xs degrees hdegrees
    ((Scalar.allDistinct_withFactors factors xs).trans (allDistinct_eq_true_iff.mpr hdistinct)) ?_
  · rw [powers_withFactors] at hblock
    have hrows : (factors (powers (standardize xs))).1.rows = xs.length := by
      rw [h.rows_left, (isPowers_powers _).rows, length_standardize]
    refine ⟨_, hblock, rfl, hrows, fun i hi => ?_⟩
    obtain ⟨-, hlt⟩ := (hdegrees _ (List.getElem_mem hi)).toNat
    refine (h.isOrthonormalPolynomial hdistinct hlt).congr fun j hj => ?_
    refine Eq.trans ?_ (get_ofFn _ hi (hrows.symm ▸ hj)).symm
    rw [List.getElem?_map, List.getElem?_eq_getElem hi]
    rfl
  · rw [overflows_withFactors]
    exact not_overflows xs

/-- A contrast is refused as invalid exactly when a degree is out of range. -/
theorem blockWith_validation_iff (h : HasFactors factors xs) (hdistinct : xs.Nodup)
    (degrees : List ℤ) :
    (∃ f, blockWith factors xs (degrees.map .int) = .error f ∧ f.kind = .validation) ↔
      ∃ d ∈ degrees, ¬ IsDegreeBelow xs.length d := by
  constructor
  · rintro ⟨f, hf, -⟩
    by_contra hdegrees
    push Not at hdegrees
    obtain ⟨B, hB, -⟩ := blockWith_of_degrees h hdistinct hdegrees
    rw [hB] at hf
    cases hf
  · intro hdegree
    obtain ⟨f, -, hkind, hblock⟩ :=
      @block_of_degree α (Scalar.withFactors factors) xs degrees hdegree
    exact ⟨f, hblock, hkind⟩

/-- Levels that are moved and scaled up have the same contrast, with any factorization. -/
theorem blockWith_map_affine (h : HasFactors factors xs) (hdistinct : xs.Nodup) {c t : α}
    (hc : 0 < c) {factors' : Mat α → Mat α × Mat α}
    (h' : HasFactors factors' (xs.map fun x => c * x + t)) (degrees : List ℤ) :
    blockWith factors' (xs.map fun x => c * x + t) (degrees.map .int) =
      blockWith factors xs (degrees.map .int) := by
  have hlength : (xs.map fun x => c * x + t).length = xs.length := List.length_map _
  by_cases hdegrees : ∀ d ∈ degrees, IsDegreeBelow xs.length d
  · have hdistinct' : (xs.map fun x => c * x + t).Nodup :=
      hdistinct.map fun x y hxy => mul_left_cancel₀ hc.ne' (add_right_cancel hxy)
    obtain ⟨B, hB, hrows, hcols, hpoly⟩ := blockWith_of_degrees h hdistinct hdegrees
    obtain ⟨B', hB', hrows', hcols', hpoly'⟩ :=
      blockWith_of_degrees h' hdistinct' (hlength.symm ▸ hdegrees)
    -- both have rows of orthonormal polynomials at the same levels, of which there is one each
    rw [hB, hB', ext_get (hrows'.trans hrows.symm) (hcols'.trans (hlength.trans hcols.symm))]
    intro i j hi hj
    rw [hrows'] at hi
    rw [hcols', hlength] at hj
    exact ((hpoly' i hi).of_affine hc rfl).eq (hpoly i hi) j hj
  · -- the first degree out of range is refused alike
    push Not at hdegrees
    obtain ⟨f, hf, -, hblock⟩ := @block_of_degree α (Scalar.withFactors factors) xs degrees hdegrees
    obtain ⟨f', hf', -, hblock'⟩ :=
      @block_of_degree α (Scalar.withFactors factors') (xs.map fun x => c * x + t) degrees
        (hlength.symm ▸ hdegrees)
    rw [hlength] at hf'
    obtain rfl : f' = f := Except.error.inj (hf'.symm.trans hf)
    exact hblock'.trans hblock.symm

/-- **The rows of a polynomial contrast are the orthonormal polynomials at the levels.**  Only
degrees that are out of range are refused, the rows are those of the polynomials whatever the
factorization, and moving the levels or scaling them up makes no difference.  Repeated levels are
refused. -/
theorem polynomial_contrasts (xs : List α) (degrees : List ℤ) :
    (xs.Nodup → ∀ factors, HasFactors factors xs →
      ((∃ f, blockWith factors xs (degrees.map .int) = .error f ∧ f.kind = .validation) ↔
        ∃ d ∈ degrees, ¬ IsDegreeBelow xs.length d) ∧
      ((∀ d ∈ degrees, IsDegreeBelow xs.length d) →
        ∃ B, blockWith factors xs (degrees.map .int) = .ok B ∧ B.rows = degrees.length ∧
          B.cols = xs.length ∧
          (∀ i (hi : i < degrees.length),
            IsOrthonormalPolynomial xs degrees[i].toNat (B.get i)) ∧
          (∀ i j (hi : i < degrees.length) (hj : j < degrees.length), degrees[i] ≠ degrees[j] →
            ∑ l ∈ range xs.length, B.get i l * B.get j l = 0) ∧
          B.RowsSumToZero) ∧
      (∀ factors', HasFactors factors' xs →
        blockWith factors' xs (degrees.map .int) = blockWith factors xs (degrees.map .int)) ∧
      ∀ c t : α, 0 < c → ∀ factors', HasFactors factors' (xs.map fun x => c * x + t) →
        blockWith factors' (xs.map fun x => c * x + t) (degrees.map .int) =
          blockWith factors xs (degrees.map .int)) ∧
    (¬ xs.Nodup → ∀ factors,
      ∃ f, blockWith factors xs (degrees.map .int) = .error f ∧ f.kind = .validation) := by
  refine ⟨fun hdistinct factors h => ⟨blockWith_validation_iff h hdistinct degrees,
    fun hdegrees => ?_, fun factors' h' => ?_,
    fun c t hc factors' h' => blockWith_map_affine h hdistinct hc h' degrees⟩,
    fun hrepeated factors => ?_⟩
  · obtain ⟨B, hB, hrows, hcols, hpoly⟩ := blockWith_of_degrees h hdistinct hdegrees
    refine ⟨B, hB, hrows, hcols, hpoly, fun i j hi hj hne => ?_, ?_⟩
    · refine (hpoly i hi).orthogonal_of_ne (hpoly j hj) fun heq => hne ?_
      exact (IsDegreeBelow.toNat_inj (hdegrees _ (List.getElem_mem hi))
        (hdegrees _ (List.getElem_mem hj))).mp heq.symm
    · rw [rowsSumToZero_iff, hrows, hcols]
      exact fun i hi => (hpoly i hi).sum_eq_zero (hdegrees _ (List.getElem_mem hi)).toNat.1
  · -- the levels as they are
    have hsame : (xs.map fun x => 1 * x + 0) = xs := by simp
    rw [← blockWith_map_affine h hdistinct one_pos (hsame.symm ▸ h') degrees, hsame]
  · exact @block_of_repeated α (Scalar.withFactors factors) xs degrees
      ((Scalar.allDistinct_withFactors factors xs).trans
        (Bool.eq_false_iff.mpr fun h => hrepeated (allDistinct_eq_true_iff.mp h)))

/-- Visits early and late in a trial, at whose times the orthonormal polynomials are rational. -/
def visitTimes : List ℚ := [-7, -1, 1, 7]

/-- The orthonormal factor of the powers of the times. -/
def visitUnits : Mat ℚ := .ofArray 4 4 #[
  1 / 2, -7 / 10, 1 / 2, -1 / 10,
  1 / 2, -1 / 10, -1 / 2, 7 / 10,
  1 / 2, 1 / 10, -1 / 2, -7 / 10,
  1 / 2, 7 / 10, 1 / 2, 1 / 10]

/-- The triangular factor. -/
def visitTriangle : Mat ℚ := .ofArray 4 4 #[
  2, 0, 50 / 49, 0,
  0, 10 / 7, 0, 2402 / 1715,
  0, 0, 48 / 49, 0,
  0, 0, 0, 48 / 245]

theorem isFactorization_visitTimes :
    (powers (standardize visitTimes)).IsFactorization visitUnits visitTriangle where
  product := by decide +kernel
  orthonormal := by decide +kernel
  rows := by decide +kernel
  triangular := by decide +kernel

/-- The cubic and the linear trend over the visits are orthonormal polynomials of degrees three and
one, with either signs of the factors; a trend of degree four is refused. -/
theorem polynomial_contrasts_visitTimes :
    (∃ B, blockWith (fun _ => (visitUnits, visitTriangle)) visitTimes [.int 3, .int 1] = .ok B ∧
      blockWith (fun _ => (visitUnits.map (-·), visitTriangle.map (-·))) visitTimes
        [.int 3, .int 1] = .ok B ∧
      IsOrthonormalPolynomial visitTimes 3 (B.get 0) ∧
      ∑ l ∈ range 4, B.get 0 l * B.get 1 l = 0) ∧
    ∃ f, blockWith (fun _ => (visitUnits, visitTriangle)) visitTimes [.int 4] = .error f ∧
      f.kind = .validation := by
  have hfactors : HasFactors (fun _ => (visitUnits, visitTriangle)) visitTimes :=
    isFactorization_visitTimes
  have hnegated : HasFactors (fun _ => (visitUnits.map (-·), visitTriangle.map (-·))) visitTimes :=
    isFactorization_visitTimes.neg
  obtain ⟨-, hbuilt, hfree, -⟩ := (polynomial_contrasts visitTimes [3, 1]).1 (by decide) _ hfactors
  obtain ⟨hrefused, -⟩ := (polynomial_contrasts visitTimes [4]).1 (by decide) _ hfactors
  obtain ⟨B, hB, -, -, hrows, horthogonal, -⟩ := hbuilt (by simp [IsDegreeBelow, visitTimes])
  exact ⟨⟨B, hB, (hfree _ hnegated).trans hB, hrows 0 (by decide),
    horthogonal 0 1 (by decide) (by decide) (by decide)⟩,
    hrefused.mpr ⟨4, List.mem_singleton_self 4, by simp [IsDegreeBelow, visitTimes]⟩⟩

end Polynomial

end StudyPower
