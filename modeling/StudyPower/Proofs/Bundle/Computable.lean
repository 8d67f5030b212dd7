import Mathlib
import StudyPower.Proofs.Bundle.Guided

/-!
# Hypotheses that can be evaluated

An engine evaluates a hypothesis as the product of the contrast between participants, the means and
the contrast within participants, each with its part for the covariate.  Those parts are compared
only when both are there, and a contrast of all polynomials at a single point has no comparison at
all, so an assembled bundle may hold a hypothesis that cannot be evaluated.

## Main definitions

* `Bundle.IsEvaluated b C B U T` — the hypothesis of `b` is that `C * B * U` equals `T`.
* `Bundle.Computable b` — there are such matrices, and their sizes meet.
* `StudyDesign.covariateColumns`, `StudyDesign.covariateRows` — the sizes of the parts for the
  covariate.
* `StudyDesign.HasEmptyContrast` — a contrast has no comparison.

## Main statements

* `Bundle.computable_iff` — for a coherent bundle, two sizes are left to be compared.
* `StudyDesign.computable_iff_of_assemble` — **the hypothesis of an assembled design can be
  evaluated exactly when the parts for the covariate meet and no contrast is empty.**
-/

namespace StudyPower

open Mat Contrast

variable {α : Type} [Scalar α]

/-! ### Joining two parts -/

/-- The number of rows of a part that may be absent. -/
def rowsOf (m : Option (Mat α)) : ℕ := (m.map Mat.rows).getD 0

/-- The number of columns of a part that may be absent. -/
def colsOf (m : Option (Mat α)) : ℕ := (m.map Mat.cols).getD 0

theorem combined_beside {fixed : Mat α} {random : Option (Mat α)}
    (h : ∀ r, random = some r → r.rows = fixed.rows) :
    ∃ C, (Effects.mk (some fixed) random .beside).combined = .ok (some C) ∧
      C.rows = fixed.rows ∧ C.cols = fixed.cols + colsOf random := by
  unfold Effects.combined
  cases random with
  | none => exact ⟨fixed, rfl, rfl, rfl⟩
  | some r =>
    obtain ⟨C, hC, hsizes⟩ := exists_beside? (h r rfl).symm
    refine ⟨C, ?_, hsizes⟩
    simp only [Joining.join, hC]
    rfl

theorem combined_below {fixed : Mat α} {random : Option (Mat α)}
    (h : ∀ r, random = some r → r.cols = fixed.cols) :
    ∃ B, (Effects.mk (some fixed) random .below).combined = .ok (some B) ∧
      B.rows = fixed.rows + rowsOf random ∧ B.cols = fixed.cols := by
  unfold Effects.combined
  cases random with
  | none => exact ⟨fixed, rfl, rfl, rfl⟩
  | some r =>
    obtain ⟨B, hB, hsizes⟩ := exists_above? (h r rfl).symm
    refine ⟨B, ?_, hsizes⟩
    simp only [Joining.join, hB]
    rfl

namespace Bundle

/-! ### The hypothesis of a bundle -/

/-- The hypothesis says that `C * B * U` equals `T`, and the product is defined and not empty. -/
structure IsEvaluated (b : Bundle α) (C B U T : Mat α) : Prop where
  /-- The contrast between participants, with its part for the covariate. -/
  contrast : StudyDesign.combinedContrast b.between = .ok (some C)
  /-- The means, with the coefficients of the covariate. -/
  means : b.betaEffects.combined = .ok (some B)
  /-- The contrast within participants. -/
  within : b.within = some U
  /-- The null hypothesis. -/
  thetaNull : b.thetaNull = some T
  /-- The first product is defined. -/
  contrast_cols : C.cols = B.rows
  /-- The second product is defined. -/
  means_cols : B.cols = U.rows
  /-- The null hypothesis has the shape of the product. -/
  thetaNull_shape : T.shape = (C.rows, U.cols)
  /-- There is a comparison between participants. -/
  rows_pos : 0 < C.rows
  /-- There is a comparison within participants. -/
  cols_pos : 0 < U.cols

/-- The hypothesis can be evaluated. -/
def Computable (b : Bundle α) : Prop := ∃ C B U T, b.IsEvaluated C B U T

/-- For a coherent bundle, only the parts for the covariate and the numbers of comparisons are left
to be looked at. -/
theorem computable_iff {b : Bundle α} (h : b.Coherent) {random : Option (Mat α)} {c u : Mat α}
    (hbetween : b.between = some ⟨some c, random, .beside⟩) (hwithin : b.within = some u) :
    b.Computable ↔ colsOf random = rowsOf b.betaRandom ∧ 0 < c.rows ∧ 0 < u.cols := by
  have hfixed : b.fixedContrast = some c := by rw [fixedContrast, hbetween, Option.bind_some]
  have hrandom : b.randomContrast = random := by rw [randomContrast, hbetween, Option.bind_some]
  obtain ⟨C, hC, hCrows, hCcols⟩ := combined_beside fun r hr =>
    h.randomContrast_rows c r hfixed (hrandom.trans hr)
  obtain ⟨B, hB, hBrows, hBcols⟩ := combined_below h.betaRandom_cols
  obtain ⟨T, hT, hTshape⟩ := h.thetaNull_shape c u hfixed hwithin
  have hcontrast : StudyDesign.combinedContrast b.between = .ok (some C) := by
    rw [hbetween]
    exact hC
  have hcols := (h.fixedContrast_cols c hfixed).trans h.beta_rows.symm
  constructor
  · rintro ⟨C', B', U', T', heval⟩
    obtain rfl : C = C' := by simpa using hcontrast.symm.trans heval.contrast
    obtain rfl : B = B' := by simpa using hB.symm.trans heval.means
    obtain rfl : u = U' := Option.some.inj (hwithin.symm.trans heval.within)
    have hmeet := heval.contrast_cols
    refine ⟨by omega, hCrows ▸ heval.rows_pos, heval.cols_pos⟩
  · rintro ⟨hmeet, hrows, hucols⟩
    exact ⟨C, B, u, T, {
      contrast := hcontrast
      means := hB
      within := hwithin
      thetaNull := hT
      contrast_cols := by omega
      means_cols := by rw [hBcols, h.within_rows u hwithin]
      thetaNull_shape := by rw [hTshape, hCrows]
      rows_pos := by omega
      cols_pos := hucols }⟩

end Bundle

namespace StudyDesign

variable {d : StudyDesign α} {limits : Limits} {b : Bundle α}

/-! ### The parts for the covariate -/

/-- The number of columns of the contrast for the covariate.  A guided design with a covariate has
one, which tests nothing. -/
def covariateColumns (d : StudyDesign α) : ℕ :=
  if d.isMatrixMode then colsOf (d.matrix .betweenContrastRandom)
  else if d.gaussianCovariate then 1 else 0

/-- The number of rows of coefficients of the covariate. -/
def covariateRows (d : StudyDesign α) : ℕ := rowsOf (d.matrix .betaRandom)

/-- The parts of a contrast between participants are joined side by side. -/
theorem betweenContrast_of_fixed {e : Option (Effects α)} (h : d.betweenContrast = .ok e)
    {c : Mat α} (hc : e.bind (·.fixed) = some c) :
    ∃ random, e = some ⟨some c, random, .beside⟩ ∧ colsOf random = d.covariateColumns := by
  unfold covariateColumns
  cases hmode : d.isMatrixMode with
  | true =>
    unfold betweenContrast at h
    rw [hmode, if_pos rfl] at h
    split at h
    · rw [← Except.pure_eq_ok_iff.mp h] at hc
      cases hc
    · rw [← Except.pure_eq_ok_iff.mp h] at hc ⊢
      rw [Option.bind_some] at hc
      exact ⟨_, by rw [← hc], rfl⟩
  | false =>
    cases hprimary : d.primaryHypothesis with
    | none =>
      unfold betweenContrast at h
      rw [hmode, if_neg Bool.false_ne_true, hprimary] at h
      rw [← Except.pure_eq_ok_iff.mp h] at hc
      cases hc
    | some g =>
      obtain ⟨C, -, rfl⟩ := betweenContrast_of_guided hmode hprimary h
      obtain rfl : C = c := Option.some.inj hc
      refine ⟨_, rfl, ?_⟩
      cases d.gaussianCovariate with
      | true => rfl
      | false => rfl

theorem rowsOf_mapM_repeatAcross {n : Option ℕ} {m x : Option (Mat α)}
    (h : m.mapM (repeatAcross n) = .ok x) : rowsOf x = rowsOf m := by
  cases m with
  | none => rw [← Except.pure_eq_ok_iff.mp h]
  | some m =>
    obtain ⟨y, hy, rfl⟩ := Except.map_eq_ok_iff.mp h
    exact (repeatAcross_sizes_of_ok hy).1

/-- The coefficients for a cluster have the rows of those for one member. -/
theorem rowsOf_betaEffects {fixed random : Option (Mat α)}
    (h : d.betaEffects = .ok ⟨fixed, random, .below⟩) : rowsOf random = d.covariateRows := by
  unfold covariateRows
  cases hmode : d.isMatrixMode with
  | true =>
    unfold betaEffects at h
    rw [hmode, if_pos rfl] at h
    obtain ⟨-, hrandom, -⟩ := Effects.mk.inj (Except.pure_eq_ok_iff.mp h)
    rw [hrandom]
  | false =>
    obtain ⟨n, fixed', random', -, -, hrandom, heffects⟩ := betaEffects_of_guided hmode h
    obtain ⟨-, rfl, -⟩ := Effects.mk.inj heffects
    exact rowsOf_mapM_repeatAcross hrandom

/-! ### Empty contrasts -/

/-- A contrast has no comparison: a literal one has no row or column, or all polynomials are asked
for at a single point. -/
def HasEmptyContrast (d : StudyDesign α) : Prop :=
  if d.isMatrixMode then
    (∃ c, d.matrix .betweenContrast = some c ∧ c.rows = 0) ∨
      ∃ u, d.matrix .withinContrast = some u ∧ u.cols = 0
  else ∃ g, d.primaryHypothesis = some g ∧
    (HasEmptyTrend (factorLevels d.factors) g.kind g.between ∨
      HasEmptyTrend (measureLevels d.measures) g.kind g.within)

theorem hasEmptyContrast_iff [Scalar.KeepsRows α] {c u : Mat α} {random : Option (Mat α)}
    (hbetween : d.betweenContrast = .ok (some ⟨some c, random, .beside⟩))
    (hwithin : d.withinContrast.outcome = .ok (some u)) (hpos : 0 < u.rows) :
    d.HasEmptyContrast ↔ c.rows = 0 ∨ u.cols = 0 := by
  unfold HasEmptyContrast
  cases hmode : d.isMatrixMode with
  | true =>
    have hc : d.matrix .betweenContrast = some c := by
      unfold betweenContrast at hbetween
      rw [hmode, if_pos rfl] at hbetween
      split at hbetween
      · cases hbetween
      · obtain ⟨hc, -⟩ := Effects.mk.inj (Option.some.inj (Except.pure_eq_ok_iff.mp hbetween))
        exact hc
    have hu : d.matrix .withinContrast = some u := by
      unfold withinContrast at hwithin
      rw [hmode, if_pos rfl] at hwithin
      exact Except.ok.inj hwithin
    simp [hc, hu]
  | false =>
    rw [if_neg Bool.false_ne_true]
    cases hprimary : d.primaryHypothesis with
    | none => simp [withinContrast, hmode, hprimary] at hwithin
    | some g =>
      obtain ⟨C, hC, heffects⟩ := betweenContrast_of_guided hmode hprimary hbetween
      obtain ⟨W, n, U, hW, -, hdown, hU⟩ := withinContrast_of_guided hmode hprimary hwithin
      obtain rfl : u = U := Option.some.inj hU
      obtain ⟨hc, -⟩ := Effects.mk.inj (Option.some.inj heffects)
      obtain rfl : c = C := Option.some.inj hc
      obtain ⟨hrows, hcols⟩ := repeatDown_sizes_of_ok hdown
      have hWpos : 0 < W.rows := Nat.pos_of_mul_pos_left (hrows ▸ hpos)
      rw [(guidedBetween_sizes_of_ok hC).1, hcols, cols_of_guidedWithin_eq_zero_iff hW hWpos]
      simp

/-- **The hypothesis of an assembled design can be evaluated exactly when the parts for the
covariate meet and no contrast is empty.** -/
theorem computable_iff_of_assemble [Scalar.KeepsRows α] (h : (d.assemble limits).outcome = .ok b)
    {c u : Mat α} (hc : b.fixedContrast = some c) (hu : b.within = some u) :
    b.Computable ↔ d.covariateColumns = d.covariateRows ∧ ¬ d.HasEmptyContrast := by
  have hassembled := assembled_of_ok h
  have hcoherent := hassembled.coherent
  obtain ⟨random, hbetween, hcolumns⟩ := betweenContrast_of_fixed hassembled.between hc
  have hempty : d.HasEmptyContrast ↔ c.rows = 0 ∨ u.cols = 0 := by
    refine hasEmptyContrast_iff (hbetween ▸ hassembled.between) (hu ▸ hassembled.within) ?_
    rw [hcoherent.within_rows u hu]
    exact hcoherent.beta_cols
  rw [Bundle.computable_iff hcoherent hbetween hu, hcolumns, rowsOf_betaEffects hassembled.beta,
    hempty, not_or, Nat.pos_iff_ne_zero, Nat.pos_iff_ne_zero]

/-- The trial in schools has coefficients for its covariate, and its hypothesis can be evaluated. -/
theorem computable_iff_of_assemble_schoolTrial :
    ∃ b, (schoolTrial.assemble {}).outcome = .ok b ∧ b.Computable := by
  obtain ⟨b, hb⟩ := Option.isSome_iff_exists.mp
    (show (schoolTrial.assemble {}).outcome.toOption.isSome by decide +kernel)
  have h := Except.eq_ok_of_toOption hb
  have hparts : (schoolTrial.assemble {}).outcome.toOption.map
      (fun b => (b.fixedContrast.isSome, b.within.isSome)) = some (true, true) := by
    decide +kernel
  rw [hb, Option.map_some, Option.some.injEq, Prod.mk.injEq] at hparts
  obtain ⟨c, hc⟩ := Option.isSome_iff_exists.mp hparts.1
  obtain ⟨u, hu⟩ := Option.isSome_iff_exists.mp hparts.2
  refine ⟨b, h, (computable_iff_of_assemble h hc hu).mpr ⟨by decide +kernel, ?_⟩⟩
  -- a main effect does not look at points
  rintro ⟨g, hg, hempty⟩
  obtain rfl := Option.some.inj hg
  rcases hempty with ⟨name, m, points, n, hmap, -⟩ | ⟨name, m, points, n, hmap, -⟩
  · cases hmap
  · cases hmap

/-- A trial of two treatments with one outcome and a covariate, for which no coefficients are
given. -/
def covariateTrial : StudyDesign ℚ := { schoolTrial with
  factors := [⟨"treatment", 2⟩]
  measures := []
  clusters := []
  responses := ["y"]
  covariances := [
    ⟨responseCovarianceName, .covariance, .null, .null, none, some (.ofArray 1 1 #[4])⟩]
  groupSizes := none
  hypotheses := [⟨.mainEffect, [⟨"treatment", .known .none⟩], []⟩]
  matrices := [
    ("beta", .ofArray 2 1 #[0, 1]),
    ("sigmaGaussianRandom", .ofArray 1 1 #[2]),
    ("sigmaOutcomeGaussianRandom", .ofArray 1 1 #[1 / 2])] }

/-- A trial of a single treatment without a covariate, with all polynomials under test. -/
def singleTrial : StudyDesign ℚ := { covariateTrial with
  covariateFlag := .bool false
  factors := [⟨"treatment", 1⟩]
  hypotheses := [⟨.trend, [⟨"treatment", .known .allPolynomial⟩], []⟩]
  matrices := [("beta", .ofArray 1 1 #[1])] }

/-- The shapes of the contrast between participants and of the means, each with its part for the
covariate. -/
def hypothesisShapes (b : Bundle α) : Option (ℕ × ℕ) × Option (ℕ × ℕ) :=
  ((combinedContrast b.between).toOption.join.map Mat.shape,
    b.betaEffects.combined.toOption.join.map Mat.shape)

theorem hypothesisShapes_of_isEvaluated {C B U T : Mat α} (h : b.IsEvaluated C B U T) :
    hypothesisShapes b = (some C.shape, some B.shape) := by
  rw [hypothesisShapes, h.contrast, h.means]
  rfl

/-- Both trials are accepted.  The contrast of the first has three columns for two rows of means,
and that of the second has no row. -/
theorem not_computable_covariateTrial :
    (∃ b, (covariateTrial.assemble {}).outcome = .ok b ∧
      hypothesisShapes b = (some (1, 3), some (2, 1)) ∧ ¬ b.Computable) ∧
    ∃ b, (singleTrial.assemble {}).outcome = .ok b ∧
      hypothesisShapes b = (some (0, 1), some (1, 1)) ∧ ¬ b.Computable := by
  constructor
  · obtain ⟨b, hb, hshapes⟩ := Option.map_eq_some_iff.mp
      (show (covariateTrial.assemble {}).outcome.toOption.map hypothesisShapes =
        some (some (1, 3), some (2, 1)) by decide +kernel)
    refine ⟨b, Except.eq_ok_of_toOption hb, hshapes, ?_⟩
    rintro ⟨C, B, U, T, heval⟩
    rw [hypothesisShapes_of_isEvaluated heval, Prod.mk.injEq] at hshapes
    have hcols : C.cols = 3 := congrArg Prod.snd (Option.some.inj hshapes.1)
    have hrows : B.rows = 2 := congrArg Prod.fst (Option.some.inj hshapes.2)
    have hmeet := heval.contrast_cols
    omega
  · obtain ⟨b, hb, hshapes⟩ := Option.map_eq_some_iff.mp
      (show (singleTrial.assemble {}).outcome.toOption.map hypothesisShapes =
        some (some (0, 1), some (1, 1)) by decide +kernel)
    refine ⟨b, Except.eq_ok_of_toOption hb, hshapes, ?_⟩
    rintro ⟨C, B, U, T, heval⟩
    rw [hypothesisShapes_of_isEvaluated heval, Prod.mk.injEq] at hshapes
    have hrows : C.rows = 0 := congrArg Prod.fst (Option.some.inj hshapes.1)
    have hpos := heval.rows_pos
    omega

end StudyDesign

end StudyPower
