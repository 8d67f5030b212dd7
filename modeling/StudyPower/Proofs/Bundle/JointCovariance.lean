import Mathlib
import StudyPower.Proofs.Bundle.Guided

/-!
# The joint covariance of outcomes and covariate

With a Gaussian covariate a bundle holds three blocks of one covariance matrix: that of the
outcomes, that of the covariate, and the covariances of the two.  The sizes of the last two are
those of the literal matrices, and a guided design repeats the covariances for each cluster member.
No size of theirs is compared with the number of outcomes, except that a guided design does not
accept more rows of covariances for one member than there are outcomes of all members.

## Main definitions

* `jointMat? y g yg` — the joint covariance, when its blocks fit together.

## Main statements

* `isSome_jointMat?_iff` — the sizes that make the blocks fit.
* `StudyDesign.joint_fits_iff` — **the blocks of an assembled bundle fit together exactly when the
  literal matrices have the sizes that one cluster member asks for.**
-/

namespace StudyPower

open Mat

variable {α : Type} [Scalar α]

/-- The covariance of outcomes and covariate together: `y` and `yg` above the transpose of `yg` and
`g`. -/
def jointMat? (y g yg : Mat α) : Option (Mat α) := do
  (← y.beside? yg).above? (← yg.transpose.beside? g)

/-- Two blocks fit beside the covariance of `p` outcomes when one is square and the other has a row
for each outcome. -/
theorem isSome_jointMat?_iff {p : ℕ} {y g yg : Mat α} (hy : y.shape = (p, p)) :
    (jointMat? y g yg).isSome ↔ g.rows = g.cols ∧ yg.shape = (p, g.cols) := by
  have hrows : y.rows = p := congrArg Prod.fst hy
  have hcols : y.cols = p := congrArg Prod.snd hy
  constructor
  · intro h
    obtain ⟨m, hm⟩ := Option.isSome_iff_exists.mp h
    unfold jointMat? at hm
    obtain ⟨top, htop, hm⟩ := Option.bind_eq_some_iff.mp hm
    obtain ⟨bottom, hbottom, hm⟩ := Option.bind_eq_some_iff.mp hm
    obtain ⟨htopRows, -, htopCols⟩ := sizes_of_beside? htop
    obtain ⟨hbottomRows, -, hbottomCols⟩ := sizes_of_beside? hbottom
    rw [rows_transpose] at hbottomRows
    rw [cols_transpose] at hbottomCols
    have hjoined := (sizes_of_above? hm).1
    have hygcols : yg.cols = g.cols := by omega
    exact ⟨by omega, Prod.ext (by simpa [shape] using htopRows.symm.trans hrows) hygcols⟩
  · rintro ⟨hsquare, hshape⟩
    have hygrows : yg.rows = p := congrArg Prod.fst hshape
    have hygcols : yg.cols = g.cols := congrArg Prod.snd hshape
    obtain ⟨top, htop, -, htopCols⟩ := exists_beside? (hrows.trans hygrows.symm)
    obtain ⟨bottom, hbottom, -, hbottomCols⟩ :=
      exists_beside? (show yg.transpose.rows = g.rows from hygcols.trans hsquare.symm)
    rw [cols_transpose] at hbottomCols
    obtain ⟨m, hm, -⟩ := exists_above? (show top.cols = bottom.cols by omega)
    unfold jointMat?
    rw [htop, hbottom]
    exact Option.isSome_iff_exists.mpr ⟨m, hm⟩

namespace StudyDesign

variable {d : StudyDesign α} {limits : Limits} {b : Bundle α}

/-- The blocks of a design with a covariate. -/
theorem joint_of_outcomeCovariance (hgaussian : d.gaussianCovariate = true)
    {c : OutcomeCovariance α} (h : d.outcomeCovariance.outcome = .ok c) :
    ∃ y g yg, c = .joint y g yg ∧ d.sigmaCovariate = some g ∧
      (d.sigmaOutcomeCovariate (some g) (some y)).outcome = .ok (some yg) := by
  unfold outcomeCovariance at h
  rw [if_pos hgaussian] at h
  simp only [Journal.outcome_bind_eq_ok_iff, Journal.outcome_monadLift, Journal.outcome_pure,
    requireMat_eq_ok_iff, Except.ok.injEq] at h
  obtain ⟨y?, -, y, -, g, ⟨hg, -⟩, yg?, hyg, yg, ⟨rfl, -⟩, rfl⟩ := h
  exact ⟨y, g, yg, rfl, hg, hyg⟩

/-- The variance of the covariate has the shape of the literal matrix. -/
theorem shape_of_sigmaCovariate {g : Mat α} (h : d.sigmaCovariate = some g) :
    ∃ g₀, d.matrix .sigmaGaussian = some g₀ ∧ g.shape = g₀.shape := by
  unfold sigmaCovariate at h
  simp only at h
  split at h
  · exact ⟨g, h, rfl⟩
  · obtain ⟨g₀, hg₀, hg⟩ := Option.map_eq_some_iff.mp h
    refine ⟨g₀, hg₀, ?_⟩
    split at hg
    · rw [hg]
    · rw [← hg]
      rfl

theorem sigmaOutcomeCovariate_of_matrixMode (hmode : d.isMatrixMode = true)
    {g y : Option (Mat α)} {yg : Mat α}
    (h : (d.sigmaOutcomeCovariate g y).outcome = .ok (some yg)) :
    d.matrix .sigmaOutcomeGaussian = some yg := by
  unfold sigmaOutcomeCovariate at h
  split at h
  · cases h
  · next cross hcross =>
    rw [if_pos hmode] at h
    rw [hcross, ← Except.ok.inj h]

/-- A guided design repeats the covariances of one member for each, and refuses only more rows for
one member than there are outcomes. -/
theorem sigmaOutcomeCovariate_of_guided (hguided : d.isMatrixMode = false) {g y yg : Mat α}
    (h : (d.sigmaOutcomeCovariate (some g) (some y)).outcome = .ok (some yg)) :
    ∃ yg₀ n, d.matrix .sigmaOutcomeGaussian = some yg₀ ∧ d.clusterSize = .ok n ∧
      yg₀.rows ≤ y.rows ∧ yg.rows = n.getD 1 * yg₀.rows ∧ yg.cols = yg₀.cols := by
  unfold sigmaOutcomeCovariate at h
  split at h
  · cases h
  · next cross hcross =>
    rw [hguided, if_neg Bool.false_ne_true] at h
    split at h
    · cases h
    · cases h
    · next y' variance y'' hvariance hy =>
      obtain rfl := Option.some.inj hy
      split at h
      · cases h
      · next hsize =>
        split at h
        · cases h
        · simp only [Journal.outcome_bind_eq_ok_iff, Journal.outcome_monadLift,
            Journal.outcome_noteMat, Journal.outcome_pure, Except.ok.injEq, Option.some.injEq] at h
          obtain ⟨-, -, n, hn, x, hx, rfl⟩ := h
          obtain ⟨hrows, hcols⟩ := repeatDown_sizes_of_ok hx
          rw [not_or, not_lt] at hsize
          exact ⟨cross, n, hcross, hn, hsize.1, hrows, hcols⟩

/-- The means and the covariances of outcomes and covariate are the literal matrices, copied equally
often. -/
theorem exists_copies (h : d.Assembled limits b) {g y yg : Mat α}
    (hyg : (d.sigmaOutcomeCovariate (some g) (some y)).outcome = .ok (some yg)) :
    ∃ β₀ yg₀ k, d.matrix .beta = some β₀ ∧ d.matrix .sigmaOutcomeGaussian = some yg₀ ∧ 1 ≤ k ∧
      b.beta.cols = k * β₀.cols ∧ yg.rows = k * yg₀.rows ∧ yg.cols = yg₀.cols := by
  have hbeta := h.beta
  cases hmode : d.isMatrixMode with
  | true =>
    unfold betaEffects at hbeta
    rw [hmode, if_pos rfl] at hbeta
    obtain ⟨hbeta, -⟩ := Effects.mk.inj (Except.pure_eq_ok_iff.mp hbeta)
    have hcross := sigmaOutcomeCovariate_of_matrixMode hmode hyg
    exact ⟨b.beta, yg, 1, hbeta, hcross, le_refl 1, (Nat.one_mul _).symm, (Nat.one_mul _).symm, rfl⟩
  | false =>
    obtain ⟨n, fixed, random, hn, hfixed, -, heffects⟩ := betaEffects_of_guided hmode hbeta
    obtain ⟨rfl, -⟩ := Effects.mk.inj heffects
    obtain ⟨β₀, hβ₀, hacross⟩ := Option.mapM_eq_ok_some_iff.mp hfixed
    obtain ⟨yg₀, n', hyg₀, hn', -, hrows, hcols⟩ := sigmaOutcomeCovariate_of_guided hmode hyg
    obtain rfl : n = n' := Except.ok.inj (hn.symm.trans hn')
    exact ⟨β₀, yg₀, n.getD 1, hβ₀, hyg₀, one_le_of_clusterSize hn,
      (repeatAcross_sizes_of_ok hacross).2, hrows, hcols⟩

theorem Assembled.shape_outcome_of_joint (h : d.Assembled limits b) {y g yg : Mat α}
    (hjoint : b.covariance = .joint y g yg) : y.shape = (b.beta.cols, b.beta.cols) := by
  have hshape := h.coherent.outcome_shape
  rwa [hjoint] at hshape

/-- **The blocks of an assembled bundle fit together exactly when the literal matrices have the
sizes that one cluster member asks for.** -/
theorem joint_fits_iff (h : (d.assemble limits).outcome = .ok b)
    (hgaussian : d.gaussianCovariate = true) :
    ∃ y g yg β₀ g₀ yg₀, b.covariance = .joint y g yg ∧ d.matrix .beta = some β₀ ∧
      d.matrix .sigmaGaussian = some g₀ ∧ d.matrix .sigmaOutcomeGaussian = some yg₀ ∧
      ((g.rows = g.cols ∧ yg.shape = (b.beta.cols, g.cols)) ↔
        g₀.rows = g₀.cols ∧ yg₀.shape = (β₀.cols, g₀.cols)) ∧
      ((jointMat? y g yg).isSome ↔ g₀.rows = g₀.cols ∧ yg₀.shape = (β₀.cols, g₀.cols)) := by
  have hassembled := assembled_of_ok h
  obtain ⟨y, g, yg, hjoint, hg, hyg⟩ :=
    joint_of_outcomeCovariance hgaussian hassembled.covariance
  obtain ⟨g₀, hg₀, hgshape⟩ := shape_of_sigmaCovariate hg
  obtain ⟨β₀, yg₀, k, hβ₀, hyg₀, hk, hbcols, hygrows, hygcols⟩ := exists_copies hassembled hyg
  have houtcome := hassembled.shape_outcome_of_joint hjoint
  have hsizes : (g.rows = g.cols ∧ yg.shape = (b.beta.cols, g.cols)) ↔
      g₀.rows = g₀.cols ∧ yg₀.shape = (β₀.cols, g₀.cols) := by
    obtain ⟨hgrows, hgcols⟩ := Prod.mk.inj hgshape
    unfold shape
    -- as many copies of the rows as of the outcomes
    rw [Prod.mk.injEq, Prod.mk.injEq, hgrows, hgcols, hygrows, hygcols, hbcols,
      Nat.mul_left_cancel_iff hk]
  exact ⟨y, g, yg, β₀, g₀, yg₀, hjoint, hβ₀, hg₀, hyg₀, hsizes,
    (isSome_jointMat?_iff houtcome).trans hsizes⟩

/-- The trial in schools gives two covariances for the two outcomes of a pupil, and the blocks fit
together. -/
theorem joint_fits_iff_schoolTrial :
    ∃ b y g yg, (schoolTrial.assemble {}).outcome = .ok b ∧ b.covariance = .joint y g yg ∧
      (jointMat? y g yg).isSome := by
  obtain ⟨b, h⟩ := Except.exists_eq_ok_of_isSome
    (show (schoolTrial.assemble {}).outcome.toOption.isSome by decide +kernel)
  obtain ⟨y, g, yg, β₀, g₀, yg₀, hjoint, hβ₀, hg₀, hyg₀, -, hfits⟩ :=
    joint_fits_iff h (by decide +kernel)
  cases hβ₀
  cases hg₀
  cases hyg₀
  exact ⟨b, y, g, yg, h, hjoint, hfits.mpr ⟨rfl, rfl⟩⟩

/-- A trial of two treatments at sites of two patients, with one outcome and a covariate, for which
two covariances are given. -/
def siteTrial : StudyDesign ℚ := { schoolTrial with
  factors := [⟨"treatment", 2⟩]
  measures := []
  clusters := [⟨"site", .int 2, .real (1 / 10)⟩]
  responses := ["y"]
  covariances := [
    ⟨responseCovarianceName, .covariance, .null, .null, none, some (.ofArray 1 1 #[4])⟩]
  groupSizes := none
  hypotheses := [⟨.mainEffect, [⟨"treatment", .known .none⟩], []⟩]
  matrices := [
    ("beta", .ofArray 2 1 #[0, 1]),
    ("betaRandom", .ofArray 1 1 #[1 / 2]),
    ("sigmaGaussianRandom", .ofArray 1 1 #[2]),
    ("sigmaOutcomeGaussianRandom", .ofArray 2 1 #[1 / 2, 1 / 5])] }

/-- The trial is accepted, with four rows of covariances for the two outcomes at a site. -/
theorem not_joint_fits_siteTrial :
    ∃ b y g yg, (siteTrial.assemble {}).outcome = .ok b ∧ b.covariance = .joint y g yg ∧
      b.beta.cols = 2 ∧ yg.shape = (4, 1) ∧ jointMat? y g yg = none := by
  have hsome : (siteTrial.assemble {}).outcome.toOption.map (fun b => (b.beta.cols,
      match b.covariance with
      | .error _ => (0, 0)
      | .joint _ _ yg => yg.shape)) = some (2, (4, 1)) := by decide +kernel
  obtain ⟨b, hb, hsizes⟩ := Option.map_eq_some_iff.mp hsome
  have hassembled := assembled_of_ok (Except.eq_ok_of_toOption hb)
  obtain ⟨y, g, yg, hjoint, -⟩ :=
    joint_of_outcomeCovariance (by decide +kernel) hassembled.covariance
  have houtcome := hassembled.shape_outcome_of_joint hjoint
  rw [hjoint] at hsizes
  obtain ⟨hcols, hshape⟩ := Prod.mk.inj hsizes
  have hshape : yg.shape = (4, 1) := hshape
  refine ⟨b, y, g, yg, Except.eq_ok_of_toOption hb, hjoint, hcols, hshape, ?_⟩
  rw [← Option.not_isSome_iff_eq_none, isSome_jointMat?_iff houtcome, hshape, hcols]
  rintro ⟨-, hfour⟩
  have hrows : 4 = 2 := congrArg Prod.fst hfour
  omega

end StudyDesign

end StudyPower
