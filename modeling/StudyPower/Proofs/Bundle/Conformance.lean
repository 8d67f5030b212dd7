import Mathlib
import StudyPower.Bundle.Assembly
import StudyPower.Proofs.Design.Admission
import StudyPower.Proofs.Mat.Product
import StudyPower.Proofs.Scalar.Exact
import StudyPower.Proofs.Success

/-!
# The matrices of a bundle fit together

A design is assembled from about ten parts, each optional in its own way, and the sizes are compared
part by part.  Whatever is absent, every product that an engine can form from the parts that are
there is defined.

## Main definitions

* `StudyDesign.Assembled d limits b` — what the bundle `b` of the design `d` was assembled from.
* `Bundle.Coherent b` — the sizes of the matrices of `b` agree wherever two of them meet.

## Main statements

* `StudyDesign.assembled_of_ok` — an assembled bundle went through every builder and every check.
* `StudyDesign.coherent_of_assemble` — **an assembled bundle is coherent**, its covariance is of the
  kind that the design asks for, and the covariance of its outcomes is symmetric.
-/

namespace StudyPower

variable {α : Type}

/-! ### What the checks say -/

theorem requireMat_eq_ok_iff {m : Option (Mat α)} {role : MatrixRole} {x : Mat α} :
    requireMat m role = .ok x ↔ m = some x ∧ 0 < x.rows ∧ 0 < x.cols := by
  unfold requireMat
  cases m with
  | none => simp
  | some m =>
    rw [Except.check_bind_eq_ok_iff, checkNonempty_eq_ok_iff, Except.pure_eq_ok_iff]
    constructor
    · rintro ⟨hm, rfl⟩
      exact ⟨rfl, hm⟩
    · rintro ⟨hm, hx⟩
      cases hm
      exact ⟨hx, rfl⟩

namespace Bundle

variable {b : Bundle α}

theorem checkMeans_eq_ok_iff :
    b.checkMeans = .ok () ↔ b.design.cols = b.beta.rows ∧
      ∀ m, b.betaRandom = some m → b.beta.cols = m.cols := by
  unfold checkMeans
  rw [Except.check_bind_eq_ok_iff, checkConformable_eq_ok_iff]
  cases b.betaRandom with
  | none => simp
  | some m => simp [checkConformable_eq_ok_iff]

theorem checkBetween_eq_ok_iff :
    b.checkBetween = .ok () ↔ ∀ c, b.fixedContrast = some c → c.cols = b.beta.rows ∧
      ∀ r, b.randomContrast = some r → c.rows = r.rows ∧
        ∀ m, b.betaRandom = some m → r.cols = m.rows := by
  unfold checkBetween
  cases b.fixedContrast with
  | none => simp
  | some c =>
    simp only [Except.check_bind_eq_ok_iff, checkConformable_eq_ok_iff, Option.some.injEq,
      forall_eq']
    cases b.randomContrast with
    | none => simp
    | some r =>
      simp only [Except.check_bind_eq_ok_iff, checkConformable_eq_ok_iff, Option.some.injEq,
        forall_eq']
      cases b.betaRandom with
      | none => simp
      | some m => simp [checkConformable_eq_ok_iff]

theorem checkWithin_eq_ok_iff :
    b.checkWithin = .ok () ↔ ∀ u, b.within = some u → b.beta.cols = u.rows := by
  unfold checkWithin
  cases b.within with
  | none => simp
  | some u => simp [checkConformable_eq_ok_iff]

theorem checkCovariance_eq_ok_iff :
    b.checkCovariance = .ok () ↔ b.beta.cols = b.covariance.outcome.rows := by
  unfold checkCovariance
  rw [checkConformable_eq_ok_iff]

theorem checkNull_eq_ok_iff :
    b.checkNull = .ok () ↔ ∀ t c u, b.thetaNull = some t → b.fixedContrast = some c →
      b.within = some u → t.shape = (c.rows, u.cols) := by
  unfold checkNull
  cases b.thetaNull with
  | none => simp
  | some t =>
    cases b.fixedContrast with
    | none => simp
    | some c =>
      cases b.within with
      | none => simp
      | some u =>
        by_cases h : t.shape = (c.rows, u.cols)
        · simp [h]
        · simp [h]

/-- The sizes were compared when each of the five comparisons passed. -/
theorem checkConformance_eq_ok_iff :
    b.checkConformance = .ok () ↔ b.checkMeans = .ok () ∧ b.checkBetween = .ok () ∧
      b.checkWithin = .ok () ∧ b.checkNull = .ok () ∧ b.checkCovariance = .ok () := by
  unfold checkConformance
  simp only [Except.check_bind_eq_ok_iff]

/-- The sizes of the matrices of a bundle agree wherever two of them meet in a product. -/
structure Coherent (b : Bundle α) : Prop where
  /-- There is a participant. -/
  design_rows : 0 < b.design.rows
  /-- There is a group. -/
  design_cols : 0 < b.design.cols
  /-- There is an outcome. -/
  beta_cols : 0 < b.beta.cols
  /-- The means have a row for each group. -/
  beta_rows : b.beta.rows = b.design.cols
  /-- The coefficients of the covariate have a column for each outcome. -/
  betaRandom_cols : ∀ m, b.betaRandom = some m → m.cols = b.beta.cols
  /-- The contrast between participants has a column for each group. -/
  fixedContrast_cols : ∀ c, b.fixedContrast = some c → c.cols = b.design.cols
  /-- Its part for the covariate has as many rows. -/
  randomContrast_rows : ∀ c r, b.fixedContrast = some c → b.randomContrast = some r →
    r.rows = c.rows
  /-- That part has a column for each row of coefficients. -/
  randomContrast_cols : ∀ c r m, b.fixedContrast = some c → b.randomContrast = some r →
    b.betaRandom = some m → r.cols = m.rows
  /-- The contrast within participants has a row for each outcome. -/
  within_rows : ∀ u, b.within = some u → u.rows = b.beta.cols
  /-- There is a null hypothesis for each tested comparison. -/
  thetaNull_shape : ∀ c u, b.fixedContrast = some c → b.within = some u →
    ∃ t, b.thetaNull = some t ∧ t.shape = (c.rows, u.cols)
  /-- The covariance of the outcomes has a row and a column for each outcome. -/
  outcome_shape : b.covariance.outcome.shape = (b.beta.cols, b.beta.cols)

end Bundle

/-! ### What a bundle was assembled from -/

namespace StudyDesign

/-- The bundle `b` came out of the builders of an admitted design and passed the checks. -/
structure Assembled [Scalar α] (d : StudyDesign α) (limits : Limits) (b : Bundle α) : Prop where
  /-- The design is within the limits. -/
  admissible : d.checkAdmissible limits = .ok ()
  /-- The design matrix was built. -/
  design : d.designMatrix = .ok (some b.design)
  /-- It has a row and a column. -/
  design_pos : 0 < b.design.rows ∧ 0 < b.design.cols
  /-- The means were built. -/
  beta : d.betaEffects = .ok ⟨some b.beta, b.betaRandom, .below⟩
  /-- They have a row and a column. -/
  beta_pos : 0 < b.beta.rows ∧ 0 < b.beta.cols
  /-- The contrast between participants was built. -/
  between : d.betweenContrast = .ok b.between
  /-- The contrast within participants was built. -/
  within : d.withinContrast.outcome = .ok b.within
  /-- The null hypothesis belongs to these contrasts. -/
  thetaNull : b.thetaNull = d.thetaNull b.between b.within
  /-- The covariance was built. -/
  covariance : d.outcomeCovariance.outcome = .ok b.covariance
  /-- The sizes were compared. -/
  conformance : b.checkConformance = .ok ()

variable [Scalar α] {d : StudyDesign α} {limits : Limits} {b : Bundle α}

/-- The coefficients of the covariate belong below the means in either mode. -/
theorem joining_betaEffects {e : Effects α} (h : d.betaEffects = .ok e) : e.joining = .below := by
  unfold betaEffects at h
  split at h
  · rw [Except.pure_eq_ok_iff] at h
    rw [← h]
  · simp only [Except.bind_eq_ok_iff, Except.pure_eq_ok_iff] at h
    obtain ⟨n, -, fixed, -, random, -, rfl⟩ := h
    rfl

/-- An assembled bundle went through every builder and every check. -/
theorem assembled_of_ok (h : (d.assemble limits).outcome = .ok b) : d.Assembled limits b := by
  unfold assemble at h
  simp only [Journal.outcome_bind_eq_ok_iff, Journal.outcome_monadLift, Journal.outcome_noteMat,
    Journal.outcome_pure, outcome_screen, Except.ok.injEq, requireMat_eq_ok_iff] at h
  obtain ⟨⟨⟩, hscreen, design?, hdesign, design, ⟨rfl, hdesignPos⟩, -, -, effects, heffects, beta,
    ⟨hbeta, hbetaPos⟩, -, -, -, -, between, hbetween, -, -, -, -, within, hwithin, -, -, -, -,
    covariance, hcovariance, ⟨⟩, hconforms, rfl⟩ := h
  -- the means are there, and only they and the coefficients vary among effects
  have heffects' : effects = ⟨some beta, effects.random, .below⟩ := by
    rw [← hbeta, ← joining_betaEffects heffects]
  exact {
    admissible := hscreen
    design := hdesign
    design_pos := hdesignPos
    beta := by rw [heffects, heffects']
    beta_pos := hbetaPos
    between := hbetween
    within := hwithin
    thetaNull := rfl
    covariance := hcovariance
    conformance := hconforms }

/-- The bundle `b` has the goal of a design and the members of its sweep lists. -/
structure Sweeps (d : StudyDesign α) (b : Bundle α) : Prop where
  /-- The same is solved for. -/
  goal : b.goal = d.goal
  /-- The tests are those declared. -/
  tests : b.tests = d.tests.getD []
  /-- The error rates are those declared. -/
  alphas : b.alphas = d.alphas.getD []
  /-- The desired powers are those declared. -/
  nominalPowers : b.nominalPowers = d.nominalPowers.getD []
  /-- The group sizes are those declared. -/
  sampleSizes : b.sampleSizes = d.sampleSizes.getD []
  /-- The scale factors for means are those declared. -/
  betaScales : b.betaScales = d.betaScales.getD []
  /-- The scale factors for variability are those declared. -/
  sigmaScales : b.sigmaScales = d.sigmaScales.getD []

theorem sweeps_of_ok (h : (d.assemble limits).outcome = .ok b) : d.Sweeps b := by
  unfold assemble at h
  simp only [Journal.outcome_bind_eq_ok_iff, Journal.outcome_monadLift, Journal.outcome_noteMat,
    Journal.outcome_pure, Except.ok.injEq] at h
  obtain ⟨_, -, _, -, _, -, _, -, _, -, _, -, _, -, _, -, _, -, _, -, _, -, _, -, _, -, _, -, _, -,
    _, -, rfl⟩ := h
  exact ⟨rfl, rfl, rfl, rfl, rfl, rfl, rfl⟩

/-! ### The covariance of the outcomes -/

/-- A matrix that was made symmetric is square, and its own transpose when addition commutes. -/
theorem transpose_of_symmetric {role : MatrixRole} {m : Option (Mat α)} {s : Mat α}
    (h : symmetric role m = .ok (some s)) :
    s.rows = s.cols ∧ ((∀ x y : α, x + y = y + x) → s.transpose = s) := by
  unfold symmetric at h
  cases m with
  | none => simp at h
  | some m =>
    simp only [Except.check_bind_eq_ok_iff, checkSquare_eq_ok_iff, Except.pure_eq_ok_iff,
      Option.some.injEq] at h
    obtain ⟨hsquare, rfl⟩ := h
    refine ⟨hsquare, fun hadd => ?_⟩
    refine Mat.ext_get hsquare.symm hsquare fun i j hi hj => ?_
    have hi' : i < m.cols := hi
    have hj' : j < m.rows := hj
    rw [Mat.get_transpose, Mat.get_symmetricPart hj' hi',
      Mat.get_symmetricPart (hsquare ▸ hi') (hsquare ▸ hj'), hadd]

/-- The covariance of the errors comes out of `symmetric` in either mode. -/
theorem transpose_of_sigmaError {s : Mat α} (h : d.sigmaError.outcome = .ok (some s)) :
    s.rows = s.cols ∧ ((∀ x y : α, x + y = y + x) → s.transpose = s) := by
  unfold sigmaError at h
  split at h
  · exact transpose_of_symmetric h
  · simp only [Journal.outcome_bind_eq_ok_iff, Journal.outcome_monadLift] at h
    obtain ⟨m, -, hm⟩ := h
    exact transpose_of_symmetric hm

/-- So does that of the outcomes beside a covariate. -/
theorem transpose_of_sigmaOutcome {s : Mat α} (h : d.sigmaOutcome.outcome = .ok (some s)) :
    s.rows = s.cols ∧ ((∀ x y : α, x + y = y + x) → s.transpose = s) := by
  unfold sigmaOutcome at h
  split at h
  · exact transpose_of_symmetric h
  · exact transpose_of_sigmaError h

/-- The covariance is of the kind that the design asks for, and that of the outcomes is
symmetric. -/
theorem outcomeCovariance_of_ok {c : OutcomeCovariance α}
    (h : d.outcomeCovariance.outcome = .ok c) :
    (if d.gaussianCovariate then ∃ y g yg, c = .joint y g yg else ∃ s, c = .error s) ∧
      c.outcome.rows = c.outcome.cols ∧
      ((∀ x y : α, x + y = y + x) → c.outcome.transpose = c.outcome) := by
  unfold outcomeCovariance at h
  split at h
  · next hg =>
    simp only [Journal.outcome_bind_eq_ok_iff, Journal.outcome_monadLift, Journal.outcome_pure,
      requireMat_eq_ok_iff, Except.ok.injEq] at h
    obtain ⟨y?, hy, y, ⟨rfl, -⟩, g, -, yg?, -, yg, -, rfl⟩ := h
    rw [if_pos hg]
    exact ⟨⟨y, g, yg, rfl⟩, transpose_of_sigmaOutcome hy⟩
  · next hg =>
    simp only [Journal.outcome_bind_eq_ok_iff, Journal.outcome_monadLift, Journal.outcome_noteMat,
      Journal.outcome_pure, requireMat_eq_ok_iff, Except.ok.injEq] at h
    obtain ⟨s?, hs, s, ⟨rfl, -⟩, ⟨⟩, -, rfl⟩ := h
    rw [if_neg hg]
    exact ⟨⟨s, rfl⟩, transpose_of_sigmaError hs⟩

/-- A null hypothesis is there as soon as both contrasts are. -/
theorem exists_thetaNull {e : Effects α} {c u : Mat α} (hc : e.fixed = some c) :
    ∃ t, d.thetaNull (some e) (some u) = some t := by
  unfold thetaNull
  cases d.matrix .thetaNull with
  | none => exact ⟨Mat.filled c.rows u.cols 0, by simp [hc]⟩
  | some m => exact ⟨m, rfl⟩

/-! ### Coherence -/

/-- Passing the checks is enough for the sizes to agree. -/
theorem Assembled.coherent (h : d.Assembled limits b) : b.Coherent := by
  obtain ⟨hmeans, hbetween, hwithin, hnull, hcovariance⟩ :=
    Bundle.checkConformance_eq_ok_iff.mp h.conformance
  rw [Bundle.checkMeans_eq_ok_iff] at hmeans
  rw [Bundle.checkBetween_eq_ok_iff] at hbetween
  rw [Bundle.checkWithin_eq_ok_iff] at hwithin
  rw [Bundle.checkNull_eq_ok_iff] at hnull
  rw [Bundle.checkCovariance_eq_ok_iff] at hcovariance
  obtain ⟨-, hsquare, -⟩ := outcomeCovariance_of_ok h.covariance
  exact {
    design_rows := h.design_pos.1
    design_cols := h.design_pos.2
    beta_cols := h.beta_pos.2
    beta_rows := hmeans.1.symm
    betaRandom_cols := fun m hm => (hmeans.2 m hm).symm
    fixedContrast_cols := fun c hc => (hbetween c hc).1.trans hmeans.1.symm
    randomContrast_rows := fun c r hc hr => ((hbetween c hc).2 r hr).1.symm
    randomContrast_cols := fun c r m hc hr hm => ((hbetween c hc).2 r hr).2 m hm
    within_rows := fun u hu => (hwithin u hu).symm
    -- absent matrices pass the check, so the null hypothesis has to be shown present first
    thetaNull_shape := by
      intro c u hc hu
      obtain ⟨e, he, hfixed⟩ := Option.bind_eq_some_iff.mp hc
      obtain ⟨t, ht⟩ := exists_thetaNull (d := d) (u := u) hfixed
      rw [← he, ← hu, ← h.thetaNull] at ht
      exact ⟨t, ht, hnull t c u ht hc hu⟩
    outcome_shape := by
      rw [Mat.shape, ← hsquare, hcovariance] }

/-- **An assembled bundle is coherent.**  Its covariance is of the kind that the design asks for,
and the covariance of its outcomes is symmetric when addition commutes. -/
theorem coherent_of_assemble (h : (d.assemble limits).outcome = .ok b) :
    b.Coherent ∧
      (d.gaussianCovariate = true ↔ ∃ y g yg, b.covariance = .joint y g yg) ∧
      (d.gaussianCovariate = false ↔ ∃ s, b.covariance = .error s) ∧
      ((∀ x y : α, x + y = y + x) → b.covariance.outcome.transpose = b.covariance.outcome) := by
  have hassembled := assembled_of_ok h
  obtain ⟨hkind, -, hsymmetric⟩ := outcomeCovariance_of_ok hassembled.covariance
  cases hg : d.gaussianCovariate with
  | true =>
    rw [if_pos hg] at hkind
    obtain ⟨y, g, yg, hjoint⟩ := hkind
    refine ⟨hassembled.coherent, iff_of_true rfl ⟨y, g, yg, hjoint⟩, ?_, hsymmetric⟩
    refine iff_of_false Bool.noConfusion ?_
    rintro ⟨s, hs⟩
    rw [hjoint] at hs
    cases hs
  | false =>
    rw [hg, if_neg Bool.false_ne_true] at hkind
    obtain ⟨s, hs⟩ := hkind
    refine ⟨hassembled.coherent, ?_, iff_of_true rfl ⟨s, hs⟩, hsymmetric⟩
    refine iff_of_false Bool.noConfusion ?_
    rintro ⟨y, g, yg, hjoint⟩
    rw [hjoint] at hs
    cases hs

/-- A trial of two doses in either sex, measured twice, in schools of two classes of three pupils,
with a Gaussian covariate. -/
def schoolTrial : StudyDesign ℚ where
  view := .guided
  goal := .power
  covariateFlag := .bool true
  factors := [⟨"dose", 2⟩, ⟨"sex", 2⟩]
  measures := [⟨"time", .int 2, none⟩]
  clusters := [⟨"school", .int 2, .real (1 / 10)⟩, ⟨"class", .int 3, .real (1 / 5)⟩]
  responses := []
  covariances := [
    ⟨"time", .covariance, .null, .null, none, some (.ofArray 2 2 #[1, 1 / 2, 1 / 4, 1])⟩,
    ⟨responseCovarianceName, .covariance, .null, .null, none, some (.ofArray 1 1 #[4])⟩]
  groupSizes := some [.int 1, .int 2, .int 1, .int 1]
  hypotheses := [⟨.mainEffect, [⟨"dose", .known .none⟩], [⟨"time", .known .none⟩]⟩]
  matrices := [
    ("beta", .ofArray 4 2 #[1, 2, 3, 5, 2, 2, 1, 0]),
    ("betaRandom", .ofArray 1 2 #[1, 1]),
    ("sigmaGaussianRandom", .ofArray 1 1 #[3]),
    ("sigmaOutcomeGaussianRandom", .ofArray 2 1 #[1 / 2, 1 / 4])]
  tests := none
  alphas := none
  nominalPowers := none
  sampleSizes := none
  betaScales := none
  sigmaScales := none
  powerMethods := none
  quantiles := none
  interval := none

/-- The bundle of the trial is coherent, with six outcomes at either time. -/
theorem coherent_of_assemble_schoolTrial :
    ∃ b, (schoolTrial.assemble {}).outcome = .ok b ∧ b.Coherent ∧ b.beta.shape = (4, 12) ∧
      b.covariance.outcome.transpose = b.covariance.outcome := by
  have hsome : ((schoolTrial.assemble {}).outcome.toOption.map (·.beta.shape)) = some (4, 12) := by
    decide +kernel
  obtain ⟨b, hb, hshape⟩ := Option.map_eq_some_iff.mp hsome
  have h := Except.eq_ok_of_toOption hb
  obtain ⟨hcoherent, -, -, hsymmetric⟩ := coherent_of_assemble h
  exact ⟨b, h, hcoherent, hshape, hsymmetric add_comm⟩

end StudyDesign

end StudyPower
