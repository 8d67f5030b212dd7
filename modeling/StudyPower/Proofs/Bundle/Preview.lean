import Mathlib
import StudyPower.Proofs.Bundle.Computable

/-!
# The preview and the bundle agree

The matrices of a design are put together twice: once for the engine, with every needed matrix
required and all sizes compared, and once for a preview, which leaves out what is missing.  Both
sequences call the same builders, but only the first joins the parts for the covariate, and it does
so before the sizes are compared.  The comparisons turn out to imply that the joins succeed, so what
separates the two is what the documentation says: required matrices and agreeing sizes.

## Main definitions

* `StudyDesign.built d role` — the matrix that the builders of `d` make for a role.
* `Bundle.matrix b role` — the matrix that a bundle holds for a role.
* `Conforming M` — the matrices of a family indexed by roles agree in every size that is compared.
* `StudyDesign.Builds d limits` — every builder of an admitted design succeeds.

## Main statements

* `StudyDesign.preview_eq_ok_iff` — the preview shows what was built.
* `StudyDesign.exists_assemble_iff` — a bundle needs the required matrices and agreeing sizes.
* `StudyDesign.assemble_agrees_preview` — **a design is assembled exactly when its preview holds
  the required matrices and the sizes agree, and then both hold the same matrices.**
-/

namespace Except

variable {ε α : Type}

@[simp] theorem toOption_ok (a : α) : (Except.ok a : Except ε α).toOption = some a := rfl

end Except

namespace StudyPower

variable {α : Type}

/-! ### Matrices by role -/

theorem MatrixRole.name_injective : Function.Injective MatrixRole.name := by
  intro r s
  cases r <;> cases s <;> decide

/-- The matrix that a bundle holds for a role. -/
def Bundle.matrix (b : Bundle α) : MatrixRole → Option (Mat α)
  | .design => some b.design
  | .beta => some b.beta
  | .betaRandom => b.betaRandom
  | .betweenContrast => b.fixedContrast
  | .betweenContrastRandom => b.randomContrast
  | .withinContrast => b.within
  | .thetaNull => b.thetaNull
  | .sigmaError =>
    match b.covariance with
    | .error sigma => some sigma
    | .joint .. => none
  | .sigmaOutcome =>
    match b.covariance with
    | .error _ => none
    | .joint outcome _ _ => some outcome
  | .sigmaGaussian =>
    match b.covariance with
    | .error _ => none
    | .joint _ covariate _ => some covariate
  | .sigmaOutcomeGaussian =>
    match b.covariance with
    | .error _ => none
    | .joint _ _ cross => some cross

/-- The matrices of a family agree in every size that is compared.  A comparison with an absent
matrix is passed over, and so is that of the two parts for the covariate without a fixed
contrast. -/
structure Conforming (M : MatrixRole → Option (Mat α)) : Prop where
  /-- The means have a row for each group. -/
  means : ∀ x β, M .design = some x → M .beta = some β → x.cols = β.rows
  /-- The coefficients of the covariate have a column for each outcome. -/
  coefficients : ∀ β r, M .beta = some β → M .betaRandom = some r → β.cols = r.cols
  /-- The contrast between participants has a column for each group. -/
  between : ∀ c β, M .betweenContrast = some c → M .beta = some β → c.cols = β.rows
  /-- Its part for the covariate has as many rows. -/
  betweenRandom : ∀ c r, M .betweenContrast = some c → M .betweenContrastRandom = some r →
    c.rows = r.rows
  /-- That part has a column for each row of coefficients. -/
  covariate : ∀ c r m, M .betweenContrast = some c → M .betweenContrastRandom = some r →
    M .betaRandom = some m → r.cols = m.rows
  /-- The contrast within participants has a row for each outcome. -/
  within : ∀ β u, M .beta = some β → M .withinContrast = some u → β.cols = u.rows
  /-- The null hypothesis has an entry for each tested comparison. -/
  thetaNull : ∀ t c u, M .thetaNull = some t → M .betweenContrast = some c →
    M .withinContrast = some u → t.shape = (c.rows, u.cols)
  /-- The covariance of the outcomes has a row for each outcome. -/
  covariance : ∀ β s, M .beta = some β → (M .sigmaError = some s ∨ M .sigmaOutcome = some s) →
    β.cols = s.rows

/-- The comparisons that a bundle goes through are those of its matrices by role. -/
theorem Bundle.checkConformance_eq_ok_iff_conforming {b : Bundle α} :
    b.checkConformance = .ok () ↔ Conforming b.matrix := by
  rw [checkConformance_eq_ok_iff, checkMeans_eq_ok_iff, checkBetween_eq_ok_iff,
    checkWithin_eq_ok_iff, checkNull_eq_ok_iff, checkCovariance_eq_ok_iff]
  constructor
  · rintro ⟨⟨hmeans, hcoefficients⟩, hbetween, hwithin, hnull, hcovariance⟩
    exact {
      means := by rintro _ _ ⟨⟩ ⟨⟩; exact hmeans
      coefficients := by rintro _ r ⟨⟩ hr; exact hcoefficients r hr
      between := by rintro c _ hc ⟨⟩; exact (hbetween c hc).1
      betweenRandom := fun c r hc hr => ((hbetween c hc).2 r hr).1
      covariate := fun c r m hc hr hm => ((hbetween c hc).2 r hr).2 m hm
      within := by rintro _ u ⟨⟩ hu; exact hwithin u hu
      thetaNull := hnull
      covariance := by
        rintro _ s ⟨⟩ hs
        rw [hcovariance]
        unfold matrix at hs
        cases hcov : b.covariance with
        | error sigma =>
          rw [hcov] at hs
          rcases hs with ⟨⟨⟩⟩ | ⟨⟨⟩⟩
          rfl
        | joint outcome covariate cross =>
          rw [hcov] at hs
          rcases hs with ⟨⟨⟩⟩ | ⟨⟨⟩⟩
          rfl }
  · intro h
    refine ⟨⟨h.means _ _ rfl rfl, fun r hr => h.coefficients _ r rfl hr⟩, fun c hc => ?_,
      fun u hu => h.within _ u rfl hu, h.thetaNull, ?_⟩
    · exact ⟨h.between c _ hc rfl, fun r hr => ⟨h.betweenRandom c r hc hr,
        fun m hm => h.covariate c r m hc hr hm⟩⟩
    · refine h.covariance _ _ rfl ?_
      unfold matrix
      cases b.covariance with
      | error sigma => exact .inl rfl
      | joint outcome covariate cross => exact .inr rfl

namespace StudyDesign

variable [Scalar α]

/-- The matrix that the builders make for a role, or nothing when they make none or fail. -/
def built (d : StudyDesign α) : MatrixRole → Option (Mat α)
  | .design => d.designMatrix.toOption.join
  | .beta => d.betaEffects.toOption.bind (·.fixed)
  | .betaRandom => d.betaEffects.toOption.bind (·.random)
  | .betweenContrast => d.betweenContrast.toOption.join.bind (·.fixed)
  | .betweenContrastRandom => d.betweenContrast.toOption.join.bind (·.random)
  | .withinContrast => d.withinContrast.outcome.toOption.join
  | .thetaNull => d.thetaNull d.betweenContrast.toOption.join d.withinContrast.outcome.toOption.join
  | .sigmaError => if d.gaussianCovariate then none else d.sigmaError.outcome.toOption.join
  | .sigmaOutcome => if d.gaussianCovariate then d.sigmaOutcome.outcome.toOption.join else none
  | .sigmaGaussian => if d.gaussianCovariate then d.sigmaCovariate else none
  | .sigmaOutcomeGaussian =>
    if d.gaussianCovariate then
      (d.sigmaOutcomeCovariate d.sigmaCovariate
        d.sigmaOutcome.outcome.toOption.join).outcome.toOption.join
    else none

/-- The covariances that a design needs. -/
def covarianceRoles (d : StudyDesign α) : List MatrixRole :=
  if d.gaussianCovariate then [.sigmaOutcome, .sigmaGaussian, .sigmaOutcomeGaussian]
  else [.sigmaError]

/-- The matrices that an engine cannot do without. -/
def requiredRoles (d : StudyDesign α) : List MatrixRole := .design :: .beta :: d.covarianceRoles

/-- The roles that a preview covers.  The parts for the covariate belong to it only when there is
one. -/
def shownRoles (d : StudyDesign α) : List MatrixRole :=
  [MatrixRole.design, MatrixRole.beta] ++
    (if d.gaussianCovariate then [MatrixRole.betaRandom] else []) ++ [MatrixRole.betweenContrast] ++
    (if d.gaussianCovariate then [MatrixRole.betweenContrastRandom] else []) ++
    [MatrixRole.withinContrast, MatrixRole.thetaNull] ++ d.covarianceRoles

/-- Every builder of an admitted design succeeds. -/
structure Builds (d : StudyDesign α) (limits : Limits) : Prop where
  /-- The design is within the limits. -/
  admissible : d.checkAdmissible limits = .ok ()
  /-- The design matrix is built. -/
  design : d.designMatrix = .ok (d.built .design)
  /-- The means are built. -/
  means : d.betaEffects = .ok ⟨d.built .beta, d.built .betaRandom, .below⟩
  /-- The contrast between participants is built. -/
  between : ∃ e, d.betweenContrast = .ok e
  /-- The contrast within participants is built. -/
  within : d.withinContrast.outcome = .ok (d.built .withinContrast)
  /-- The covariances are built. -/
  covariances : d.previewCovariances.outcome =
    .ok (d.covarianceRoles.map fun role => (role, d.built role))

variable {d : StudyDesign α} {limits : Limits} {b : Bundle α}

/-! ### What the preview shows -/

/-- With a covariate there are three covariances, the last built from the other two. -/
theorem previewCovariances_of_gaussian (hg : d.gaussianCovariate = true)
    {cs : List (MatrixRole × Option (Mat α))} :
    d.previewCovariances.outcome = .ok cs ↔ ∃ outcome, d.sigmaOutcome.outcome = .ok outcome ∧
      ∃ cross, (d.sigmaOutcomeCovariate d.sigmaCovariate outcome).outcome = .ok cross ∧
        [(.sigmaOutcome, outcome), (.sigmaGaussian, d.sigmaCovariate),
          (.sigmaOutcomeGaussian, cross)] = cs := by
  unfold previewCovariances
  rw [if_pos hg]
  simp only [Journal.outcome_bind_eq_ok_iff, Journal.outcome_pure, Except.ok.injEq]

/-- Without a covariate there is one covariance. -/
theorem previewCovariances_of_not_gaussian (hg : d.gaussianCovariate = false)
    {cs : List (MatrixRole × Option (Mat α))} :
    d.previewCovariances.outcome = .ok cs ↔
      ∃ sigma, d.sigmaError.outcome = .ok sigma ∧ [(.sigmaError, sigma)] = cs := by
  unfold previewCovariances
  rw [hg, if_neg Bool.false_ne_true]
  simp only [Journal.outcome_bind_eq_ok_iff, Journal.outcome_pure, Except.ok.injEq]

/-- The covariances of a preview are those that were built. -/
theorem previewCovariances_of_ok {cs : List (MatrixRole × Option (Mat α))}
    (h : d.previewCovariances.outcome = .ok cs) :
    cs = d.covarianceRoles.map fun role => (role, d.built role) := by
  unfold covarianceRoles
  cases hg : d.gaussianCovariate with
  | true =>
    obtain ⟨outcome, houtcome, cross, hcross, rfl⟩ := (previewCovariances_of_gaussian hg).mp h
    simp [built, hg, houtcome, hcross]
  | false =>
    obtain ⟨sigma, hsigma, rfl⟩ := (previewCovariances_of_not_gaussian hg).mp h
    simp [built, hg, hsigma]

/-- The matrices of a preview, first to last. -/
def shown (d : StudyDesign α) : List (MatrixRole × Mat α) :=
  d.shownRoles.filterMap fun role => (d.built role).map (role, ·)

theorem mem_shown_iff {role : MatrixRole} {m : Mat α} :
    (role, m) ∈ d.shown ↔ role ∈ d.shownRoles ∧ d.built role = some m := by
  unfold shown
  rw [List.mem_filterMap]
  constructor
  · rintro ⟨r, hr, hm⟩
    obtain ⟨x, hx, hpair⟩ := Option.map_eq_some_iff.mp hm
    cases hpair
    exact ⟨hr, hx⟩
  · rintro ⟨hr, hm⟩
    exact ⟨role, hr, by rw [hm, Option.map_some]⟩

theorem nodup_shownRoles : d.shownRoles.Nodup := by
  unfold shownRoles covarianceRoles
  cases d.gaussianCovariate with
  | true => decide
  | false => decide

/-- The entries that the preview goes through, without the absent ones, are those that are shown. -/
theorem Builds.filterMap_eq_shown (h : d.Builds limits) {between : Option (Effects α)}
    (hbetween : d.betweenContrast = .ok between) :
    ([(MatrixRole.design, d.built .design),
      (.beta, d.built .beta),
      (.betaRandom, if d.gaussianCovariate then d.built .betaRandom else none),
      (.betweenContrast, between.bind (·.fixed)),
      (.betweenContrastRandom, if d.gaussianCovariate then between.bind (·.random) else none),
      (.withinContrast, d.built .withinContrast),
      (.thetaNull, d.thetaNull between (d.built .withinContrast))] ++
      d.covarianceRoles.map fun role => (role, d.built role)).filterMap
        (fun entry => entry.2.map (entry.1, ·)) = d.shown := by
  have hfixed : between.bind (·.fixed) = d.built .betweenContrast := by simp [built, hbetween]
  have hrandom : between.bind (·.random) = d.built .betweenContrastRandom := by
    simp [built, hbetween]
  have hnull : d.thetaNull between (d.built .withinContrast) = d.built .thetaNull := by
    change _ = d.thetaNull d.betweenContrast.toOption.join d.withinContrast.outcome.toOption.join
    rw [hbetween, h.within]
    rfl
  rw [hfixed, hrandom, hnull]
  unfold shown shownRoles
  cases d.gaussianCovariate with
  | true => simp [List.filterMap_cons, List.filterMap_map]
  | false => simp [List.filterMap_cons, List.filterMap_map]

theorem mem_shownRoles_of_required {role : MatrixRole} (h : role ∈ d.requiredRoles) :
    role ∈ d.shownRoles := by
  unfold requiredRoles at h
  unfold shownRoles
  simp only [List.mem_cons, List.mem_append] at h ⊢
  tauto

/-- A preview has no name twice. -/
theorem nodup_names_shown : (d.shown.map fun entry => entry.1.name).Nodup := by
  unfold shown
  rw [List.map_filterMap]
  refine d.nodup_shownRoles.filterMap fun r s name hr hs => ?_
  simp only [Option.map_map, Option.mem_def, Option.map_eq_some_iff] at hr hs
  obtain ⟨_, _, hrname⟩ := hr
  obtain ⟨_, _, hsname⟩ := hs
  exact MatrixRole.name_injective (hrname.trans hsname.symm)

/-- The preview shows what was built, and fails when a builder does. -/
theorem preview_eq_ok_iff {ms : List (MatrixRole × Mat α)} :
    (d.preview limits).outcome = .ok ms ↔ d.Builds limits ∧ ms = d.shown := by
  unfold preview
  simp only [Journal.outcome_bind_eq_ok_iff, Journal.outcome_monadLift, Journal.outcome_pure,
    outcome_screen, Except.ok.injEq]
  constructor
  · rintro ⟨⟨⟩, hscreen, design, hdesign, effects, heffects, between, hbetween, within, hwithin,
      cs, hcs, rfl⟩
    obtain rfl := previewCovariances_of_ok hcs
    have hmeans : effects = ⟨d.built .beta, d.built .betaRandom, .below⟩ := by
      rw [← joining_betaEffects heffects]
      simp [built, heffects]
    obtain rfl : design = d.built .design := by simp [built, hdesign]
    obtain rfl : within = d.built .withinContrast := by simp [built, hwithin]
    have hbuilds : d.Builds limits :=
      ⟨hscreen, hdesign, hmeans ▸ heffects, ⟨between, hbetween⟩, hwithin, hcs⟩
    refine ⟨hbuilds, ?_⟩
    rw [hmeans]
    exact hbuilds.filterMap_eq_shown hbetween
  · rintro ⟨hbuilds, rfl⟩
    obtain ⟨between, hbetween⟩ := hbuilds.between
    exact ⟨(), hbuilds.admissible, _, hbuilds.design, _, hbuilds.means, between, hbetween, _,
      hbuilds.within, _, hbuilds.covariances, hbuilds.filterMap_eq_shown hbetween⟩

/-- A matrix that was built is shown, unless it is a part for the covariate without one. -/
theorem mem_shownRoles_iff_of_built {role : MatrixRole} {m : Mat α} (h : d.built role = some m) :
    role ∈ d.shownRoles ↔
      (role = .betaRandom ∨ role = .betweenContrastRandom → d.gaussianCovariate = true) := by
  unfold shownRoles covarianceRoles
  cases hg : d.gaussianCovariate with
  | true =>
    cases role with
    | sigmaError => simp [built, hg] at h
    | _ => simp
  | false =>
    cases role with
    | sigmaOutcome | sigmaGaussian | sigmaOutcomeGaussian => simp [built, hg] at h
    | _ => simp

/-! ### What a bundle needs -/

/-- The required matrices of a family are there, with a row and a column each. -/
def Requires (d : StudyDesign α) (M : MatrixRole → Option (Mat α)) : Prop :=
  ∀ role ∈ d.requiredRoles, ∃ m, M role = some m ∧ 0 < m.rows ∧ 0 < m.cols

/-- The covariance of a design with a covariate is made of the three matrices that were built. -/
theorem outcomeCovariance_of_gaussian (hg : d.gaussianCovariate = true)
    {c : OutcomeCovariance α} :
    d.outcomeCovariance.outcome = .ok c ↔ (∃ cs, d.previewCovariances.outcome = .ok cs) ∧
      ∃ y g yg, c = .joint y g yg ∧
        (d.built .sigmaOutcome = some y ∧ 0 < y.rows ∧ 0 < y.cols) ∧
        (d.built .sigmaGaussian = some g ∧ 0 < g.rows ∧ 0 < g.cols) ∧
        d.built .sigmaOutcomeGaussian = some yg ∧ 0 < yg.rows ∧ 0 < yg.cols := by
  unfold outcomeCovariance
  simp only [if_pos hg, Journal.outcome_bind_eq_ok_iff, Journal.outcome_monadLift,
    Journal.outcome_pure, requireMat_eq_ok_iff, Except.ok.injEq]
  constructor
  · rintro ⟨y?, hy, y, ⟨rfl, hypos⟩, g, ⟨hgauss, hgpos⟩, yg?, hyg, yg, ⟨rfl, hygpos⟩, rfl⟩
    rw [← hgauss] at hyg
    have hcs := (previewCovariances_of_gaussian hg).mpr ⟨_, hy, _, hyg, rfl⟩
    refine ⟨⟨_, hcs⟩, y, g, yg, rfl, ⟨?_, hypos⟩, ⟨?_, hgpos⟩, ?_, hygpos⟩
    · simp [built, hg, hy]
    · simp [built, hg, hgauss]
    · simp [built, hg, hy, hyg]
  · rintro ⟨⟨cs, hcs⟩, y, g, yg, rfl, ⟨hy, hypos⟩, ⟨hgauss, hgpos⟩, hyg, hygpos⟩
    obtain ⟨y?, hy?, yg?, hyg?, -⟩ := (previewCovariances_of_gaussian hg).mp hcs
    obtain rfl : y? = some y := by simpa [built, hg, hy?] using hy
    have hgauss' : d.sigmaCovariate = some g := by simpa [built, hg] using hgauss
    obtain rfl : yg? = some yg := by simpa [built, hg, hy?, hyg?] using hyg
    rw [hgauss'] at hyg?
    exact ⟨_, hy?, y, ⟨rfl, hypos⟩, g, ⟨hgauss', hgpos⟩, _, hyg?, yg, ⟨rfl, hygpos⟩, rfl⟩

/-- That of a design without a covariate is the covariance of the errors. -/
theorem outcomeCovariance_of_not_gaussian (hg : d.gaussianCovariate = false)
    {c : OutcomeCovariance α} :
    d.outcomeCovariance.outcome = .ok c ↔ (∃ cs, d.previewCovariances.outcome = .ok cs) ∧
      ∃ s, c = .error s ∧ d.built .sigmaError = some s ∧ 0 < s.rows ∧ 0 < s.cols := by
  unfold outcomeCovariance
  simp only [hg, Bool.false_eq_true, if_false, Journal.outcome_bind_eq_ok_iff,
    Journal.outcome_monadLift, Journal.outcome_noteMat, Journal.outcome_pure,
    requireMat_eq_ok_iff, Except.ok.injEq]
  constructor
  · rintro ⟨s?, hs, s, ⟨rfl, hpos⟩, ⟨⟩, -, rfl⟩
    refine ⟨⟨_, (previewCovariances_of_not_gaussian hg).mpr ⟨_, hs, rfl⟩⟩, s, rfl, ?_, hpos⟩
    simp [built, hg, hs]
  · rintro ⟨⟨cs, hcs⟩, s, rfl, hs, hpos⟩
    obtain ⟨s?, hs?, -⟩ := (previewCovariances_of_not_gaussian hg).mp hcs
    obtain rfl : s? = some s := by simpa [built, hg, hs?] using hs
    exact ⟨_, hs?, s, ⟨rfl, hpos⟩, (), trivial, rfl⟩

/-- A bundle that was put together from the builders' results holds the matrices that they made. -/
theorem built_eq_matrix (hdesign : d.designMatrix = .ok (some b.design))
    (hmeans : d.betaEffects = .ok ⟨some b.beta, b.betaRandom, .below⟩)
    (hbetween : d.betweenContrast = .ok b.between)
    (hwithin : d.withinContrast.outcome = .ok b.within)
    (hnull : b.thetaNull = d.thetaNull b.between b.within)
    (hcovariance : d.outcomeCovariance.outcome = .ok b.covariance) : d.built = b.matrix := by
  funext role
  cases role with
  | design => simp [built, hdesign, Bundle.matrix]
  | beta | betaRandom => simp [built, hmeans, Bundle.matrix]
  | betweenContrast => simp [built, hbetween, Bundle.matrix, Bundle.fixedContrast]
  | betweenContrastRandom => simp [built, hbetween, Bundle.matrix, Bundle.randomContrast]
  | withinContrast => simp [built, hwithin, Bundle.matrix]
  | thetaNull => simp [built, hbetween, hwithin, Bundle.matrix, hnull]
  | sigmaError | sigmaOutcome | sigmaGaussian | sigmaOutcomeGaussian =>
    cases hg : d.gaussianCovariate with
    | true =>
      obtain ⟨-, y, g, yg, hc, ⟨hy, -⟩, ⟨hgauss, -⟩, hyg, -⟩ :=
        (outcomeCovariance_of_gaussian hg).mp hcovariance
      simp_all [Bundle.matrix, built]
    | false =>
      obtain ⟨-, s, hc, hs, -⟩ := (outcomeCovariance_of_not_gaussian hg).mp hcovariance
      simp_all [Bundle.matrix, built]

theorem Assembled.built_eq (h : d.Assembled limits b) : d.built = b.matrix :=
  built_eq_matrix h.design h.beta h.between h.within h.thetaNull h.covariance

/-- An assembled design has the required matrices. -/
theorem Assembled.requires (h : d.Assembled limits b) : d.Requires d.built := by
  intro role hrole
  have hdesign : d.built .design = some b.design := by rw [h.built_eq]; rfl
  have hbeta : d.built .beta = some b.beta := by rw [h.built_eq]; rfl
  unfold requiredRoles covarianceRoles at hrole
  have hcovariance := h.covariance
  cases hg : d.gaussianCovariate with
  | true =>
    obtain ⟨-, y, g, yg, -, hy, hgauss, hyg⟩ := (outcomeCovariance_of_gaussian hg).mp hcovariance
    simp only [hg, if_true, List.mem_cons, List.not_mem_nil, or_false] at hrole
    rcases hrole with rfl | rfl | rfl | rfl | rfl
    · exact ⟨b.design, hdesign, h.design_pos⟩
    · exact ⟨b.beta, hbeta, h.beta_pos⟩
    · exact ⟨y, hy⟩
    · exact ⟨g, hgauss⟩
    · exact ⟨yg, hyg⟩
  | false =>
    obtain ⟨-, s, -, hs⟩ := (outcomeCovariance_of_not_gaussian hg).mp hcovariance
    simp only [hg, Bool.false_eq_true, if_false, List.mem_cons, List.not_mem_nil,
      or_false] at hrole
    rcases hrole with rfl | rfl | rfl
    · exact ⟨b.design, hdesign, h.design_pos⟩
    · exact ⟨b.beta, hbeta, h.beta_pos⟩
    · exact ⟨s, hs⟩

theorem Assembled.builds (h : d.Assembled limits b) : d.Builds limits := by
  have hcovariances : ∃ cs, d.previewCovariances.outcome = .ok cs := by
    have hcovariance := h.covariance
    cases hg : d.gaussianCovariate with
    | true => exact ((outcomeCovariance_of_gaussian hg).mp hcovariance).1
    | false => exact ((outcomeCovariance_of_not_gaussian hg).mp hcovariance).1
  obtain ⟨cs, hcs⟩ := hcovariances
  exact {
    admissible := h.admissible
    design := by rw [h.design, h.built_eq]; rfl
    means := by rw [h.beta, h.built_eq]; rfl
    between := ⟨_, h.between⟩
    within := by rw [h.within, h.built_eq]; rfl
    covariances := previewCovariances_of_ok hcs ▸ hcs }

/-- When the required covariances were built, there is a covariance, of the matrices that were
built. -/
theorem Builds.exists_outcomeCovariance (h : d.Builds limits) (hrequires : d.Requires d.built) :
    ∃ c, d.outcomeCovariance.outcome = .ok c := by
  unfold Requires requiredRoles covarianceRoles at hrequires
  cases hg : d.gaussianCovariate with
  | true =>
    rw [hg, if_pos rfl] at hrequires
    obtain ⟨y, hy⟩ := hrequires .sigmaOutcome (by decide)
    obtain ⟨g, hgauss⟩ := hrequires .sigmaGaussian (by decide)
    obtain ⟨yg, hyg⟩ := hrequires .sigmaOutcomeGaussian (by decide)
    exact ⟨.joint y g yg, (outcomeCovariance_of_gaussian hg).mpr
      ⟨⟨_, h.covariances⟩, y, g, yg, rfl, hy, hgauss, hyg⟩⟩
  | false =>
    rw [hg, if_neg Bool.false_ne_true] at hrequires
    obtain ⟨s, hs⟩ := hrequires .sigmaError (by decide)
    exact ⟨.error s, (outcomeCovariance_of_not_gaussian hg).mpr
      ⟨⟨_, h.covariances⟩, s, rfl, hs⟩⟩

/-- The part of a contrast between participants for the covariate belongs at its right. -/
theorem joining_betweenContrast {e : Effects α} (h : d.betweenContrast = .ok (some e)) :
    e.joining = .beside := by
  unfold betweenContrast at h
  split at h
  · split at h
    · cases h
    · cases h
      rfl
  · split at h
    · cases h
    · simp only [Except.bind_eq_ok_iff, Except.pure_eq_ok_iff, Option.some.injEq] at h
      obtain ⟨fixed, -, rfl⟩ := h
      rfl

/-- Agreeing sizes are enough for the parts of the contrast to be joined. -/
theorem exists_combinedContrast (hconforming : Conforming d.built)
    {between : Option (Effects α)} (hbetween : d.betweenContrast = .ok between) :
    ∃ C, combinedContrast between = .ok C := by
  cases between with
  | none => exact ⟨none, rfl⟩
  | some e =>
    obtain ⟨fixed, random, joining⟩ := e
    obtain rfl : joining = .beside := joining_betweenContrast hbetween
    cases fixed with
    -- the part for the covariate stands alone, and nothing is joined
    | none => exact ⟨random, rfl⟩
    | some c =>
      have hc : d.built .betweenContrast = some c := by simp [built, hbetween]
      have hrows : ∀ r, random = some r → r.rows = c.rows := by
        intro r hr
        refine (hconforming.betweenRandom c r hc ?_).symm
        simp [built, hbetween, hr]
      obtain ⟨C, hC, -⟩ := combined_beside hrows
      exact ⟨some C, hC⟩

/-- They are enough for the means to be joined. -/
theorem exists_combinedMeans (hconforming : Conforming d.built) {β : Mat α}
    (hβ : d.built .beta = some β) :
    ∃ B, (Effects.mk (d.built .beta) (d.built .betaRandom) .below).combined = .ok B := by
  have hcols : ∀ r, d.built .betaRandom = some r → r.cols = β.cols :=
    fun r hr => (hconforming.coefficients β r hβ hr).symm
  obtain ⟨B, hB, -⟩ := combined_below hcols
  rw [hβ]
  exact ⟨some B, hB⟩

/-- A bundle needs the required matrices and agreeing sizes.  The parts for the covariate are joined
before the sizes are compared, and the joins succeed because the comparisons do. -/
theorem exists_assemble_iff :
    (∃ b, (d.assemble limits).outcome = .ok b) ↔
      d.Builds limits ∧ d.Requires d.built ∧ Conforming d.built := by
  constructor
  · rintro ⟨b, hb⟩
    have h := assembled_of_ok hb
    refine ⟨h.builds, h.requires, ?_⟩
    rw [h.built_eq, ← Bundle.checkConformance_eq_ok_iff_conforming]
    exact h.conformance
  · rintro ⟨hbuilds, hrequires, hconforming⟩
    obtain ⟨x, hx, hxpos⟩ := hrequires .design (List.mem_cons_self ..)
    obtain ⟨β, hβ, hβpos⟩ := hrequires .beta (List.mem_cons_of_mem _ (List.mem_cons_self ..))
    obtain ⟨between, hbetween⟩ := hbuilds.between
    obtain ⟨c, hc⟩ := hbuilds.exists_outcomeCovariance hrequires
    obtain ⟨B, hB⟩ := exists_combinedMeans hconforming hβ
    obtain ⟨C, hC⟩ := exists_combinedContrast hconforming hbetween
    unfold assemble
    simp only [Journal.outcome_bind_eq_ok_iff, Journal.outcome_monadLift, Journal.outcome_noteMat,
      Journal.outcome_pure, outcome_screen, Except.ok.injEq, requireMat_eq_ok_iff]
    refine ⟨_, (), hbuilds.admissible, _, hbuilds.design, x, ⟨hx, hxpos⟩, (), trivial, _,
      hbuilds.means, β, ⟨hβ, hβpos⟩, B, hB, (), trivial, between, hbetween, C, hC, (), trivial, _,
      hbuilds.within, (), trivial, (), trivial, c, hc, (), ?_, rfl⟩
    rw [Bundle.checkConformance_eq_ok_iff_conforming]
    convert hconforming
    refine (built_eq_matrix ?_ ?_ hbetween hbuilds.within rfl hc).symm
    · rw [hbuilds.design, hx]
    · rw [hbuilds.means, hβ]

/-- **A design is assembled exactly when its preview holds the required matrices and the sizes
agree, and then both hold the same matrices.**  The parts for the covariate are shown only when
there is one. -/
theorem assemble_agrees_preview (d : StudyDesign α) (limits : Limits) :
    ((∃ b, (d.assemble limits).outcome = .ok b) ↔
      ∃ ms, (d.preview limits).outcome = .ok ms ∧
        (∀ role ∈ d.requiredRoles, ∃ m, (role, m) ∈ ms ∧ 0 < m.rows ∧ 0 < m.cols) ∧
        Conforming d.built) ∧
    ∀ b ms, (d.assemble limits).outcome = .ok b → (d.preview limits).outcome = .ok ms →
      (∀ role m, (role, m) ∈ ms ↔ b.matrix role = some m ∧
        (role = .betaRandom ∨ role = .betweenContrastRandom → d.gaussianCovariate = true)) ∧
      (ms.map fun entry => entry.1.name).Nodup := by
  constructor
  · rw [exists_assemble_iff]
    constructor
    · rintro ⟨hbuilds, hrequires, hconforming⟩
      refine ⟨d.shown, preview_eq_ok_iff.mpr ⟨hbuilds, rfl⟩, fun role hrole => ?_, hconforming⟩
      obtain ⟨m, hm, hpos⟩ := hrequires role hrole
      exact ⟨m, mem_shown_iff.mpr ⟨mem_shownRoles_of_required hrole, hm⟩, hpos⟩
    · rintro ⟨ms, hms, hrequires, hconforming⟩
      obtain ⟨hbuilds, rfl⟩ := preview_eq_ok_iff.mp hms
      refine ⟨hbuilds, fun role hrole => ?_, hconforming⟩
      obtain ⟨m, hm, hpos⟩ := hrequires role hrole
      exact ⟨m, (mem_shown_iff.mp hm).2, hpos⟩
  · intro b ms hb hms
    obtain ⟨hbuilds, rfl⟩ := preview_eq_ok_iff.mp hms
    refine ⟨fun role m => ?_, nodup_names_shown⟩
    rw [mem_shown_iff, ← (assembled_of_ok hb).built_eq, and_comm]
    exact and_congr_right fun hm => mem_shownRoles_iff_of_built hm

/-- The trial in schools is assembled, and its preview shows its ten matrices. -/
theorem assemble_agrees_preview_schoolTrial :
    ∃ b ms, (schoolTrial.assemble {}).outcome = .ok b ∧
      (schoolTrial.preview {}).outcome = .ok ms ∧ ms.length = 10 ∧
      ∀ role m, (role, m) ∈ ms ↔ b.matrix role = some m := by
  obtain ⟨b, hb⟩ := Except.exists_eq_ok_of_isSome
    (show (schoolTrial.assemble {}).outcome.toOption.isSome by decide +kernel)
  have hagree := assemble_agrees_preview schoolTrial {}
  obtain ⟨ms, hms, -⟩ := hagree.1.mp ⟨b, hb⟩
  have hlength : (schoolTrial.preview {}).outcome.toOption.map List.length = some 10 := by
    decide +kernel
  rw [hms] at hlength
  refine ⟨b, ms, hb, hms, Option.some.inj hlength, fun role m => ?_⟩
  rw [(hagree.2 b ms hb hms).1 role m]
  exact and_iff_left fun _ => rfl

end StudyDesign

end StudyPower
