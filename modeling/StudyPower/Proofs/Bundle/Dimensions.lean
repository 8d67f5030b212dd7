import Mathlib
import StudyPower.Proofs.Bundle.Guided

/-!
# The builders of a guided design agree

The design matrix, both contrasts and the covariance of a guided design are built one by one.  They
all find the same number of groups and of outcomes, so nothing but the size of the means is left for
the comparison of sizes to refuse.

## Main statements

* `StudyDesign.exists_assemble` — what it takes to assemble a design without a covariate.
* `StudyDesign.assemble_iff_shape_beta` — **the matrices of a guided design agree, and the design is
  assembled exactly when its means have a row for each group and a column for each outcome.**
-/

namespace StudyPower

open Mat Contrast

variable {α : Type} [Scalar α]

/-- There is at least one measurement, and if points are declared, as many as measurements. -/
def RepeatedMeasure.WellSpaced (m : RepeatedMeasure α) : Prop :=
  m.count.isBelow 1 = .ok false ∧ ∀ ds, m.spacing = some ds → m.count.equals ds.length = true

theorem RepeatedMeasure.WellSpaced.levelCount {m : RepeatedMeasure α} (h : m.WellSpaced)
    (hm : m.count.int?.isSome) : 1 ≤ m.levelCount ∧ m.pointCount = m.levelCount := by
  obtain ⟨n, hn⟩ := Option.isSome_iff_exists.mp hm
  obtain ⟨hbelow, hspacing⟩ := h
  have hlevels : m.levelCount = n.toNat := by rw [RepeatedMeasure.levelCount, hn, Option.getD_some]
  constructor
  · unfold Datum.isBelow at hbelow
    rw [hn] at hbelow
    have hpos : ¬ n < 1 := by simpa using hbelow
    omega
  · unfold RepeatedMeasure.pointCount
    cases hds : m.spacing with
    | none => rfl
    | some ds =>
      have hequals := hspacing ds hds
      unfold Datum.equals at hequals
      rw [hn] at hequals
      have hlength : n = ds.length := by simpa using hequals
      rw [hlevels, hlength]
      rfl

omit [Scalar α] in
/-- Without a covariate, the sizes that meet in a product are those of six matrices. -/
theorem Bundle.checkConformance_of_plain {b : Bundle α} {C U S T : Mat α}
    (hrandom : b.betaRandom = none) (hbetween : b.between = some ⟨some C, none, .beside⟩)
    (hwithin : b.within = some U) (hthetaNull : b.thetaNull = some T)
    (hcovariance : b.covariance = .error S) (hXB : b.design.cols = b.beta.rows)
    (hCB : C.cols = b.beta.rows) (hBU : b.beta.cols = U.rows) (hT : T.shape = (C.rows, U.cols))
    (hBS : b.beta.cols = S.rows) : b.checkConformance = .ok () := by
  have hfixed : b.fixedContrast = some C := by rw [fixedContrast, hbetween, Option.bind_some]
  have hrandomContrast : b.randomContrast = none := by
    rw [randomContrast, hbetween, Option.bind_some]
  rw [checkConformance_eq_ok_iff, checkMeans_eq_ok_iff, checkBetween_eq_ok_iff,
    checkWithin_eq_ok_iff, checkNull_eq_ok_iff, checkCovariance_eq_ok_iff, hrandom, hfixed,
    hrandomContrast, hwithin, hthetaNull, hcovariance]
  refine ⟨⟨hXB, by rintro m ⟨⟩⟩, ?_, ?_, ?_, hBS⟩
  · rintro c ⟨⟩
    exact ⟨hCB, by rintro r ⟨⟩⟩
  · rintro u ⟨⟩
    exact hBU
  · rintro t c u ⟨⟩ ⟨⟩ ⟨⟩
    exact hT

namespace StudyDesign

variable {d : StudyDesign α} {limits : Limits} {g : Hypothesis α}

/-- A design without a covariate is assembled when its matrices can be built and fit together. -/
theorem exists_assemble (hplain : d.gaussianCovariate = false)
    (hadmissible : d.checkAdmissible limits = .ok ()) {X B C U S T : Mat α}
    (hX : d.designMatrix = .ok (some X)) (hXpos : 0 < X.rows ∧ 0 < X.cols)
    (hB : d.betaEffects = .ok ⟨some B, none, .below⟩) (hBpos : 0 < B.rows ∧ 0 < B.cols)
    (hC : d.betweenContrast = .ok (some ⟨some C, none, .beside⟩))
    (hU : d.withinContrast.outcome = .ok (some U))
    (hT : d.thetaNull (some ⟨some C, none, .beside⟩) (some U) = some T)
    (hS : d.sigmaError.outcome = .ok (some S)) (hSpos : 0 < S.rows ∧ 0 < S.cols)
    (hXB : X.cols = B.rows) (hCB : C.cols = B.rows) (hBU : B.cols = U.rows)
    (hTheta : T.shape = (C.rows, U.cols)) (hBS : B.cols = S.rows) :
    ∃ b, (d.assemble limits).outcome = .ok b := by
  have hcovariance : d.outcomeCovariance.outcome = .ok (.error S) := by
    unfold outcomeCovariance
    rw [hplain, if_neg Bool.false_ne_true]
    simp only [Journal.outcome_bind_eq_ok_iff, Journal.outcome_monadLift, Journal.outcome_noteMat,
      Journal.outcome_pure, requireMat_eq_ok_iff]
    exact ⟨some S, hS, S, ⟨rfl, hSpos⟩, (), trivial, rfl⟩
  apply Exists.intro
  unfold assemble
  simp only [Journal.outcome_bind_eq_ok_iff, Journal.outcome_monadLift, Journal.outcome_noteMat,
    Journal.outcome_pure, outcome_screen, requireMat_eq_ok_iff]
  refine ⟨(), hadmissible, some X, hX, X, ⟨rfl, hXpos⟩, (), trivial, _, hB, B, ⟨rfl, hBpos⟩,
    some B, rfl, (), trivial, _, hC, some C, rfl, (), trivial, some U, hU, (), trivial, (), trivial,
    .error S, hcovariance, (), ?_, rfl⟩
  exact Bundle.checkConformance_of_plain rfl rfl rfl hT rfl hXB hCB hBU hTheta hBS

/-- The means of an assembled design have as many rows as there are groups, and as many columns as
the contrast within participants has rows for one cluster member. -/
theorem shape_beta_of_assemble (hguided : d.isMatrixMode = false) {b : Bundle α}
    (h : (d.assemble limits).outcome = .ok b) {X U : Mat α} (hX : d.designMatrix = .ok (some X))
    (hU : d.withinContrast.outcome = .ok (some U)) {n : Option ℕ} (hn : d.clusterSize = .ok n)
    {p : ℕ} (hrows : U.rows = n.getD 1 * p) :
    ∃ B, d.matrix .beta = some B ∧ B.shape = (X.cols, p) := by
  have hassembled := assembled_of_ok h
  have hcoherent := hassembled.coherent
  obtain ⟨n', fixed, random, hn', hfixed, -, heffects⟩ :=
    betaEffects_of_guided hguided hassembled.beta
  obtain ⟨rfl, -⟩ := Effects.mk.inj heffects
  obtain rfl : n = n' := Except.ok.inj (hn.symm.trans hn')
  obtain ⟨B, hB, hacross⟩ := Option.mapM_eq_ok_some_iff.mp hfixed
  obtain ⟨hBrows, hBcols⟩ := repeatAcross_sizes_of_ok hacross
  have hdesign : X = b.design := Option.some.inj (Except.ok.inj (hX.symm.trans hassembled.design))
  have hwithin : b.within = some U := Except.ok.inj (hassembled.within.symm.trans hU)
  have hcols : n.getD 1 * p = n.getD 1 * B.cols := by
    rw [← hrows, ← hBcols]
    exact hcoherent.within_rows U hwithin
  refine ⟨B, hB, Prod.ext ?_ ?_⟩
  · rw [Mat.shape, ← hBrows, hcoherent.beta_rows, hdesign]
  · exact (Nat.eq_of_mul_eq_mul_left (one_le_of_clusterSize hn) hcols).symm

/-- The means can be repeated for each cluster member when the contrast can. -/
theorem exists_betaEffects (hguided : d.isMatrixMode = false) {n : Option ℕ}
    (hn : d.clusterSize = .ok n) {W U B : Mat α} (hdown : repeatDown n W = .ok U)
    (hB : d.matrix .beta = some B) (hrandom : d.matrix .betaRandom = none) :
    ∃ B', d.betaEffects = .ok ⟨some B', none, .below⟩ ∧ B'.rows = B.rows ∧
      B'.cols = n.getD 1 * B.cols := by
  obtain ⟨B', hB'⟩ := exists_repeatAcross (one_le_of_clusterSize hn) hdown B
  refine ⟨B', ?_, repeatAcross_sizes_of_ok hB'⟩
  unfold betaEffects
  rw [hguided, if_neg Bool.false_ne_true]
  simp only [Except.bind_eq_ok_iff, Except.pure_eq_ok_iff]
  refine ⟨n, hn, some B', ?_, none, ?_, rfl⟩
  · exact Option.mapM_eq_ok_some_iff.mpr ⟨B, hB, hB'⟩
  · rw [hrandom]
    rfl

/-- The matrix of zeros is the null hypothesis of a design that gives none. -/
theorem thetaNull_of_none (hnull : d.matrix .thetaNull = none) (C U : Mat α) :
    d.thetaNull (some ⟨some C, none, .beside⟩) (some U) = some (filled C.rows U.cols 0) := by
  unfold thetaNull
  rw [hnull]
  rfl

/-- With as many points as measurements, the contrast within participants has a row for each outcome
of each cluster member. -/
theorem rows_of_wellSpaced [Scalar.KeepsRows α] (hnames : (d.measures.map (·.dimension)).Nodup)
    (hspaced : ∀ m ∈ d.measures, m.WellSpaced) (hnonneg : ∀ m ∈ d.measures, 0 ≤ m.count.int?.getD 0)
    {W U : Mat α} (hW : d.guidedWithin g = .ok W) {n : Option ℕ} (hdown : repeatDown n W = .ok U) :
    U.rows = n.getD 1 * d.memberOutcomes := by
  obtain ⟨blocks, -, hblocks, hWrows, -⟩ := rows_of_guidedWithin hnames hnonneg hW
  have hsides : d.measures.map (contrastedCount g.kind g.within) =
      d.measures.map (·.levelCount) := by
    refine List.map_congr_left fun m hm => ?_
    rw [contrastedCount, ((hspaced m hm).levelCount (int?_of_guidedWithin hW m hm)).2, ite_self]
  rw [(repeatDown_sizes_of_ok hdown).1, hWrows, hblocks, hsides, memberOutcomes]

omit [Scalar α] in
theorem one_le_memberOutcomes (h : ∀ m ∈ d.measures, 1 ≤ m.levelCount) : 1 ≤ d.memberOutcomes := by
  have hprod : 1 ≤ (d.measures.map (·.levelCount)).prod := by
    refine List.one_le_prod_of_one_le fun k hk => ?_
    obtain ⟨m, hm, rfl⟩ := List.mem_map.mp hk
    exact h m hm
  exact Nat.mul_pos hprod (by omega)

/-- **The matrices of a guided design agree.**  The design matrix and the contrast between
participants have a column for each group, the contrast within participants and the covariance have
a row for each outcome of each cluster member, and the design is assembled exactly when its means
have a row for each group and a column for each outcome. -/
theorem assemble_iff_shape_beta [Scalar.KeepsRows α] (hguided : d.isMatrixMode = false)
    (hplain : d.gaussianCovariate = false) (hprimary : d.primaryHypothesis = some g)
    (hnames : (d.factors.map (·.name)).Nodup) (hspaced : ∀ m ∈ d.measures, m.WellSpaced)
    (hnull : d.matrix .thetaNull = none) (hrandom : d.matrix .betaRandom = none)
    (hadmissible : d.checkAdmissible limits = .ok ()) {x u s : Option (Mat α)}
    {e : Option (Effects α)} (hx : d.designMatrix = .ok x) (hrows : ∀ X, x = some X → 0 < X.rows)
    (he : d.betweenContrast = .ok e) (hu : d.withinContrast.outcome = .ok u)
    (hs : d.sigmaError.outcome = .ok s) :
    (∃ X C U S n, x = some X ∧ e = some ⟨some C, none, .beside⟩ ∧ u = some U ∧ s = some S ∧
      d.clusterSize = .ok n ∧ X.cols = d.groupCount ∧ C.cols = d.groupCount ∧
      U.rows = n.getD 1 * d.memberOutcomes ∧
      S.shape = (n.getD 1 * d.memberOutcomes, n.getD 1 * d.memberOutcomes)) ∧
    ((∃ b, (d.assemble limits).outcome = .ok b) ↔
      ∃ B, d.matrix .beta = some B ∧ B.shape = (d.groupCount, d.memberOutcomes)) := by
  obtain ⟨X, rfl, hXcols, hgroups⟩ := designMatrix_of_guided hguided hx
  obtain ⟨C, hC, rfl⟩ := betweenContrast_of_guided hguided hprimary he
  rw [hplain, if_neg Bool.false_ne_true] at he ⊢
  obtain ⟨W, n, U, hW, hn, hdown, rfl⟩ := withinContrast_of_guided hguided hprimary hu
  obtain ⟨S, hS, hsquare, rfl⟩ := sigmaError_of_guided hguided hs
  have hCcols := (guidedBetween_sizes_of_ok hC).2 hnames
  have hints := int?_of_guidedWithin hW
  obtain ⟨-, -, -, -, -, hnonneg, -, hSrows, hScols⟩ := guidedSigma_sizes_of_ok hints hn hS
  have hUrows : U.rows = n.getD 1 * d.memberOutcomes :=
    rows_of_wellSpaced (nodup_of_checkAdmissible hadmissible) hspaced hnonneg hW hdown
  have hsize := one_le_of_clusterSize hn
  have houtcomes := one_le_memberOutcomes fun m hm => ((hspaced m hm).levelCount (hints m hm)).1
  refine ⟨⟨X, C, U, S.symmetricPart, n, rfl, rfl, rfl, rfl, hn, hXcols, hCcols, hUrows,
    Prod.ext hSrows hScols⟩, ?_, ?_⟩
  · -- the comparison of sizes leaves the means no other shape
    rintro ⟨b, hb⟩
    obtain ⟨B, hB, hshape⟩ := shape_beta_of_assemble hguided hb hx hu hn hUrows
    exact ⟨B, hB, hshape.trans (by rw [hXcols])⟩
  · -- and means of that shape pass it
    rintro ⟨B, hB, hshape⟩
    obtain ⟨hBrows, hBcols⟩ := Prod.ext_iff.mp hshape
    obtain ⟨B', heffects, hrows', hcols'⟩ := exists_betaEffects hguided hn hdown hB hrandom
    rw [show B.rows = d.groupCount from hBrows] at hrows'
    rw [show B.cols = d.memberOutcomes from hBcols] at hcols'
    have hpos : 0 < n.getD 1 * d.memberOutcomes := Nat.mul_pos hsize houtcomes
    exact exists_assemble hplain hadmissible hx ⟨hrows X rfl, by omega⟩ heffects
      ⟨by omega, by omega⟩ he hu (thetaNull_of_none hnull C U) hs ⟨hSrows ▸ hpos, hScols ▸ hpos⟩
      (by omega) (by omega) (by omega) rfl (hcols'.trans hSrows.symm)

/-- The trial in schools without its covariate, with measurements at the first and the fourth
week. -/
def weekTrial : StudyDesign ℚ := { schoolTrial with
  covariateFlag := .bool false
  measures := [⟨"time", .int 2, some [.int 1, .int 4]⟩]
  hypotheses := [⟨.interaction, [⟨"dose", .known .none⟩], [⟨"time", .known .linear⟩]⟩]
  matrices := [("beta", .ofArray 4 2 #[1, 2, 3, 5, 2, 2, 1, 0])] }

/-- The trial has four groups, and two outcomes of each of the six pupils in a school; it is
assembled since its means are a 4 x 2 matrix. -/
theorem assemble_iff_shape_beta_weekTrial :
    ∃ C U S, weekTrial.betweenContrast = .ok (some ⟨some C, none, .beside⟩) ∧ C.cols = 4 ∧
      weekTrial.withinContrast.outcome = .ok (some U) ∧ U.rows = 12 ∧
      weekTrial.sigmaError.outcome = .ok (some S) ∧ S.shape = (12, 12) ∧
      ∃ b, (weekTrial.assemble {}).outcome = .ok b := by
  have hspaced : ∀ m ∈ weekTrial.measures, m.WellSpaced := by
    intro m hm
    obtain rfl := List.mem_singleton.mp hm
    refine ⟨rfl, ?_⟩
    rintro ds ⟨⟩
    decide
  have hx : weekTrial.designMatrix = .ok (some (.ofArray 5 4
      #[1, 0, 0, 0, 0, 1, 0, 0, 0, 1, 0, 0, 0, 0, 1, 0, 0, 0, 0, 1])) :=
    Except.eq_ok_of_toOption (by decide +kernel)
  obtain ⟨e, he⟩ := Except.exists_eq_ok_of_isSome
    (show weekTrial.betweenContrast.toOption.isSome by decide +kernel)
  obtain ⟨u, hu⟩ := Except.exists_eq_ok_of_isSome
    (show weekTrial.withinContrast.outcome.toOption.isSome by decide +kernel)
  obtain ⟨s, hs⟩ := Except.exists_eq_ok_of_isSome
    (show weekTrial.sigmaError.outcome.toOption.isSome by decide +kernel)
  have hadmissible : weekTrial.checkAdmissible {} = .ok () :=
    Except.eq_ok_of_toOption (by decide +kernel)
  have hsize : weekTrial.clusterSize = .ok (some 6) :=
    Except.eq_ok_of_toOption (by decide +kernel)
  obtain ⟨⟨X, C, U, S, n, -, rfl, rfl, rfl, hn, -, hC, hU, hS⟩, hiff⟩ :=
    assemble_iff_shape_beta rfl (by decide +kernel) rfl (by decide) hspaced rfl rfl hadmissible hx
      (by rintro X ⟨⟩; decide) he hu hs
  obtain rfl : some 6 = n := Except.ok.inj (hsize.symm.trans hn)
  exact ⟨C, U, S, he, hC, hu, hU, hs, hS, hiff.mpr ⟨_, rfl, rfl⟩⟩

end StudyDesign

end StudyPower
