import Mathlib
import StudyPower.Proofs.Bundle.Conformance
import StudyPower.Proofs.Contrast.Size

/-!
# The matrices of a guided design

A guided design declares factors, dimensions, responses and clusters, and five builders work out the
numbers of groups and of outcomes from them, each on its own.

## Main definitions

* `StudyDesign.memberOutcomes` — the number of outcomes of one cluster member.
* `StudyDesign.withinBlocks` — the blocks that the dimensions contribute to a contrast within
  participants.

## Main statements

* `StudyDesign.designMatrix_of_guided`, `StudyDesign.betaEffects_of_guided`,
  `StudyDesign.betweenContrast_of_guided`, `StudyDesign.withinContrast_of_guided`,
  `StudyDesign.sigmaError_of_guided` — what the builders of a guided design return.
* `StudyDesign.cols_of_cellMeans`, `StudyDesign.guidedBetween_sizes_of_ok`,
  `StudyDesign.rows_of_guidedWithin`, `StudyDesign.cols_of_guidedWithin_eq_zero_iff`,
  `StudyDesign.guidedSigma_sizes_of_ok` — the sizes of what they return.
-/

namespace StudyPower

open Mat Contrast

variable {α : Type} [Scalar α]

/-! ### Cluster members -/

omit [Scalar α] in
theorem Cluster.one_le_of_members {c : Cluster α} {n : ℕ} (h : c.members = .ok n) : 1 ≤ n := by
  unfold Cluster.members checkPositive at h
  split at h
  · split at h
    · cases h
    · have hn := Except.ok.inj h
      omega
  · cases h

theorem shape_of_clusterBlock {c : Cluster α} {K : Mat α}
    (h : StudyDesign.clusterBlock c = .ok K) {n : ℕ} (hn : c.members = .ok n) :
    K.rows = n ∧ K.cols = n := by
  unfold StudyDesign.clusterBlock at h
  simp only [hn, Except.bind_eq_ok_iff, Except.ok.injEq, exists_eq_left',
    Except.pure_eq_ok_iff] at h
  obtain ⟨ρ, -, shape, hshape, rfl⟩ := h
  rw [checkShape_of_ok hshape]
  exact ⟨Int.toNat_natCast n, Int.toNat_natCast n⟩

/-- A column of ones that can be stored can also be stored as a row. -/
theorem exists_checkShape_row {n : ℕ} (hn : 1 ≤ n) {shape : ℕ × ℕ}
    (h : checkShape (α := α) n 1 = .ok shape) :
    ∃ shape', checkShape (α := α) 1 n = .ok shape' := by
  have hside : ∀ storage k : ℤ, 1 ≤ k → checkStorage (α := α) storage k =
      if sizeLimit ≤ storage * k then .error .arrayTooLarge else .ok (storage * k) := by
    intro storage k hk
    rw [checkStorage, if_neg (by omega), if_neg (by omega)]
  have hn' : (1 : ℤ) ≤ n := by omega
  -- the storage is multiplied by the sides in turn: the order of `1` and `n` makes no difference
  unfold checkShape at h ⊢
  simp only [List.foldlM_cons, List.foldlM_nil, hside _ _ hn', hside _ 1 (le_refl 1), mul_one]
    at h ⊢
  split at h
  · simp [Except.bind_eq_ok_iff] at h
  · next hsize =>
    rw [Bool.or_comm] at hsize
    simp only [Except.bind_eq_ok_iff, Except.pure_eq_ok_iff] at h
    obtain ⟨storage, ⟨s, hs, t, ht, rfl⟩, h⟩ := h
    split at hs
    · cases hs
    · next hfits =>
      obtain rfl := Except.ok.inj hs
      rw [if_neg hfits, Except.ok.injEq] at ht
      obtain rfl := ht
      split at h
      · simp [Except.map_eq_ok_iff] at h
      · next hspace =>
        have hle : (Scalar.entrySize α : ℤ) ≤ Scalar.entrySize α * n :=
          le_mul_of_one_le_right (Int.natCast_nonneg _) hn'
        refine ⟨(1, n), ?_⟩
        simp only [if_neg hsize, Except.bind_eq_ok_iff, Except.pure_eq_ok_iff]
        refine ⟨_, ⟨_, if_neg (by omega), _, if_neg hfits, rfl⟩, ?_⟩
        rw [if_neg hspace]
        rfl

/-! ### Copies for each cluster member -/

theorem repeatAcross_sizes_of_ok {n : Option ℕ} {m x : Mat α} (h : repeatAcross n m = .ok x) :
    x.rows = m.rows ∧ x.cols = n.getD 1 * m.cols := by
  unfold repeatAcross at h
  cases n with
  | none =>
    obtain rfl := Except.pure_eq_ok_iff.mp h
    exact ⟨rfl, (Nat.one_mul _).symm⟩
  | some n =>
    simp only [Except.bind_eq_ok_iff, Except.pure_eq_ok_iff] at h
    obtain ⟨shape, hshape, rfl⟩ := h
    rw [checkShape_of_ok hshape]
    exact ⟨Nat.one_mul _, rfl⟩

theorem repeatDown_sizes_of_ok {n : Option ℕ} {m x : Mat α} (h : repeatDown n m = .ok x) :
    x.rows = n.getD 1 * m.rows ∧ x.cols = m.cols := by
  unfold repeatDown at h
  cases n with
  | none =>
    obtain rfl := Except.pure_eq_ok_iff.mp h
    exact ⟨(Nat.one_mul _).symm, rfl⟩
  | some n =>
    simp only [Except.bind_eq_ok_iff, Except.pure_eq_ok_iff] at h
    obtain ⟨shape, hshape, rfl⟩ := h
    rw [checkShape_of_ok hshape]
    exact ⟨rfl, Nat.one_mul _⟩

/-- Copies that can be put below each other can be put beside each other. -/
theorem exists_repeatAcross {n : Option ℕ} (hn : 1 ≤ n.getD 1) {m x : Mat α}
    (h : repeatDown n m = .ok x) (m' : Mat α) : ∃ y, repeatAcross n m' = .ok y := by
  unfold repeatDown at h
  unfold repeatAcross
  cases n with
  | none => exact ⟨m', rfl⟩
  | some n =>
    simp only [Except.bind_eq_ok_iff] at h
    obtain ⟨shape, hshape, -⟩ := h
    obtain ⟨shape', hshape'⟩ := exists_checkShape_row hn hshape
    exact ⟨_, Except.bind_eq_ok_iff.mpr ⟨shape', hshape', rfl⟩⟩

namespace StudyDesign

variable {d : StudyDesign α} {g : Hypothesis α}

omit [Scalar α] in
/-- The size of a cluster is the product of the sizes of its levels. -/
theorem exists_sizes_of_clusterSize {n : Option ℕ} (h : d.clusterSize = .ok n) :
    ∃ sizes, List.Forall₂ (fun c s => Cluster.members c = .ok s) d.clusters sizes ∧
      n.getD 1 = sizes.prod := by
  unfold clusterSize at h
  split at h
  · next hempty =>
    rw [List.isEmpty_iff.mp hempty, ← Except.pure_eq_ok_iff.mp h]
    exact ⟨[], .nil, rfl⟩
  · simp only [Except.bind_eq_ok_iff, Except.pure_eq_ok_iff, List.mapM_eq_ok_iff] at h
    obtain ⟨sizes, hsizes, rfl⟩ := h
    exact ⟨sizes, hsizes, List.prod_eq_foldl.symm⟩

omit [Scalar α] in
theorem one_le_of_clusterSize {n : Option ℕ} (h : d.clusterSize = .ok n) : 1 ≤ n.getD 1 := by
  obtain ⟨sizes, hsizes, hprod⟩ := exists_sizes_of_clusterSize h
  rw [hprod]
  refine List.one_le_prod_of_one_le fun s hs => ?_
  obtain ⟨c, hc⟩ := List.exists_of_forall₂ hsizes.flip hs
  exact Cluster.one_le_of_members hc

/-- The blocks of the cluster levels have together as many rows and columns as a cluster has
members. -/
theorem prod_of_clusterBlocks {n : Option ℕ} (h : d.clusterSize = .ok n) {blocks : List (Mat α)}
    (hblocks : d.clusters.mapM clusterBlock = .ok blocks) :
    (blocks.map Mat.rows).prod = n.getD 1 ∧ (blocks.map Mat.cols).prod = n.getD 1 := by
  obtain ⟨sizes, hsizes, hprod⟩ := exists_sizes_of_clusterSize h
  have hall : blocks.map Mat.rows = sizes ∧ blocks.map Mat.cols = sizes := by
    -- along the levels, with their sizes and their blocks
    rw [List.mapM_eq_ok_iff] at hblocks
    clear h hprod
    generalize d.clusters = clusters at hsizes hblocks
    induction hsizes generalizing blocks with
    | nil =>
      obtain rfl := List.forall₂_nil_left_iff.mp hblocks
      exact ⟨rfl, rfl⟩
    | cons hsize _ ih =>
      obtain ⟨K, rest, hK, hrest, rfl⟩ := List.forall₂_cons_left_iff.mp hblocks
      obtain ⟨hrows, hcols⟩ := shape_of_clusterBlock hK hsize
      obtain ⟨ihrows, ihcols⟩ := ih hrest
      rw [List.map_cons, List.map_cons, hrows, hcols, ihrows, ihcols]
      exact ⟨rfl, rfl⟩
  rw [hall.1, hall.2]
  exact ⟨hprod.symm, hprod.symm⟩

/-! ### Groups -/

theorem cols_of_cellMeans {X : Mat α} (h : d.cellMeans = .ok X) :
    X.cols = d.groupCount ∧ 1 ≤ d.groupCount := by
  unfold cellMeans at h
  simp only at h
  split at h
  · simp at h
  · next hzero =>
    refine ⟨?_, by omega⟩
    split at h
    · next hone =>
      rw [← Except.pure_eq_ok_iff.mp h, hone]
      rfl
    · split at h
      · simp only [Except.bind_eq_ok_iff, Except.pure_eq_ok_iff] at h
        obtain ⟨shape, hshape, rfl⟩ := h
        rw [checkShape_of_ok hshape]
        exact Int.toNat_natCast _
      · split at h
        · simp at h
        · simp only [Except.bind_eq_ok_iff, Except.pure_eq_ok_iff] at h
          obtain ⟨counts, -, -, -, rfl⟩ := h
          rfl

theorem designMatrix_of_guided (hguided : d.isMatrixMode = false) {x : Option (Mat α)}
    (h : d.designMatrix = .ok x) : ∃ X, x = some X ∧ X.cols = d.groupCount ∧ 1 ≤ d.groupCount := by
  unfold designMatrix at h
  rw [hguided, if_neg Bool.false_ne_true] at h
  simp only [Except.bind_eq_ok_iff, Except.pure_eq_ok_iff] at h
  obtain ⟨X, hX, rfl⟩ := h
  exact ⟨X, rfl, cols_of_cellMeans hX⟩

/-! ### Means and contrasts -/

theorem betaEffects_of_guided (hguided : d.isMatrixMode = false) {e : Effects α}
    (h : d.betaEffects = .ok e) :
    ∃ n fixed random, d.clusterSize = .ok n ∧
      (d.matrix .beta).mapM (repeatAcross n) = .ok fixed ∧
      (d.matrix .betaRandom).mapM (repeatAcross n) = .ok random ∧ e = ⟨fixed, random, .below⟩ := by
  unfold betaEffects at h
  rw [hguided, if_neg Bool.false_ne_true] at h
  simp only [Except.bind_eq_ok_iff, Except.pure_eq_ok_iff] at h
  obtain ⟨n, hn, fixed, hfixed, random, hrandom, rfl⟩ := h
  exact ⟨n, fixed, random, hn, hfixed, hrandom, rfl⟩

theorem betweenContrast_of_guided (hguided : d.isMatrixMode = false)
    (hprimary : d.primaryHypothesis = some g) {e : Option (Effects α)}
    (h : d.betweenContrast = .ok e) :
    ∃ C, d.guidedBetween g = .ok C ∧
      e = some ⟨some C, if d.gaussianCovariate then some (filled C.rows 1 0) else none,
        .beside⟩ := by
  unfold betweenContrast at h
  rw [hguided, if_neg Bool.false_ne_true, hprimary] at h
  simp only [Except.bind_eq_ok_iff, Except.pure_eq_ok_iff] at h
  obtain ⟨C, hC, rfl⟩ := h
  exact ⟨C, hC, rfl⟩

theorem withinContrast_of_guided (hguided : d.isMatrixMode = false)
    (hprimary : d.primaryHypothesis = some g) {u : Option (Mat α)}
    (h : d.withinContrast.outcome = .ok u) :
    ∃ W n U, d.guidedWithin g = .ok W ∧ d.clusterSize = .ok n ∧ repeatDown n W = .ok U ∧
      u = some U := by
  unfold withinContrast at h
  rw [hguided, if_neg Bool.false_ne_true, hprimary] at h
  simp only [Journal.outcome_bind_eq_ok_iff, Journal.outcome_monadLift, Journal.outcome_noteMat,
    Journal.outcome_pure, Except.ok.injEq] at h
  obtain ⟨W, hW, -, -, n, hn, U, hU, rfl⟩ := h
  exact ⟨W, n, U, hW, hn, hU, rfl⟩

theorem guidedBetween_sizes_of_ok [Scalar.KeepsRows α] {C : Mat α}
    (h : d.guidedBetween g = .ok C) :
    (C.rows = 0 ↔ HasEmptyTrend (factorLevels d.factors) g.kind g.between) ∧
      ((d.factors.map (·.name)).Nodup → C.cols = d.groupCount) := by
  rw [guidedBetween_eq] at h
  obtain ⟨tested, htested, hC⟩ := Except.bind_eq_ok_iff.mp h
  obtain ⟨-, hrows, hcols⟩ := between_sizes_of_ok hC
  constructor
  · rw [hrows, ← prod_sideRows_eq_zero_iff htested fun _ _ => mem_of_points_factorLevels,
      List.map_map, Function.comp_def]
  · intro hnames
    rw [hcols, groupCount_eq_prod]
    congr 1
    exact List.map_congr_left fun f hf => sideCols_of_factor hnames htested hf

/-! ### Outcomes -/

/-- The number of outcomes of one cluster member: measurements in every dimension of every
response. -/
def memberOutcomes (d : StudyDesign α) : ℕ :=
  (d.measures.map (·.levelCount)).prod * max d.responses.length 1

/-- The blocks that the dimensions contribute to a contrast within participants.  The identity over
all outcomes takes the identity over the levels of each. -/
def withinBlocks (d : StudyDesign α) (g : Hypothesis α) : Except (Fault α) (List (Mat α)) :=
  if g.kind = .manova then .ok (d.measures.map fun m => identity m.levelCount)
  else do
    d.measures.mapM (Contrast.measureBlock
      (← testedBlocks (measureLevels d.measures) g.kind g.within))

theorem hasSide_of_guidedWithin (hkind : g.kind ≠ .manova) {W : Mat α}
    (h : d.guidedWithin g = .ok W) : ∀ m ∈ d.measures, HasSide m m.levelCount := by
  rw [guidedWithin_eq d hkind] at h
  obtain ⟨tested, -, hW⟩ := Except.bind_eq_ok_iff.mp h
  obtain ⟨-, -, -, hsides, -⟩ := within_sizes_of_ok hW
  exact hsides

/-- A contrast within participants looks at the declared numbers of measurements. -/
theorem int?_of_guidedWithin {W : Mat α} (h : d.guidedWithin g = .ok W) :
    ∀ m ∈ d.measures, m.count.int?.isSome := by
  by_cases hkind : g.kind = .manova
  · unfold guidedWithin at h
    rw [hkind] at h
    exact (withinManova_of_ok h).1
  · intro m hm
    rw [(hasSide_of_guidedWithin hkind h m hm).1]
    rfl

/-- A contrast within participants has a row for each choice of levels and response. -/
theorem rows_of_guidedWithin [Scalar.KeepsRows α] (hnames : (d.measures.map (·.dimension)).Nodup)
    (hcounts : ∀ m ∈ d.measures, 0 ≤ m.count.int?.getD 0) {W : Mat α}
    (h : d.guidedWithin g = .ok W) :
    ∃ blocks, d.withinBlocks g = .ok blocks ∧
      blocks.map Mat.rows = d.measures.map (contrastedCount g.kind g.within) ∧
      W.rows = (blocks.map Mat.rows).prod * max d.responses.length 1 ∧
      (g.kind ≠ .manova → W = kronAll (blocks ++ [identity (max d.responses.length 1)])) := by
  unfold withinBlocks
  rw [← responseCount_eq_max]
  by_cases hkind : g.kind = .manova
  · -- the identity is built at once, from the product of the counts as they are declared
    rw [if_pos hkind]
    unfold guidedWithin at h
    rw [hkind] at h ⊢
    obtain ⟨-, rfl⟩ := withinManova_of_ok h
    refine ⟨_, rfl, ?_, ?_, fun hne => absurd rfl hne⟩
    · rw [List.map_map]
      exact List.map_congr_left fun m _ => rfl
    · have hprod : (d.measures.map fun m => m.count.int?.getD 0).prod =
          ((d.measures.map (·.levelCount)).prod : ℕ) := by
        rw [Nat.cast_list_prod, List.map_map]
        congr 1
        exact List.map_congr_left fun m hm => (Int.toNat_of_nonneg (hcounts m hm)).symm
      rw [hprod, rows_identity, List.map_map, ← Nat.cast_mul, Int.toNat_natCast, Nat.mul_comm]
      rfl
  · -- a Kronecker product of blocks, with the identity over the responses last
    rw [if_neg hkind]
    rw [guidedWithin_eq d hkind] at h
    obtain ⟨tested, htested, hW⟩ := Except.bind_eq_ok_iff.mp h
    obtain ⟨blocks, hblocks, rfl, -, hrows, -⟩ := within_sizes_of_ok hW
    refine ⟨blocks, Except.bind_eq_ok_iff.mpr ⟨tested, htested, hblocks⟩, ?_, ?_, fun _ => rfl⟩
    · rw [hrows]
      exact List.map_congr_left fun m hm => sideCols_of_measure hnames htested hm
    · rw [rows_kronAll, List.map_append, List.prod_append]
      simp

/-- It has no column exactly when it has an empty trend. -/
theorem cols_of_guidedWithin_eq_zero_iff [Scalar.KeepsRows α] {W : Mat α}
    (h : d.guidedWithin g = .ok W) (hrows : 0 < W.rows) :
    W.cols = 0 ↔ HasEmptyTrend (measureLevels d.measures) g.kind g.within := by
  by_cases hkind : g.kind = .manova
  · unfold guidedWithin at h
    rw [hkind] at h ⊢
    obtain ⟨-, rfl⟩ := withinManova_of_ok h
    refine iff_of_false (Nat.pos_iff_ne_zero.mp hrows) ?_
    rintro ⟨name, m, points, n, hmap, -⟩
    cases hmap
  · rw [guidedWithin_eq d hkind] at h
    obtain ⟨tested, htested, hW⟩ := Except.bind_eq_ok_iff.mp h
    obtain ⟨blocks, -, -, -, -, hcols⟩ := within_sizes_of_ok hW
    have hone : responseCount d.responses ≠ 0 := by
      rw [responseCount_eq_max]
      omega
    rw [hcols, Nat.mul_eq_zero, or_iff_left hone,
      ← prod_sideRows_eq_zero_iff htested fun _ _ => mem_of_points_measureLevels, List.map_map,
      Function.comp_def]

/-! ### Covariances -/

theorem hasSize_of_ofSize {name : String} {size : Datum α} {m : Option (Mat α)} {B : Mat α}
    (h : (Covariance.ofSize name size m).outcome = .ok (some B)) :
    Covariance.hasSize B size = true := by
  unfold Covariance.ofSize at h
  split at h
  · next hm =>
    simp only [Journal.outcome_pure, Except.ok.injEq, Option.some.injEq] at h
    obtain rfl := h
    exact (Option.filter_eq_some_iff.mp hm).2
  · obtain ⟨-, -, h⟩ := Journal.outcome_bind_eq_ok_iff.mp h
    cases h

/-- The matrix of a declared structure has the size that was asked for. -/
theorem hasSize_of_toMat {c : Covariance α} {size : Datum α} {points : Option (Points α)}
    {B : Mat α} (h : (c.toMat size points).outcome = .ok (some B)) :
    Covariance.hasSize B size = true := by
  have hdecaying : ∀ points : Points α, (c.decayingMat size points).outcome = .ok (some B) →
      Covariance.hasSize B size = true := by
    intro points h
    unfold Covariance.decayingMat at h
    obtain ⟨n, -, h⟩ := Journal.outcome_bind_eq_ok_iff.mp h
    split at h
    · obtain ⟨m, -, h⟩ := Journal.outcome_bind_eq_ok_iff.mp h
      exact hasSize_of_ofSize h
    · cases h
  unfold Covariance.toMat at h
  split at h
  · exact hasSize_of_ofSize h
  · split at h
    · exact hasSize_of_ofSize h
    · obtain ⟨-, -, h⟩ := Journal.outcome_bind_eq_ok_iff.mp h
      cases h
  · split at h
    · obtain ⟨-, -, h⟩ := Journal.outcome_bind_eq_ok_iff.mp h
      cases h
    · obtain ⟨-, -, h⟩ := Journal.outcome_bind_eq_ok_iff.mp h
      cases h
    · split at h
      · exact hdecaying _ h
      · obtain ⟨n, -, h⟩ := Journal.outcome_bind_eq_ok_iff.mp h
        exact hdecaying _ h

theorem shape_of_hasSize {m : Mat α} {size : Datum α} {n : ℤ} (hn : size.int? = some n)
    (h : Covariance.hasSize m size = true) : n = m.rows ∧ n = m.cols := by
  unfold Covariance.hasSize Datum.equals at h
  simpa [hn] using h

/-- The covariance along a dimension is the matrix of the structure with its name. -/
theorem outcome_measureBlock_eq_ok_iff {m : RepeatedMeasure α} {B : Mat α} :
    (d.measureBlock m).outcome = .ok B ↔ ∃ c points, d.covariance m.dimension = some c ∧
      m.points = .ok points ∧ (c.toMat m.count (some points)).outcome = .ok (some B) := by
  unfold measureBlock
  cases hc : d.covariance m.dimension with
  | none => simp
  | some c =>
    simp only [Journal.outcome_bind_eq_ok_iff, Journal.outcome_monadLift, Option.some.injEq]
    constructor
    · rintro ⟨points, hpoints, block?, hblock, h⟩
      cases block? with
      | none => cases h
      | some B' =>
        obtain rfl := Except.ok.inj h
        exact ⟨c, points, rfl, hpoints, hblock⟩
    · rintro ⟨c', points, rfl, hpoints, hblock⟩
      exact ⟨points, hpoints, some B, hblock, rfl⟩

/-- The covariance of the responses is the matrix of the structure with their name. -/
theorem outcome_responseBlock_eq_ok_iff {R : Mat α} :
    d.responseBlock.outcome = .ok R ↔ ∃ c, d.covariance responseCovarianceName = some c ∧
      (c.toMat (.int (responseCount d.responses)) none).outcome = .ok (some R) := by
  unfold responseBlock
  cases hc : d.covariance responseCovarianceName with
  | none => simp [Covariance.toMat?]
  | some c =>
    simp only [Covariance.toMat?, Journal.outcome_bind_eq_ok_iff, Option.some.injEq]
    constructor
    · rintro ⟨block?, hblock, h⟩
      cases block? with
      | none => cases h
      | some R' =>
        obtain rfl := Except.ok.inj h
        exact ⟨c, rfl, hblock⟩
    · rintro ⟨c', rfl, hblock⟩
      exact ⟨some R, hblock, rfl⟩

/-- The covariance along a dimension has a row and a column for each measurement. -/
theorem shape_of_measureBlock {m : RepeatedMeasure α} (hm : m.count.int?.isSome) {B : Mat α}
    (h : (d.measureBlock m).outcome = .ok B) :
    0 ≤ m.count.int?.getD 0 ∧ B.shape = (m.levelCount, m.levelCount) := by
  obtain ⟨n, hn⟩ := Option.isSome_iff_exists.mp hm
  obtain ⟨c, points, -, -, hB⟩ := outcome_measureBlock_eq_ok_iff.mp h
  obtain ⟨hrows, hcols⟩ := shape_of_hasSize hn (hasSize_of_toMat hB)
  rw [RepeatedMeasure.levelCount, hn, Option.getD_some]
  exact ⟨by omega, Prod.ext (by simp [Mat.shape, hrows]) (by simp [Mat.shape, hcols])⟩

theorem shapes_of_measureBlocks {measures : List (RepeatedMeasure α)}
    (hcounts : ∀ m ∈ measures, m.count.int?.isSome) {blocks : List (Mat α)}
    (h : List.Forall₂ (fun m B => (d.measureBlock m).outcome = .ok B) measures blocks) :
    (∀ m ∈ measures, 0 ≤ m.count.int?.getD 0) ∧
      blocks.map Mat.shape = measures.map fun m => (m.levelCount, m.levelCount) := by
  induction h with
  | nil => exact ⟨fun m hm => absurd hm List.not_mem_nil, rfl⟩
  | cons hblock _ ih =>
    obtain ⟨hfirst, hrest⟩ := List.forall_mem_cons.mp hcounts
    obtain ⟨hpos, hshape⟩ := shape_of_measureBlock hfirst hblock
    obtain ⟨hall, hshapes⟩ := ih hrest
    refine ⟨List.forall_mem_cons.mpr ⟨hpos, hall⟩, ?_⟩
    rw [List.map_cons, List.map_cons, hshape, hshapes]

omit [Scalar α] in
theorem sides_of_shapes {measures : List (RepeatedMeasure α)} {blocks : List (Mat α)}
    (h : blocks.map Mat.shape = measures.map fun m => (m.levelCount, m.levelCount)) :
    blocks.map Mat.rows = measures.map (·.levelCount) ∧
      blocks.map Mat.cols = measures.map (·.levelCount) := by
  have hfst := congrArg (List.map Prod.fst) h
  have hsnd := congrArg (List.map Prod.snd) h
  rw [List.map_map, List.map_map] at hfst hsnd
  exact ⟨hfst, hsnd⟩

theorem shape_of_responseBlock {B : Mat α} (h : d.responseBlock.outcome = .ok B) :
    B.rows = max d.responses.length 1 ∧ B.cols = max d.responses.length 1 := by
  rw [← responseCount_eq_max]
  obtain ⟨c, -, hB⟩ := outcome_responseBlock_eq_ok_iff.mp h
  obtain ⟨hrows, hcols⟩ := shape_of_hasSize rfl (hasSize_of_toMat hB)
  omega

/-- The covariance of a guided design has a row and a column for each choice of cluster member,
levels and response. -/
theorem guidedSigma_sizes_of_ok (hcounts : ∀ m ∈ d.measures, m.count.int?.isSome) {n : Option ℕ}
    (hn : d.clusterSize = .ok n) {S : Mat α} (h : d.guidedSigma.outcome = .ok S) :
    ∃ clusters blocks responses, S = kronAll (clusters ++ blocks ++ [responses]) ∧
      (d.measures.mapM d.measureBlock).outcome = .ok blocks ∧
      (∀ m ∈ d.measures, 0 ≤ m.count.int?.getD 0) ∧
      blocks.map Mat.shape = d.measures.map (fun m => (m.levelCount, m.levelCount)) ∧
      S.rows = n.getD 1 * d.memberOutcomes ∧ S.cols = n.getD 1 * d.memberOutcomes := by
  unfold guidedSigma at h
  simp only [Journal.outcome_bind_eq_ok_iff, Journal.outcome_monadLift, Journal.outcome_pure,
    Except.ok.injEq] at h
  obtain ⟨clusters, hclusters, blocks, hblocks, responses, hresponses, rfl⟩ := h
  obtain ⟨hrows, hcols⟩ := prod_of_clusterBlocks hn hclusters
  obtain ⟨hrows', hcols'⟩ := shape_of_responseBlock hresponses
  obtain ⟨hpos, hshapes⟩ :=
    shapes_of_measureBlocks hcounts (Journal.outcome_mapM_eq_ok_iff.mp hblocks)
  have hsides := sides_of_shapes hshapes
  refine ⟨clusters, blocks, responses, rfl, hblocks, hpos, hshapes, ?_, ?_⟩
  · rw [rows_kronAll, List.map_append, List.map_append, List.prod_append, List.prod_append, hrows,
      hsides.1, List.map_singleton, List.prod_singleton, hrows', Nat.mul_assoc, memberOutcomes]
  · rw [cols_kronAll, List.map_append, List.map_append, List.prod_append, List.prod_append, hcols,
      hsides.2, List.map_singleton, List.prod_singleton, hcols', Nat.mul_assoc, memberOutcomes]

/-- The covariance of the errors of a guided design is that covariance made symmetric. -/
theorem sigmaError_of_guided (hguided : d.isMatrixMode = false) {s : Option (Mat α)}
    (h : d.sigmaError.outcome = .ok s) :
    ∃ S, d.guidedSigma.outcome = .ok S ∧ S.rows = S.cols ∧ s = some S.symmetricPart := by
  unfold sigmaError symmetric at h
  rw [hguided, if_neg Bool.false_ne_true] at h
  simp only [Journal.outcome_bind_eq_ok_iff, Journal.outcome_monadLift,
    Except.check_bind_eq_ok_iff, checkSquare_eq_ok_iff, Except.pure_eq_ok_iff] at h
  obtain ⟨S, hS, hsquare, rfl⟩ := h
  exact ⟨S, hS, hsquare, rfl⟩

/-- With or without a covariate, that is the covariance of the outcomes. -/
theorem sigmaError_of_outcomeCovariance (hguided : d.isMatrixMode = false)
    {c : OutcomeCovariance α} (h : d.outcomeCovariance.outcome = .ok c) :
    d.sigmaError.outcome = .ok (some c.outcome) := by
  unfold outcomeCovariance at h
  split at h
  · simp only [Journal.outcome_bind_eq_ok_iff, Journal.outcome_monadLift, Journal.outcome_pure,
      requireMat_eq_ok_iff, Except.ok.injEq] at h
    obtain ⟨y?, hy, y, ⟨rfl, -⟩, g, -, yg?, -, yg, -, rfl⟩ := h
    unfold sigmaOutcome at hy
    rwa [hguided, if_neg Bool.false_ne_true] at hy
  · simp only [Journal.outcome_bind_eq_ok_iff, Journal.outcome_monadLift, Journal.outcome_noteMat,
      Journal.outcome_pure, requireMat_eq_ok_iff, Except.ok.injEq] at h
    obtain ⟨s?, hs, s, ⟨rfl, -⟩, ⟨⟩, -, rfl⟩ := h
    exact hs

end StudyDesign

end StudyPower
