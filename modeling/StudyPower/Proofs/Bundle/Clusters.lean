import Mathlib
import StudyPower.Proofs.Bundle.Guided

/-!
# Clusters

A clustered design expands its means, its contrast within participants and its covariance each on
its own: the means by a row of ones, the contrast by a column of ones, and the covariance by a block
of correlations for each cluster level.  All three put the members of a cluster in the same order,
so an engine sees of a cluster only its size and the sum of the correlations among its members.

## Main definitions

* `Cluster.IsLevel c (s, ρ)` — the cluster level `c` has `s` members, any two correlated by `ρ`.
* `StudyDesign.unclustered` — the design without its cluster levels.

## Main statements

* `StudyDesign.exists_unclustered_sigmaError` — the covariance of a clustered design is the
  Kronecker product of the correlations of its levels with the covariance of one member.
* `StudyDesign.clusters_scale_products` — **the products with a clustered design are multiples of
  those without its clusters.**
-/

namespace StudyPower

open Mat Finset

variable {α : Type} [ExactScalar α]

/-! ### Cluster levels -/

/-- The level has `level.1` members, of which any two correlate by `level.2`. -/
def Cluster.IsLevel (c : Cluster α) (level : ℕ × α) : Prop :=
  c.size = .int level.1 ∧ 0 < level.1 ∧ c.correlation.toReal = .ok level.2

theorem Cluster.IsLevel.members {c : Cluster α} {level : ℕ × α} (h : c.IsLevel level) :
    c.members = .ok level.1 := by
  obtain ⟨hsize, hpos, -⟩ := h
  unfold Cluster.members checkPositive
  rw [hsize]
  simp only [Int.toNat_natCast, ite_eq_right_iff]
  omega

/-- A declaration determines its level. -/
theorem Cluster.rightUnique_isLevel : Relator.RightUnique (Cluster.IsLevel (α := α)) := by
  rintro c ⟨s, ρ⟩ ⟨s', ρ'⟩ ⟨hsize, -, hρ⟩ ⟨hsize', -, hρ'⟩
  have hs : (s : ℤ) = s' := Datum.int.inj (hsize.symm.trans hsize')
  have hρ : ρ = ρ' := Except.ok.inj (hρ.symm.trans hρ')
  rw [Int.ofNat_inj.mp hs, hρ]

/-- The block of a level holds its correlation. -/
theorem Cluster.IsLevel.clusterBlock {c : Cluster α} {level : ℕ × α} (h : c.IsLevel level)
    {K : Mat α} (hK : StudyDesign.clusterBlock c = .ok K) :
    K = Covariance.compoundSymmetric level.1 level.2 := by
  unfold StudyDesign.clusterBlock at hK
  rw [h.members, h.2.2] at hK
  simp only [Except.bind_eq_ok_iff, Except.ok.injEq, exists_eq_left', Except.pure_eq_ok_iff] at hK
  obtain ⟨shape, hshape, rfl⟩ := hK
  rw [checkShape_of_ok hshape, Int.toNat_natCast]

/-- A block is only built for a level. -/
theorem Cluster.exists_isLevel {c : Cluster α} {K : Mat α}
    (h : StudyDesign.clusterBlock c = .ok K) : ∃ level, c.IsLevel level := by
  unfold StudyDesign.clusterBlock at h
  simp only [Except.bind_eq_ok_iff] at h
  obtain ⟨n, hn, ρ, hρ, -⟩ := h
  unfold Cluster.members checkPositive at hn
  split at hn
  · next k hsize =>
    split at hn
    · cases hn
    · obtain rfl := Except.ok.inj hn
      refine ⟨(k.toNat, ρ), ?_, ?_, hρ⟩
      · rw [hsize, Int.toNat_of_nonneg (by omega)]
      · change 0 < k.toNat
        omega
  · cases hn

/-- Where storage is no concern, the block of a level is built. -/
theorem Cluster.IsLevel.clusterBlock_eq {c : Cluster α} {level : ℕ × α} (h : c.IsLevel level)
    (hstorage : Scalar.entrySize α = 0) :
    StudyDesign.clusterBlock c = .ok (Covariance.compoundSymmetric level.1 level.2) := by
  unfold StudyDesign.clusterBlock
  simp only [Except.bind_eq_ok_iff, Except.pure_eq_ok_iff]
  exact ⟨level.1, h.members, level.2, h.2.2, _, checkShape_eq_ok hstorage _ _, rfl⟩

theorem exists_levels {clusters : List (Cluster α)} {blocks : List (Mat α)}
    (h : List.Forall₂ (fun c K => StudyDesign.clusterBlock c = .ok K) clusters blocks) :
    ∃ levels, List.Forall₂ Cluster.IsLevel clusters levels := by
  refine List.exists_forall₂_iff.mpr fun c hc => ?_
  obtain ⟨K, hK⟩ := List.exists_of_forall₂ h hc
  exact Cluster.exists_isLevel hK

theorem clusterBlocks_of_isLevel {clusters : List (Cluster α)} {levels : List (ℕ × α)}
    (hlevels : List.Forall₂ Cluster.IsLevel clusters levels) {blocks : List (Mat α)}
    (hblocks : List.Forall₂ (fun c K => StudyDesign.clusterBlock c = .ok K) clusters blocks) :
    blocks = levels.map fun level => Covariance.compoundSymmetric level.1 level.2 := by
  induction hlevels generalizing blocks with
  | nil => exact List.forall₂_nil_left_iff.mp hblocks
  | cons hlevel _ ih =>
    obtain ⟨K, blocks', hK, hblocks', rfl⟩ := List.forall₂_cons_left_iff.mp hblocks
    rw [hlevel.clusterBlock hK, ih hblocks', List.map_cons]

/-- The correlations among all members of the clusters with these levels. -/
def memberCorrelations (levels : List (ℕ × α)) : Mat α :=
  kronAll (levels.map fun level => Covariance.compoundSymmetric level.1 level.2)

theorem rows_memberCorrelations (levels : List (ℕ × α)) :
    (memberCorrelations levels).rows = (levels.map (·.1)).prod := by
  rw [memberCorrelations, rows_kronAll, List.map_map]
  rfl

theorem cols_memberCorrelations (levels : List (ℕ × α)) :
    (memberCorrelations levels).cols = (levels.map (·.1)).prod := by
  rw [memberCorrelations, cols_kronAll, List.map_map]
  rfl

theorem pos_of_isLevel {clusters : List (Cluster α)} {levels : List (ℕ × α)}
    (h : List.Forall₂ Cluster.IsLevel clusters levels) : ∀ level ∈ levels, 0 < level.1 := by
  intro level hlevel
  obtain ⟨c, hc⟩ := List.exists_of_forall₂ h.flip hlevel
  exact hc.2.1

/-- A cluster has a member. -/
theorem one_le_prod_levels {clusters : List (Cluster α)} {levels : List (ℕ × α)}
    (h : List.Forall₂ Cluster.IsLevel clusters levels) : 1 ≤ (levels.map (·.1)).prod := by
  refine List.one_le_prod_of_one_le fun s hs => ?_
  obtain ⟨level, hlevel, rfl⟩ := List.mem_map.mp hs
  exact pos_of_isLevel h level hlevel

theorem get_compoundSymmetric {s i j : ℕ} (ρ : α) (hi : i < s) (hj : j < s) :
    (Covariance.compoundSymmetric s ρ).get i j = if i = j then 1 else ρ :=
  get_ofFn _ hi hj

/-- A constant matrix with a correction on the diagonal. -/
theorem get_compoundSymmetric_eq_add {s i j : ℕ} (ρ : α) (hi : i < s) (hj : j < s) :
    (Covariance.compoundSymmetric s ρ).get i j = ρ + if i = j then 1 - ρ else 0 := by
  rw [get_compoundSymmetric ρ hi hj]
  split
  · ring
  · ring

/-- Each member correlates with itself by one. -/
theorem get_self_memberCorrelations {levels : List (ℕ × α)} {i : ℕ}
    (hi : i < (levels.map (·.1)).prod) : (memberCorrelations levels).get i i = 1 := by
  induction levels generalizing i with
  | nil =>
    obtain rfl : i = 0 := Nat.lt_one_iff.mp hi
    rfl
  | cons level levels ih =>
    rw [List.map_cons, List.prod_cons] at hi
    have hrest : 0 < (levels.map (·.1)).prod :=
      Nat.pos_of_mul_pos_left (Nat.lt_of_le_of_lt i.zero_le hi)
    have hfirst : i / (levels.map (·.1)).prod < level.1 :=
      Nat.div_lt_of_lt_mul (Nat.mul_comm level.1 _ ▸ hi)
    have hget := get_kron (Covariance.compoundSymmetric level.1 level.2)
      (memberCorrelations levels) i i
    rw [rows_memberCorrelations, cols_memberCorrelations, get_compoundSymmetric _ hfirst hfirst,
      if_pos rfl, ih (Nat.mod_lt _ hrest), one_mul] at hget
    rwa [memberCorrelations, List.map_cons, kronAll_cons]

theorem transpose_compoundSymmetric (s : ℕ) (ρ : α) :
    (Covariance.compoundSymmetric s ρ).transpose = Covariance.compoundSymmetric s ρ := by
  refine ext_get rfl rfl fun i j hi hj => ?_
  have hi' : i < s := hi
  have hj' : j < s := hj
  rw [get_transpose, get_compoundSymmetric ρ hj' hi', get_compoundSymmetric ρ hi' hj']
  by_cases h : i = j
  · rw [if_pos h, if_pos h.symm]
  · rw [if_neg h, if_neg (Ne.symm h)]

theorem transpose_memberCorrelations (levels : List (ℕ × α)) :
    (memberCorrelations levels).transpose = memberCorrelations levels := by
  rw [memberCorrelations, transpose_kronAll, List.map_map]
  congr 1
  exact List.map_congr_left fun level _ => transpose_compoundSymmetric level.1 level.2

/-- Each member correlates with itself by one and with the others by `ρ`. -/
theorem total_compoundSymmetric (s : ℕ) (ρ : α) :
    (Covariance.compoundSymmetric s ρ).total = s * (1 + (s - 1) * ρ) := by
  have hrow : ∀ i ∈ range s, ∑ j ∈ range s, (Covariance.compoundSymmetric s ρ).get i j =
      1 + (s - 1) * ρ := by
    intro i hi
    have hentry : ∀ j ∈ range s, (Covariance.compoundSymmetric s ρ).get i j =
        ρ + if i = j then 1 - ρ else 0 :=
      fun j hj => get_compoundSymmetric_eq_add ρ (mem_range.mp hi) (mem_range.mp hj)
    rw [sum_congr rfl hentry, sum_add_distrib, sum_ite_eq, if_pos hi, sum_const, card_range,
      nsmul_eq_mul]
    ring
  calc (Covariance.compoundSymmetric s ρ).total
      = ∑ _i ∈ range s, (1 + ((s : α) - 1) * ρ) := sum_congr rfl hrow
    _ = s * (1 + (s - 1) * ρ) := by rw [sum_const, card_range, nsmul_eq_mul]

theorem total_memberCorrelations (levels : List (ℕ × α)) :
    (memberCorrelations levels).total =
      (levels.map fun level => (level.1 : α) * (1 + (level.1 - 1) * level.2)).prod := by
  rw [memberCorrelations, total_kronAll, List.map_map]
  congr 1
  exact List.map_congr_left fun level _ => total_compoundSymmetric level.1 level.2

/-! ### What the builders of a guided design return -/

namespace StudyDesign

variable {d : StudyDesign α}

/-- The design without its cluster levels. -/
def unclustered (d : StudyDesign α) : StudyDesign α := { d with clusters := [] }

/-- A design without clusters has one member where a clustered one has many. -/
theorem clusterSize_of_ok {levels : List (ℕ × α)}
    (hlevels : List.Forall₂ Cluster.IsLevel d.clusters levels) {n : Option ℕ}
    (h : d.clusterSize = .ok n) : n.getD 1 = (levels.map (·.1)).prod := by
  obtain ⟨sizes, hsizes, hprod⟩ := exists_sizes_of_clusterSize h
  have hmap : List.Forall₂ (fun c size => Cluster.members c = .ok size) d.clusters
      (levels.map (·.1)) :=
    List.forall₂_map_right_iff.mpr (hlevels.imp fun _ _ h => h.members)
  have heq : sizes = levels.map (·.1) := by
    rw [← List.mapM_eq_ok_iff] at hsizes hmap
    exact Except.ok.inj (hsizes.symm.trans hmap)
  rw [hprod, heq]

theorem repeatAcross_of_ok {n : Option ℕ} {m x : Mat α} (h : repeatAcross n m = .ok x) :
    x = (filled 1 (n.getD 1) 1).kron m := by
  unfold repeatAcross at h
  cases n with
  | none => rw [← Except.pure_eq_ok_iff.mp h, Option.getD_none, one_kron]
  | some n =>
    simp only [Except.bind_eq_ok_iff, Except.pure_eq_ok_iff] at h
    obtain ⟨shape, hshape, rfl⟩ := h
    rw [checkShape_of_ok hshape]
    rfl

theorem repeatDown_of_ok {n : Option ℕ} {m x : Mat α} (h : repeatDown n m = .ok x) :
    x = (filled (n.getD 1) 1 1).kron m := by
  unfold repeatDown at h
  cases n with
  | none => rw [← Except.pure_eq_ok_iff.mp h, Option.getD_none, one_kron]
  | some n =>
    simp only [Except.bind_eq_ok_iff, Except.pure_eq_ok_iff] at h
    obtain ⟨shape, hshape, rfl⟩ := h
    rw [checkShape_of_ok hshape]
    rfl

/-- The means of a guided design repeat those of one member from left to right. -/
theorem fixed_betaEffects_of_ok (hguided : d.isMatrixMode = false) {levels : List (ℕ × α)}
    (hlevels : List.Forall₂ Cluster.IsLevel d.clusters levels) {B : Mat α}
    (h : (·.fixed) <$> d.betaEffects = .ok (some B)) :
    ∃ m, d.matrix .beta = some m ∧ B = (filled 1 (levels.map (·.1)).prod 1).kron m := by
  obtain ⟨e, he, hfixed⟩ := Except.map_eq_ok_iff.mp h
  obtain ⟨n, fixed, random, hn, hm, -, rfl⟩ := betaEffects_of_guided hguided he
  obtain rfl : fixed = some B := hfixed
  obtain ⟨m, hbeta, hx⟩ := Option.mapM_eq_ok_some_iff.mp hm
  exact ⟨m, hbeta, by rw [repeatAcross_of_ok hx, clusterSize_of_ok hlevels hn]⟩

/-- The contrast within participants of a guided design repeats that of one member from top to
bottom. -/
theorem withinContrast_of_ok (hguided : d.isMatrixMode = false) {levels : List (ℕ × α)}
    (hlevels : List.Forall₂ Cluster.IsLevel d.clusters levels) {U : Mat α}
    (h : d.withinContrast.outcome = .ok (some U)) :
    ∃ g m, d.primaryHypothesis = some g ∧ d.guidedWithin g = .ok m ∧
      U = (filled (levels.map (·.1)).prod 1 1).kron m := by
  cases hg : d.primaryHypothesis with
  | none => simp [withinContrast, hguided, hg] at h
  | some g =>
    obtain ⟨m, n, x, hm, hn, hx, hU⟩ := withinContrast_of_guided hguided hg h
    refine ⟨g, m, rfl, hm, ?_⟩
    rw [Option.some.inj hU, repeatDown_of_ok hx, clusterSize_of_ok hlevels hn]

/-- The covariance of a clustered design is the Kronecker product of the correlations of its levels
with the covariance of one member. -/
theorem guidedSigma_of_ok {levels : List (ℕ × α)}
    (hlevels : List.Forall₂ Cluster.IsLevel d.clusters levels) {m : Mat α}
    (h : d.guidedSigma.outcome = .ok m) :
    ∃ m₀, d.unclustered.guidedSigma.outcome = .ok m₀ ∧
      m = (memberCorrelations levels).kron m₀ := by
  unfold guidedSigma at h
  simp only [Journal.outcome_bind_eq_ok_iff, Journal.outcome_monadLift, Journal.outcome_pure,
    Except.ok.injEq, List.mapM_eq_ok_iff] at h
  obtain ⟨blocks, hblocks, measures, hmeasures, responses, hresponses, rfl⟩ := h
  -- the blocks of the dimensions and of the responses do not depend on the clusters
  refine ⟨kronAll (measures ++ [responses]), ?_, ?_⟩
  · simp only [guidedSigma, Journal.outcome_bind_eq_ok_iff, Journal.outcome_monadLift,
      Journal.outcome_pure]
    exact ⟨[], rfl, measures, hmeasures, responses, hresponses, rfl⟩
  · rw [List.append_assoc, kronAll_append, memberCorrelations,
      clusterBlocks_of_isLevel hlevels hblocks]

theorem sigmaError_of_ok (hguided : d.isMatrixMode = false) {S : Mat α}
    (h : d.sigmaError.outcome = .ok (some S)) :
    ∃ m, d.guidedSigma.outcome = .ok m ∧ m.rows = m.cols ∧ S = m.symmetricPart := by
  obtain ⟨m, hm, hsquare, hS⟩ := sigmaError_of_guided hguided h
  exact ⟨m, hm, hsquare, Option.some.inj hS⟩

/-- The covariance of a clustered design is built from that of the design without its clusters. -/
theorem exists_unclustered_sigmaError (hguided : d.isMatrixMode = false) {S : Mat α}
    (h : d.sigmaError.outcome = .ok (some S)) :
    ∃ levels S₀, List.Forall₂ Cluster.IsLevel d.clusters levels ∧
      d.unclustered.sigmaError.outcome = .ok (some S₀) ∧ S₀.rows = S₀.cols ∧
      S = (memberCorrelations levels).kron S₀ := by
  obtain ⟨m, hm, hsquare, rfl⟩ := sigmaError_of_ok hguided h
  obtain ⟨levels, hlevels⟩ : ∃ levels, List.Forall₂ Cluster.IsLevel d.clusters levels := by
    have hblocks := hm
    unfold guidedSigma at hblocks
    obtain ⟨blocks, hblocks, -⟩ := Journal.outcome_bind_eq_ok_iff.mp hblocks
    exact exists_levels (List.mapM_eq_ok_iff.mp hblocks)
  obtain ⟨m₀, hm₀, rfl⟩ := guidedSigma_of_ok hlevels hm
  -- there is a member, so one member has as many rows as columns
  have hsquare₀ : m₀.rows = m₀.cols := by
    rw [rows_kron, cols_kron, rows_memberCorrelations, cols_memberCorrelations] at hsquare
    exact Nat.eq_of_mul_eq_mul_left (one_le_prod_levels hlevels) hsquare
  refine ⟨levels, m₀.symmetricPart, hlevels, ?_, hsquare₀,
    symmetricPart_kron (transpose_memberCorrelations levels) hsquare₀⟩
  unfold sigmaError symmetric
  have hguided₀ : d.unclustered.isMatrixMode = false := hguided
  rw [hguided₀, if_neg Bool.false_ne_true]
  simp only [Journal.outcome_bind_eq_ok_iff, Journal.outcome_monadLift,
    Except.check_bind_eq_ok_iff, checkSquare_eq_ok_iff, Except.pure_eq_ok_iff]
  exact ⟨m₀, hm₀, hsquare₀, rfl⟩

/-! ### Products with a clustered design -/

theorem row_mul_column (n : ℕ) :
    (filled 1 n 1 * filled n 1 1 : Mat α).get 0 0 = (n : α) := by
  rw [get_mul, cols_filled]
  have hone : ∀ k ∈ range n, (filled 1 n 1 : Mat α).get 0 k * (filled n 1 1).get k 0 = 1 := by
    intro k hk
    rw [get_filled 1 Nat.one_pos (mem_range.mp hk), get_filled 1 (mem_range.mp hk) Nat.one_pos,
      one_mul]
  rw [sum_congr rfl hone, sum_const, card_range, nsmul_eq_mul, mul_one]

/-- A row and a column of ones around a matrix add up its entries. -/
theorem row_mul_mul_column (m : Mat α) :
    (filled 1 m.rows 1 * m * filled m.cols 1 1).get 0 0 = m.total := by
  rw [get_mul, cols_mul, total, sum_comm]
  refine sum_congr rfl fun j hj => ?_
  rw [get_mul, cols_filled, get_filled 1 (mem_range.mp hj) Nat.one_pos, mul_one]
  refine sum_congr rfl fun i hi => ?_
  rw [get_filled 1 Nat.one_pos (mem_range.mp hi), one_mul]

/-- **The products with a clustered design are multiples of those without its clusters.**  The
means within participants are multiplied by the number of members, and their covariance by the sum
of the correlations among the members. -/
theorem clusters_scale_products (hguided : d.isMatrixMode = false) {levels : List (ℕ × α)}
    (hlevels : List.Forall₂ Cluster.IsLevel d.clusters levels) {B U S B₀ U₀ S₀ : Mat α}
    (hB : (·.fixed) <$> d.betaEffects = .ok (some B))
    (hU : d.withinContrast.outcome = .ok (some U))
    (hS : d.sigmaError.outcome = .ok (some S))
    (hB₀ : (·.fixed) <$> d.unclustered.betaEffects = .ok (some B₀))
    (hU₀ : d.unclustered.withinContrast.outcome = .ok (some U₀))
    (hS₀ : d.unclustered.sigmaError.outcome = .ok (some S₀))
    (hBU : B₀.cols = U₀.rows) (hUS : U₀.rows = S₀.rows) :
    B * U = (((levels.map (·.1)).prod : ℕ) : α) • (B₀ * U₀) ∧
      U.transpose * S * U =
        (levels.map fun level => (level.1 : α) * (1 + (level.1 - 1) * level.2)).prod •
          (U₀.transpose * S₀ * U₀) := by
  -- each matrix of the design is that of one member, expanded in front
  have hB' : B = (filled 1 (levels.map (·.1)).prod 1).kron B₀ := by
    obtain ⟨m, hm, rfl⟩ := fixed_betaEffects_of_ok hguided hlevels hB
    obtain ⟨m₀, hm₀, rfl⟩ := fixed_betaEffects_of_ok (d := d.unclustered) hguided .nil hB₀
    rw [List.map_nil, List.prod_nil, one_kron, Option.some.inj (hm.symm.trans hm₀)]
  have hU' : U = (filled (levels.map (·.1)).prod 1 1).kron U₀ := by
    obtain ⟨g, m, hg, hm, rfl⟩ := withinContrast_of_ok hguided hlevels hU
    obtain ⟨g₀, m₀, hg₀, hm₀, rfl⟩ :=
      withinContrast_of_ok (d := d.unclustered) hguided .nil hU₀
    obtain rfl : g = g₀ := Option.some.inj (hg.symm.trans hg₀)
    rw [List.map_nil, List.prod_nil, one_kron, Except.ok.inj (hm.symm.trans hm₀)]
  obtain ⟨hS', hsquare⟩ : S = (memberCorrelations levels).kron S₀ ∧ S₀.rows = S₀.cols := by
    obtain ⟨m, hm, -, rfl⟩ := sigmaError_of_ok hguided hS
    obtain ⟨m₀, hm₀, hsquare, rfl⟩ := sigmaError_of_ok (d := d.unclustered) hguided hS₀
    obtain ⟨m₁, hm₁, rfl⟩ := guidedSigma_of_ok hlevels hm
    obtain rfl : m₀ = m₁ := Except.ok.inj (hm₀.symm.trans hm₁)
    exact ⟨symmetricPart_kron (transpose_memberCorrelations levels) hsquare, hsquare⟩
  -- the factors in front multiply to a single entry
  constructor
  · rw [hB', hU', kron_mul_kron _ _ hBU, kron_of_shape_one rfl rfl, row_mul_column]
  · have hleft : U₀.transpose.cols = S₀.rows := hUS
    have hright : (U₀.transpose * S₀).cols = U₀.rows := hsquare.symm.trans hUS.symm
    rw [hU', hS', transpose_kron, transpose_filled, kron_mul_kron _ _ hleft,
      kron_mul_kron _ _ hright, kron_of_shape_one rfl rfl, ← total_memberCorrelations,
      ← row_mul_mul_column, rows_memberCorrelations, cols_memberCorrelations]

/-- With two classes of three pupils, the means of the trial are multiplied by six. -/
theorem clusters_scale_products_schoolTrial :
    ∃ B U S, (·.fixed) <$> schoolTrial.betaEffects = .ok (some B) ∧
      schoolTrial.withinContrast.outcome = .ok (some U) ∧
      schoolTrial.sigmaError.outcome = .ok (some S) ∧
      B * U = (6 : ℚ) • ofArray 4 1 #[-1, -2, 0, 1] ∧
      U.transpose * S * U = (231 / 25 : ℚ) • ofArray 1 1 #[5] := by
  have hlevels : List.Forall₂ Cluster.IsLevel schoolTrial.clusters [(2, 1 / 10), (3, 1 / 5)] :=
    .cons ⟨rfl, by decide, rfl⟩ (.cons ⟨rfl, by decide, rfl⟩ .nil)
  have hB₀ : (·.fixed) <$> schoolTrial.unclustered.betaEffects =
      .ok (some (ofArray 4 2 #[1, 2, 3, 5, 2, 2, 1, 0])) :=
    Except.eq_ok_of_toOption (by decide +kernel)
  have hU₀ : schoolTrial.unclustered.withinContrast.outcome =
      .ok (some (ofArray 2 1 #[1, -1])) :=
    Except.eq_ok_of_toOption (by decide +kernel)
  have hS₀ : schoolTrial.unclustered.sigmaError.outcome =
      .ok (some (ofArray 2 2 #[4, 3 / 2, 3 / 2, 4])) :=
    Except.eq_ok_of_toOption (by decide +kernel)
  have hB : (·.fixed) <$> schoolTrial.betaEffects =
      .ok (some ((filled 1 6 1).kron (ofArray 4 2 #[1, 2, 3, 5, 2, 2, 1, 0]))) :=
    Except.eq_ok_of_toOption (by decide +kernel)
  have hU : schoolTrial.withinContrast.outcome =
      .ok (some ((filled 6 1 1).kron (ofArray 2 1 #[1, -1]))) :=
    Except.eq_ok_of_toOption (by decide +kernel)
  have hS : schoolTrial.sigmaError.outcome =
      .ok (some ((memberCorrelations [(2, 1 / 10), (3, 1 / 5)]).kron
        (ofArray 2 2 #[4, 3 / 2, 3 / 2, 4]))) :=
    Except.eq_ok_of_toOption (by decide +kernel)
  obtain ⟨hmeans, hcovariance⟩ :=
    clusters_scale_products rfl hlevels hB hU hS hB₀ hU₀ hS₀ rfl rfl
  exact ⟨_, _, _, hB, hU, hS, hmeans.trans (by decide +kernel),
    hcovariance.trans (by decide +kernel)⟩

end StudyDesign

end StudyPower
