import Mathlib
import StudyPower.Proofs.Bundle.Clusters
import StudyPower.Proofs.Contrast.Cells

/-!
# The covariance of two observations

A row of the covariance of a guided design stands for an observation: of one member at each cluster
level, at one level of each dimension, of one response.  The covariance of two observations is the
product of what each cluster level, each dimension and the responses contribute, averaged over the
two orders of the observations.

## Main definitions

* `Observation`, `Observation.ofRow` — an observation, and the one that a row stands for.
* `CovarianceParts`, `CovarianceParts.weight` — what a covariance is made of, and the product of
  what the parts contribute for two observations.
* `StudyDesign.HasParts d p` — the design `d` declares the parts `p`.

## Main statements

* `Observation.ofRow_inj` — different rows stand for different observations.
* `StudyDesign.guidedSigma_eq_ok_iff` — a guided design has a covariance when it declares its parts.
* `StudyDesign.HasParts.get_product` — the entries of the product of the parts.
* `StudyDesign.covariance_by_observations` — **the covariance of a guided design, entry by entry.**
-/

namespace StudyPower

open Mat

/-! ### Observations -/

/-- An observation on a participant or cluster. -/
structure Observation where
  /-- The member at each cluster level, outermost first. -/
  members : List ℕ
  /-- The level of each dimension. -/
  levels : List ℕ
  /-- The response. -/
  response : ℕ

/-- The observation in row `i`, with these sizes of the cluster levels, counts of measurements and
number of responses: the response varies fastest, and the outermost cluster level slowest. -/
def Observation.ofRow (sizes counts : List ℕ) (responses i : ℕ) : Observation :=
  ⟨cellLevels sizes (i / (counts.prod * responses)), cellLevels counts (i / responses),
    i % responses⟩

/-- Different rows stand for different observations. -/
theorem Observation.ofRow_inj {sizes counts : List ℕ} {responses i j : ℕ}
    (hi : i < sizes.prod * (counts.prod * responses))
    (hj : j < sizes.prod * (counts.prod * responses))
    (h : ofRow sizes counts responses i = ofRow sizes counts responses j) : i = j := by
  obtain ⟨hmembers, hlevels, hresponse⟩ := Observation.mk.inj h
  have hlast : 0 < counts.prod * responses :=
    Nat.pos_of_mul_pos_left (Nat.lt_of_le_of_lt i.zero_le hi)
  have hprod : 0 < counts.prod := Nat.pos_of_mul_pos_right hlast
  rw [Nat.mul_comm] at hi hj
  have hmember : i / (counts.prod * responses) = j / (counts.prod * responses) :=
    cellLevels_inj (Nat.div_lt_of_lt_mul hi) (Nat.div_lt_of_lt_mul hj) hmembers
  have hlevel : i / responses % counts.prod = j / responses % counts.prod := by
    refine cellLevels_inj (Nat.mod_lt _ hprod) (Nat.mod_lt _ hprod) ?_
    rw [cellLevels_mod, cellLevels_mod, hlevels]
  -- the three digits make up the row
  have hquotient : i / responses = j / responses := by
    rw [Nat.mul_comm, ← Nat.div_div_eq_div_mul, ← Nat.div_div_eq_div_mul] at hmember
    rw [← Nat.div_add_mod (i / responses) counts.prod, hmember, hlevel, Nat.div_add_mod]
  rw [← Nat.div_add_mod i responses, hquotient, hresponse, Nat.div_add_mod]

variable {α : Type} [ExactScalar α]

/-- What the covariance of a guided design is made of. -/
structure CovarianceParts (α : Type) where
  /-- The number of members and their correlation, for each cluster level. -/
  levels : List (ℕ × α)
  /-- The covariance along each dimension. -/
  blocks : List (Mat α)
  /-- The covariance of the responses. -/
  responses : Mat α

/-- What the parts contribute for two observations: for each cluster level one, or its correlation
when the members differ, and for the dimensions and the responses the entries of their blocks. -/
def CovarianceParts.weight (p : CovarianceParts α) (a b : Observation) : α :=
  (List.zipWith3 (fun level x y => if x = y then 1 else level.2) p.levels a.members
      b.members).prod *
    (List.zipWith3 Mat.get p.blocks a.levels b.levels).prod *
    p.responses.get a.response b.response

/-- The Kronecker product of the parts. -/
def CovarianceParts.product (p : CovarianceParts α) : Mat α :=
  (memberCorrelations p.levels).kron ((kronAll p.blocks).kron p.responses)

theorem CovarianceParts.product_eq (p : CovarianceParts α) :
    p.product = kronAll
      ((p.levels.map fun level => Covariance.compoundSymmetric level.1 level.2) ++ p.blocks ++
        [p.responses]) := by
  rw [kronAll_append, kronAll_append, kron_assoc, kronAll_cons, kronAll_nil, kron_one, product,
    memberCorrelations]

/-- When the blocks of the dimensions and of the responses are symmetric, so is the product. -/
theorem CovarianceParts.transpose_product {p : CovarianceParts α}
    (h : ∀ B ∈ p.responses :: p.blocks, B.transpose = B) : p.product.transpose = p.product := by
  obtain ⟨hresponses, hblocks⟩ := List.forall_mem_cons.mp h
  have hall : p.blocks.map transpose = p.blocks := by
    conv_rhs => rw [← List.map_id p.blocks]
    exact List.map_congr_left hblocks
  rw [product, transpose_kron, transpose_kron, transpose_memberCorrelations, transpose_kronAll,
    hall, hresponses]

theorem zipWith3_compoundSymmetric {levels : List (ℕ × α)} (hpos : 0 < (levels.map (·.1)).prod)
    (i j : ℕ) :
    List.zipWith3 Mat.get
        (levels.map fun level => Covariance.compoundSymmetric level.1 level.2)
        (cellLevels (levels.map (·.1)) i) (cellLevels (levels.map (·.1)) j) =
      List.zipWith3 (fun level x y => if x = y then 1 else level.2) levels
        (cellLevels (levels.map (·.1)) i) (cellLevels (levels.map (·.1)) j) := by
  induction levels with
  | nil => rfl
  | cons level levels ih =>
    rw [List.map_cons, List.prod_cons] at hpos
    have hsize : 0 < level.1 := Nat.pos_of_mul_pos_right hpos
    have hrest : 0 < (levels.map (·.1)).prod := Nat.pos_of_mul_pos_left hpos
    rw [List.map_cons, List.map_cons, cellLevels, cellLevels, List.zipWith3, List.zipWith3,
      ih hrest, get_compoundSymmetric _ (Nat.mod_lt _ hsize) (Nat.mod_lt _ hsize)]

/-- Two members correlate by the product of what their positions contribute level by level. -/
theorem get_memberCorrelations {levels : List (ℕ × α)} {i j : ℕ}
    (hi : i < (levels.map (·.1)).prod) (hj : j < (levels.map (·.1)).prod) :
    (memberCorrelations levels).get i j =
      (List.zipWith3 (fun level x y => if x = y then 1 else level.2) levels
        (cellLevels (levels.map (·.1)) i) (cellLevels (levels.map (·.1)) j)).prod := by
  have hrows : (levels.map fun level => Covariance.compoundSymmetric level.1 level.2).map rows =
      levels.map (·.1) := by
    rw [List.map_map]
    rfl
  have hcols : (levels.map fun level => Covariance.compoundSymmetric level.1 level.2).map cols =
      levels.map (·.1) := by
    rw [List.map_map]
    rfl
  have hpos : 0 < (levels.map (·.1)).prod := Nat.lt_of_le_of_lt i.zero_le hi
  rw [memberCorrelations, get_kronAll _ (hrows ▸ hi) (hcols ▸ hj), hrows, hcols,
    zipWith3_compoundSymmetric hpos]

namespace StudyDesign

variable {d : StudyDesign α}

/-! ### The parts that a design declares -/

/-- The matrix `B` is the covariance that is declared along the dimension `m`. -/
def IsMeasureBlock (d : StudyDesign α) (m : RepeatedMeasure α) (B : Mat α) : Prop :=
  ∃ c points, d.covariance m.dimension = some c ∧ m.points = .ok points ∧
    (c.toMat m.count (some points)).outcome = .ok (some B)

/-- The matrix `R` is the declared covariance of the responses. -/
def IsResponseBlock (d : StudyDesign α) (R : Mat α) : Prop :=
  ∃ c, d.covariance responseCovarianceName = some c ∧
    (c.toMat (.int (max d.responses.length 1 : ℕ)) none).outcome = .ok (some R)

/-- The design declares these parts of its covariance. -/
structure HasParts (d : StudyDesign α) (p : CovarianceParts α) : Prop where
  /-- The cluster levels. -/
  levels : List.Forall₂ Cluster.IsLevel d.clusters p.levels
  /-- The dimensions. -/
  blocks : List.Forall₂ d.IsMeasureBlock d.measures p.blocks
  /-- The responses. -/
  responses : d.IsResponseBlock p.responses

theorem measureBlock_eq_ok_iff {m : RepeatedMeasure α} {B : Mat α} :
    (d.measureBlock m).outcome = .ok B ↔ d.IsMeasureBlock m B :=
  outcome_measureBlock_eq_ok_iff

theorem responseBlock_eq_ok_iff {R : Mat α} :
    d.responseBlock.outcome = .ok R ↔ d.IsResponseBlock R := by
  rw [outcome_responseBlock_eq_ok_iff, responseCount_eq_max]
  rfl

/-- A guided design has a covariance when it declares its parts, and it is their product. -/
theorem guidedSigma_eq_ok_iff (hstorage : Scalar.entrySize α = 0) {m : Mat α} :
    d.guidedSigma.outcome = .ok m ↔ ∃ p, d.HasParts p ∧ m = p.product := by
  unfold guidedSigma
  simp only [Journal.outcome_bind_eq_ok_iff, Journal.outcome_monadLift, Journal.outcome_pure,
    Except.ok.injEq, List.mapM_eq_ok_iff, Journal.outcome_mapM_eq_ok_iff, measureBlock_eq_ok_iff,
    responseBlock_eq_ok_iff]
  constructor
  · rintro ⟨clusters, hclusters, blocks, hblocks, R, hR, rfl⟩
    obtain ⟨levels, hlevels⟩ := exists_levels hclusters
    refine ⟨⟨levels, blocks, R⟩, ⟨hlevels, hblocks, hR⟩, ?_⟩
    rw [clusterBlocks_of_isLevel hlevels hclusters, CovarianceParts.product_eq]
  · rintro ⟨p, ⟨hlevels, hblocks, hR⟩, rfl⟩
    have hclusters : List.Forall₂ (fun c K => clusterBlock c = .ok K) d.clusters
        (p.levels.map fun level => Covariance.compoundSymmetric level.1 level.2) :=
      List.forall₂_map_right_iff.mpr (hlevels.imp fun _ _ h => h.clusterBlock_eq hstorage)
    exact ⟨_, hclusters, p.blocks, hblocks, p.responses, hR, p.product_eq.symm⟩

/-! ### Entries -/

/-- The observation in row `i` of the covariance of a design with these cluster levels. -/
def observation (d : StudyDesign α) (levels : List (ℕ × α)) (i : ℕ) : Observation :=
  .ofRow (levels.map (·.1)) (d.measures.map (·.levelCount)) (max d.responses.length 1) i

/-- The parts have the sizes that the design declares. -/
theorem HasParts.sides {p : CovarianceParts α} (h : d.HasParts p)
    (hcounts : ∀ m ∈ d.measures, m.count.int?.isSome) :
    (p.blocks.map rows = d.measures.map (·.levelCount) ∧
        p.blocks.map cols = d.measures.map (·.levelCount)) ∧
      p.responses.rows = max d.responses.length 1 ∧
      p.responses.cols = max d.responses.length 1 := by
  have hblocks := h.blocks.imp fun _ _ hB => measureBlock_eq_ok_iff.mpr hB
  exact ⟨sides_of_shapes (shapes_of_measureBlocks hcounts hblocks).2,
    shape_of_responseBlock (responseBlock_eq_ok_iff.mpr h.responses)⟩

theorem HasParts.shape_product {p : CovarianceParts α} (h : d.HasParts p)
    (hcounts : ∀ m ∈ d.measures, m.count.int?.isSome) :
    p.product.rows = (p.levels.map (·.1)).prod * d.memberOutcomes ∧
      p.product.cols = (p.levels.map (·.1)).prod * d.memberOutcomes := by
  obtain ⟨⟨hrows, hcols⟩, hrows', hcols'⟩ := h.sides hcounts
  rw [CovarianceParts.product, rows_kron, rows_kron, cols_kron, cols_kron, rows_memberCorrelations,
    cols_memberCorrelations, rows_kronAll, cols_kronAll, hrows, hcols, hrows', hcols',
    memberOutcomes]
  exact ⟨rfl, rfl⟩

/-- An entry of the product of the parts is what they contribute for the two observations. -/
theorem HasParts.get_product {p : CovarianceParts α} (h : d.HasParts p)
    (hcounts : ∀ m ∈ d.measures, m.count.int?.isSome) {i j : ℕ} (hi : i < p.product.rows)
    (hj : j < p.product.rows) :
    p.product.get i j = p.weight (d.observation p.levels i) (d.observation p.levels j) := by
  obtain ⟨⟨hrows, hcols⟩, hrows', hcols'⟩ := h.sides hcounts
  rw [(h.shape_product hcounts).1, memberOutcomes] at hi hj
  have hlast : 0 < (d.measures.map (·.levelCount)).prod * max d.responses.length 1 :=
    Nat.pos_of_mul_pos_left (Nat.lt_of_le_of_lt i.zero_le hi)
  have hprod : 0 < (d.measures.map (·.levelCount)).prod := Nat.pos_of_mul_pos_right hlast
  rw [Nat.mul_comm] at hi hj
  have hrow : i / max d.responses.length 1 % (d.measures.map (·.levelCount)).prod <
      (p.blocks.map rows).prod := by
    rw [hrows]
    exact Nat.mod_lt _ hprod
  have hcol : j / max d.responses.length 1 % (d.measures.map (·.levelCount)).prod <
      (p.blocks.map cols).prod := by
    rw [hcols]
    exact Nat.mod_lt _ hprod
  rw [CovarianceParts.product, get_kron_kron, rows_kronAll, cols_kronAll, hrows, hcols, hrows',
    hcols', get_memberCorrelations (Nat.div_lt_of_lt_mul hi) (Nat.div_lt_of_lt_mul hj),
    get_kronAll p.blocks hrow hcol, hrows, hcols, cellLevels_mod, cellLevels_mod]
  rfl

/-- A design declares the parts of its covariance when it declares each of them. -/
theorem exists_parts_iff :
    (∃ p, d.HasParts p) ↔ (∀ c ∈ d.clusters, ∃ level, c.IsLevel level) ∧
      (∀ m ∈ d.measures, ∃ B, d.IsMeasureBlock m B) ∧ ∃ R, d.IsResponseBlock R := by
  rw [← List.exists_forall₂_iff, ← List.exists_forall₂_iff]
  constructor
  · rintro ⟨p, hlevels, hblocks, hresponses⟩
    exact ⟨⟨p.levels, hlevels⟩, ⟨p.blocks, hblocks⟩, ⟨p.responses, hresponses⟩⟩
  · rintro ⟨⟨levels, hlevels⟩, ⟨blocks, hblocks⟩, ⟨R, hresponses⟩⟩
    exact ⟨⟨levels, blocks, R⟩, hlevels, hblocks, hresponses⟩

/-- The covariance of the errors of a guided design is the product of its parts made symmetric: with
integer counts every part is square. -/
theorem sigmaError_eq_ok_iff (hstorage : Scalar.entrySize α = 0) (hguided : d.isMatrixMode = false)
    (hcounts : ∀ m ∈ d.measures, m.count.int?.isSome) {s : Option (Mat α)} :
    d.sigmaError.outcome = .ok s ↔ ∃ p, d.HasParts p ∧ s = some p.product.symmetricPart := by
  unfold sigmaError symmetric
  rw [hguided, if_neg Bool.false_ne_true]
  simp only [Journal.outcome_bind_eq_ok_iff, Journal.outcome_monadLift,
    Except.check_bind_eq_ok_iff, checkSquare_eq_ok_iff, Except.pure_eq_ok_iff,
    guidedSigma_eq_ok_iff hstorage]
  constructor
  · rintro ⟨m, ⟨p, hp, rfl⟩, -, rfl⟩
    exact ⟨p, hp, rfl⟩
  · rintro ⟨p, hp, rfl⟩
    obtain ⟨hrows, hcols⟩ := hp.shape_product hcounts
    exact ⟨p.product, ⟨p, hp, rfl⟩, hrows.trans hcols.symm, rfl⟩

/-- An entry of the covariance averages what the parts contribute in either order. -/
theorem HasParts.get_symmetricPart {p : CovarianceParts α} (h : d.HasParts p)
    (hcounts : ∀ m ∈ d.measures, m.count.int?.isSome) {i j : ℕ} (hi : i < p.product.rows)
    (hj : j < p.product.rows) :
    p.product.symmetricPart.get i j =
      (p.weight (d.observation p.levels i) (d.observation p.levels j) +
        p.weight (d.observation p.levels j) (d.observation p.levels i)) / 2 := by
  obtain ⟨hrows, hcols⟩ := h.shape_product hcounts
  have hj' : j < p.product.cols := by omega
  rw [Mat.get_symmetricPart hi hj', h.get_product hcounts hi hj, h.get_product hcounts hj hi,
    Nat.cast_ofNat]

/-- When the blocks are symmetric, both orders contribute the same. -/
theorem HasParts.weight_comm {p : CovarianceParts α} (h : d.HasParts p)
    (hcounts : ∀ m ∈ d.measures, m.count.int?.isSome)
    (hblocks : ∀ B ∈ p.responses :: p.blocks, B.transpose = B) {i j : ℕ}
    (hi : i < p.product.rows) (hj : j < p.product.rows) :
    p.weight (d.observation p.levels i) (d.observation p.levels j) =
      p.weight (d.observation p.levels j) (d.observation p.levels i) := by
  rw [← h.get_product hcounts hi hj, ← h.get_product hcounts hj hi, ← get_transpose,
    CovarianceParts.transpose_product hblocks]

/-- **The covariance of a guided design, entry by entry.**  Where storage is no concern, it is there
exactly when each cluster level has members and a correlation, each dimension has a covariance that
fits it, and so have the responses.  Its rows then stand for the observations, and it holds what two
observations contribute, averaged over their two orders; when all blocks are symmetric, either order
contributes the same.  In either mode, and whenever addition commutes, a covariance is square and
symmetric. -/
theorem covariance_by_observations :
    (∀ d : StudyDesign α, Scalar.entrySize α = 0 → d.isMatrixMode = false →
      (∀ m ∈ d.measures, m.count.int?.isSome) →
      ((∃ s, d.sigmaError.outcome = .ok s) ↔
        (∀ c ∈ d.clusters, ∃ level, c.IsLevel level) ∧
          (∀ m ∈ d.measures, ∃ B, d.IsMeasureBlock m B) ∧ ∃ R, d.IsResponseBlock R) ∧
      ∀ p, d.HasParts p → ∃ S, d.sigmaError.outcome = .ok (some S) ∧
        S.shape = ((p.levels.map (·.1)).prod * d.memberOutcomes,
          (p.levels.map (·.1)).prod * d.memberOutcomes) ∧
        (∀ i < S.rows, ∀ j < S.rows,
          d.observation p.levels i = d.observation p.levels j → i = j) ∧
        (∀ i < S.rows, ∀ j < S.rows, S.get i j =
          (p.weight (d.observation p.levels i) (d.observation p.levels j) +
            p.weight (d.observation p.levels j) (d.observation p.levels i)) / 2) ∧
        ((∀ B ∈ p.responses :: p.blocks, B.transpose = B) → ∀ i < S.rows, ∀ j < S.rows,
          S.get i j = p.weight (d.observation p.levels i) (d.observation p.levels j))) ∧
    ∀ (β : Type) [Scalar β] (d : StudyDesign β) (S : Mat β), (∀ x y : β, x + y = y + x) →
      d.sigmaError.outcome = .ok (some S) ∨ d.sigmaOutcome.outcome = .ok (some S) →
        S.rows = S.cols ∧ S.transpose = S := by
  constructor
  · intro d hstorage hguided hcounts
    refine ⟨?_, fun p hp => ?_⟩
    · rw [← exists_parts_iff]
      simp only [sigmaError_eq_ok_iff hstorage hguided hcounts]
      constructor
      · rintro ⟨s, p, hp, -⟩
        exact ⟨p, hp⟩
      · rintro ⟨p, hp⟩
        exact ⟨_, p, hp, rfl⟩
    · have hS := (sigmaError_eq_ok_iff hstorage hguided hcounts).mpr ⟨p, hp, rfl⟩
      obtain ⟨hrows, hcols⟩ := hp.shape_product hcounts
      refine ⟨p.product.symmetricPart, hS, Prod.ext hrows hcols, ?_, ?_, ?_⟩
      · intro i hi j hj h
        rw [rows_symmetricPart, hrows] at hi hj
        exact Observation.ofRow_inj hi hj h
      · intro i hi j hj
        exact hp.get_symmetricPart hcounts hi hj
      · intro hblocks i hi j hj
        have hswap := hp.weight_comm hcounts hblocks hi hj
        rw [hp.get_symmetricPart hcounts hi hj, ← hswap, ← two_mul,
          mul_div_cancel_left₀ _ two_ne_zero]
  · intro β _ d S hadd h
    rcases h with h | h
    · exact ⟨(transpose_of_sigmaError h).1, (transpose_of_sigmaError h).2 hadd⟩
    · exact ⟨(transpose_of_sigmaOutcome h).1, (transpose_of_sigmaOutcome h).2 hadd⟩

/-- The parts of the covariance of the trial in schools. -/
def schoolParts : CovarianceParts ℚ where
  levels := [(2, 1 / 10), (3, 1 / 5)]
  blocks := [ofArray 2 2 #[1, 1 / 2, 1 / 4, 1]]
  responses := ofArray 1 1 #[4]

/-- Two pupils of one class, at different times, have the average of `1 / 5 * 1 / 2 * 4` and
`1 / 5 * 1 / 4 * 4`. -/
theorem covariance_by_observations_schoolTrial :
    ∃ S, schoolTrial.sigmaError.outcome = .ok (some S) ∧ S.shape = (12, 12) ∧
      S.get 0 3 = 3 / 10 ∧ S.transpose = S := by
  have hcounts : ∀ m ∈ schoolTrial.measures, m.count.int?.isSome := by
    intro m hm
    obtain rfl := List.mem_singleton.mp hm
    rfl
  have hparts : schoolTrial.HasParts schoolParts := {
    levels := .cons ⟨rfl, by decide, rfl⟩ (.cons ⟨rfl, by decide, rfl⟩ .nil)
    blocks := .cons ⟨_, _, rfl, rfl, rfl⟩ .nil
    responses := ⟨_, rfl, rfl⟩ }
  obtain ⟨hguided, hboth⟩ := covariance_by_observations (α := ℚ)
  obtain ⟨-, hentries⟩ := hguided schoolTrial rfl rfl hcounts
  obtain ⟨S, hS, hshape, -, hget, -⟩ := hentries schoolParts hparts
  obtain ⟨hrows, -⟩ := Prod.mk.inj hshape
  have hrows : S.rows = 12 := hrows
  refine ⟨S, hS, hshape, ?_, (hboth ℚ schoolTrial S add_comm (.inl hS)).2⟩
  rw [hget 0 (by omega) 3 (by omega)]
  decide +kernel

end StudyDesign

end StudyPower
