import Mathlib
import StudyPower.Proofs.Bundle.Clusters

/-!
# The correlations with a covariate

A guided design states the standard deviation of its covariate, and the correlation of the covariate
with each outcome of one cluster member.  The correlations become covariances with the variances of
the first member, and only then are they repeated for the other members.  That is right for every
member, since all members have the same variances.

## Main statements

* `StudyDesign.get_self_of_levels` — the variances repeat from member to member.
* `StudyDesign.sigmaOutcomeCovariate_eq` — the covariances are those of one member, repeated.
* `StudyDesign.get_repeated_covariances` — what they are in terms of the variances of all rows.
* `StudyDesign.covariances_match_variances` — **each covariance belongs to the variance of its own
  row.**
-/

namespace StudyPower

open Mat

variable {α : Type} [ExactScalar α]

/-! ### Repeated rows -/

/-- Copies of a matrix below each other repeat its rows. -/
theorem get_column_kron (n : ℕ) (m : Mat α) {t : ℕ} (ht : t < n * m.rows) (j : ℕ) :
    ((filled n 1 1).kron m).get t j = m.get (t % m.rows) j := by
  rcases Nat.lt_or_ge j m.cols with hj | hj
  · have hmember : t / m.rows < n := Nat.div_lt_of_lt_mul (Nat.mul_comm n m.rows ▸ ht)
    rw [get_kron, Nat.div_eq_of_lt hj, Nat.mod_eq_of_lt hj, get_filled 1 hmember Nat.one_pos,
      one_mul]
  · rw [get_eq_zero_of_cols_le _ hj, get_eq_zero_of_cols_le]
    rwa [cols_kron, cols_filled, Nat.one_mul]

namespace StudyDesign

/-- Only the first entry of the matrix changes. -/
theorem get_withFirst {m : Mat α} (hrows : 0 < m.rows) (hcols : 0 < m.cols) (f : α → α) (i j : ℕ) :
    (withFirst m f).get i j = if i = 0 ∧ j = 0 then f (m.get i j) else m.get i j := by
  refine get_ofFn_of_outside (fun i j h => ?_) i j
  have hother : ¬ (i = 0 ∧ j = 0) := by omega
  rw [if_neg hother, get_eq_zero_of_le h]

@[simp] theorem rows_scaleFirstColumn (cross : Mat α) (variance : α) (outcome : Mat α) :
    (scaleFirstColumn cross variance outcome).rows = cross.rows := rfl

/-- Only the first column of the matrix changes. -/
theorem get_scaleFirstColumn (cross : Mat α) (variance : α) (outcome : Mat α) (i j : ℕ) :
    (scaleFirstColumn cross variance outcome).get i j =
      if j = 0 then cross.get i j * Scalar.sqrt (variance * outcome.get i i)
      else cross.get i j := by
  refine get_ofFn_of_outside (fun i j h => ?_) i j
  rw [get_eq_zero_of_le h, zero_mul, ite_self]

variable {d : StudyDesign α}

theorem sigmaOutcome_of_guided (hguided : d.isMatrixMode = false) :
    d.sigmaOutcome = d.sigmaError := by
  unfold sigmaOutcome
  rw [hguided, if_neg Bool.false_ne_true]

/-! ### Variances -/

/-- The variance of the covariate of a guided design is the square of the literal standard
deviation, and nothing else of the literal matrix changes. -/
theorem exists_sigmaCovariate (hguided : d.isMatrixMode = false) {g₀ : Mat α}
    (hg₀ : d.matrix .sigmaGaussian = some g₀) (hrows : 0 < g₀.rows) (hcols : 0 < g₀.cols) :
    ∃ g, d.sigmaCovariate = some g ∧ g.shape = g₀.shape ∧ g.get 0 0 = g₀.get 0 0 ^ 2 ∧
      ∀ i j, (i ≠ 0 ∨ j ≠ 0) → g.get i j = g₀.get i j := by
  have hsize : g₀.size ≠ 0 := (Nat.mul_pos hrows hcols).ne'
  have hentry := get_withFirst hrows hcols fun x => x * x
  refine ⟨withFirst g₀ fun x => x * x, ?_, rfl, ?_, fun i j hij => ?_⟩
  · unfold sigmaCovariate
    rw [hguided, hg₀, if_neg Bool.false_ne_true, Option.map_some, if_neg hsize]
  · rw [hentry, if_pos ⟨rfl, rfl⟩, pow_two]
  · rw [hentry, if_neg (by omega)]

/-- The variances repeat from member to member. -/
theorem get_self_of_levels {levels : List (ℕ × α)} {S₀ : Mat α} (hsquare : S₀.rows = S₀.cols)
    {t : ℕ} (ht : t < (levels.map (·.1)).prod * S₀.rows) :
    ((memberCorrelations levels).kron S₀).get t t = S₀.get (t % S₀.rows) (t % S₀.rows) := by
  have hmember : t / S₀.rows < (levels.map (·.1)).prod :=
    Nat.div_lt_of_lt_mul (Nat.mul_comm _ S₀.rows ▸ ht)
  rw [get_kron, ← hsquare, get_self_memberCorrelations hmember, one_mul]

/-! ### Covariances -/

theorem exists_clusterSize {levels : List (ℕ × α)}
    (hlevels : List.Forall₂ Cluster.IsLevel d.clusters levels) : ∃ n, d.clusterSize = .ok n := by
  have hmembers : d.clusters.mapM Cluster.members = .ok (levels.map (·.1)) :=
    List.mapM_eq_ok_iff.mpr (List.forall₂_map_right_iff.mpr (hlevels.imp fun _ _ h => h.members))
  unfold clusterSize
  split
  · exact ⟨none, rfl⟩
  · rw [hmembers]
    exact ⟨_, rfl⟩

theorem exists_repeatDown (hstorage : Scalar.entrySize α = 0) (n : Option ℕ) (m : Mat α) :
    ∃ x, repeatDown n m = .ok x := by
  cases n with
  | none => exact ⟨m, rfl⟩
  | some n => exact ⟨_, Except.bind_eq_ok_iff.mpr ⟨_, checkShape_eq_ok hstorage n 1, rfl⟩⟩

/-- The covariances of one member, with the variances of the first, are repeated for each. -/
theorem sigmaOutcomeCovariate_eq (hstorage : Scalar.entrySize α = 0)
    (hguided : d.isMatrixMode = false) {levels : List (ℕ × α)}
    (hlevels : List.Forall₂ Cluster.IsLevel d.clusters levels) {g S cross : Mat α}
    (hg : g.size ≠ 0) (hsquare : S.rows = S.cols)
    (hcross : d.matrix .sigmaOutcomeGaussian = some cross) (hrows : cross.rows ≤ S.rows)
    (hcols : cross.cols ≠ 0) :
    (d.sigmaOutcomeCovariate (some g) (some S)).outcome =
      .ok (some ((filled (levels.map (·.1)).prod 1 1).kron
        (scaleFirstColumn cross (g.get 0 0) S))) := by
  obtain ⟨n, hn⟩ := exists_clusterSize hlevels
  obtain ⟨x, hx⟩ := exists_repeatDown hstorage n (scaleFirstColumn cross (g.get 0 0) S)
  have hcopies : x = (filled (levels.map (·.1)).prod 1 1).kron
      (scaleFirstColumn cross (g.get 0 0) S) := by
    rw [repeatDown_of_ok hx, clusterSize_of_ok hlevels hn]
  have hfits : ¬ (S.rows < cross.rows ∨ S.rows ≠ S.cols) := by
    rintro (h | h)
    · omega
    · exact h hsquare
  have hfilter : (some g).filter (·.size ≠ 0) = some g := by simp [Option.filter, hg]
  unfold sigmaOutcomeCovariate
  rw [hcross, hguided]
  simp only [Bool.false_eq_true, if_false, hfilter, if_neg hfits, if_neg hcols,
    Journal.outcome_bind_eq_ok_iff, Journal.outcome_monadLift, Journal.outcome_noteMat,
    Journal.outcome_pure, Except.ok.injEq, Option.some.injEq]
  exact ⟨(), trivial, n, hn, x, hx, hcopies⟩

/-- The covariances of one member, repeated for each, in terms of the variances of all rows. -/
theorem get_repeated_covariances {levels : List (ℕ × α)} {S₀ cross : Mat α}
    (hsquare : S₀.rows = S₀.cols) (hrows : cross.rows = S₀.rows) (variance : α) {t : ℕ}
    (ht : t < (levels.map (·.1)).prod * cross.rows) (j : ℕ) :
    ((filled (levels.map (·.1)).prod 1 1).kron
        (scaleFirstColumn cross variance ((memberCorrelations levels).kron S₀))).get t j =
      if j = 0 then cross.get (t % cross.rows) j *
        Scalar.sqrt (variance * ((memberCorrelations levels).kron S₀).get t t)
      else cross.get (t % cross.rows) j := by
  have hfirst : t % cross.rows < (levels.map (·.1)).prod * cross.rows :=
    Nat.lt_of_le_of_lt (Nat.mod_le t cross.rows) ht
  -- the row has the variance of its copy in the first member
  have hself : ((memberCorrelations levels).kron S₀).get (t % cross.rows) (t % cross.rows) =
      ((memberCorrelations levels).kron S₀).get t t := by
    rw [hrows] at hfirst ht ⊢
    rw [get_self_of_levels hsquare hfirst, get_self_of_levels hsquare ht, Nat.mod_mod]
  have hcopy := get_column_kron (levels.map (·.1)).prod
    (scaleFirstColumn cross variance ((memberCorrelations levels).kron S₀)) ht j
  rw [hcopy, rows_scaleFirstColumn, get_scaleFirstColumn, hself]

/-- **Each covariance belongs to the variance of its own row.**  The variance of the covariate is
the square of its literal standard deviation, and the covariance of an outcome with the covariate is
their correlation times the root of the product of their variances, for every member of every
cluster.  Where storage is no concern, the covariances are always there. -/
theorem covariances_match_variances (hstorage : Scalar.entrySize α = 0)
    (hguided : d.isMatrixMode = false) {S S₀ g₀ cross : Mat α}
    (hS : d.sigmaOutcome.outcome = .ok (some S))
    (hS₀ : d.unclustered.sigmaOutcome.outcome = .ok (some S₀))
    (hg₀ : d.matrix .sigmaGaussian = some g₀) (hpos : 0 < g₀.rows ∧ 0 < g₀.cols)
    (hcross : d.matrix .sigmaOutcomeGaussian = some cross) (hrows : cross.rows = S₀.rows)
    (hcols : 0 < cross.cols) :
    ∃ g yg, d.sigmaCovariate = some g ∧
      (d.sigmaOutcomeCovariate (some g) (some S)).outcome = .ok (some yg) ∧
      g.shape = g₀.shape ∧ g.get 0 0 = g₀.get 0 0 ^ 2 ∧
      (∀ i j, (i ≠ 0 ∨ j ≠ 0) → g.get i j = g₀.get i j) ∧
      yg.shape = (S.rows, cross.cols) ∧
      ∀ t < S.rows, yg.get t 0 =
          cross.get (t % cross.rows) 0 * Scalar.sqrt (g₀.get 0 0 ^ 2 * S.get t t) ∧
        ∀ j, 0 < j → yg.get t j = cross.get (t % cross.rows) j := by
  rw [sigmaOutcome_of_guided hguided] at hS
  rw [sigmaOutcome_of_guided (d := d.unclustered) hguided] at hS₀
  obtain ⟨levels, S₁, hlevels, hS₁, hsquare, rfl⟩ := exists_unclustered_sigmaError hguided hS
  obtain rfl : S₀ = S₁ := Option.some.inj (Except.ok.inj (hS₀.symm.trans hS₁))
  obtain ⟨g, hg, hshape, hvariance, hothers⟩ := exists_sigmaCovariate hguided hg₀ hpos.1 hpos.2
  have hsize : g.size ≠ 0 := by
    obtain ⟨hgrows, hgcols⟩ := Prod.mk.inj hshape
    rw [size, hgrows, hgcols]
    exact (Nat.mul_pos hpos.1 hpos.2).ne'
  have hSrows : ((memberCorrelations levels).kron S₀).rows =
      (levels.map (·.1)).prod * cross.rows := by
    rw [rows_kron, rows_memberCorrelations, hrows]
  have hScols : ((memberCorrelations levels).kron S₀).cols =
      (levels.map (·.1)).prod * cross.rows := by
    rw [cols_kron, cols_memberCorrelations, ← hsquare, hrows]
  have hfits : cross.rows ≤ ((memberCorrelations levels).kron S₀).rows := by
    rw [hSrows]
    exact Nat.le_mul_of_pos_left _ (one_le_prod_levels hlevels)
  have hyg := sigmaOutcomeCovariate_eq hstorage hguided hlevels hsize (hSrows.trans hScols.symm)
    hcross hfits hcols.ne'
  refine ⟨g, _, hg, hyg, hshape, hvariance, hothers, Prod.ext hSrows.symm (Nat.one_mul _), ?_⟩
  intro t ht
  rw [hSrows] at ht
  have hentry := get_repeated_covariances hsquare hrows (g.get 0 0) ht
  refine ⟨?_, fun j hj => ?_⟩
  · rw [hentry, if_pos rfl, hvariance]
  · rw [hentry, if_neg hj.ne']

/-- The six pupils of a school all have the covariances `1 / 2 * 6` and `1 / 4 * 6` with the
covariate at the two times, since their outcomes have the variance four and the covariate has the
variance nine. -/
theorem covariances_match_variances_schoolTrial :
    ∃ g S yg, schoolTrial.sigmaCovariate = some g ∧ g.get 0 0 = 9 ∧
      schoolTrial.sigmaOutcome.outcome = .ok (some S) ∧
      (schoolTrial.sigmaOutcomeCovariate (some g) (some S)).outcome = .ok (some yg) ∧
      yg.shape = (12, 1) ∧ ∀ t < 12, yg.get t 0 = (if t % 2 = 0 then 1 / 2 else 1 / 4) * 6 := by
  have hS₀ : schoolTrial.unclustered.sigmaOutcome.outcome =
      .ok (some (ofArray 2 2 #[4, 3 / 2, 3 / 2, 4])) :=
    Except.eq_ok_of_toOption (by decide +kernel)
  have hS : schoolTrial.sigmaOutcome.outcome =
      .ok (some ((memberCorrelations [(2, 1 / 10), (3, 1 / 5)]).kron
        (ofArray 2 2 #[4, 3 / 2, 3 / 2, 4]))) :=
    Except.eq_ok_of_toOption (by decide +kernel)
  obtain ⟨g, yg, hg, hyg, -, hvariance, -, hshape, hentries⟩ :=
    covariances_match_variances rfl rfl hS hS₀ rfl (by decide) rfl rfl (by decide)
  refine ⟨g, _, yg, hg, hvariance.trans (by decide +kernel), hS, hyg, hshape, fun t ht => ?_⟩
  rw [(hentries t ht).1]
  revert t
  decide +kernel

end StudyDesign

end StudyPower
