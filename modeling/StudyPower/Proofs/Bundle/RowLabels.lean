import Mathlib
import StudyPower.Proofs.Bundle.Guided

/-!
# Rows of the contrast within participants and of the covariance

A row of the contrast within participants and a row of the covariance each stand for a cluster
member, a level of every dimension, and a response.  The contrast counts the levels of a dimension
by its points where it compares at points, and the covariance always by its declared number of
measurements.  Only the numbers of all rows are compared, so in an interaction of two dimensions a
surplus of points in one makes up for a lack in the other.

## Main definitions

* `rowSides k sides r` — the digits of a row: cluster members, levels and responses.

## Main statements

* `map_eq_of_prod_eq` — a product that stays the same when one factor changes keeps that factor.
* `StudyDesign.rows_agree_iff` — **the rows of both matrices stand for the same exactly when the
  dimensions of an interaction have as many points as measurements.**
-/

namespace StudyPower

open Mat Contrast

/-- A product that stays the same when at most the factors of one name change keeps them all. -/
theorem map_eq_of_prod_eq {β : Type*} {name : β → String} {f g : β → ℕ} {target : String}
    {xs : List β} (hnames : (xs.map name).Nodup) (hothers : ∀ x ∈ xs, name x ≠ target → f x = g x)
    (hpos : 0 < (xs.map g).prod) (hprod : (xs.map f).prod = (xs.map g).prod) :
    ∀ x ∈ xs, f x = g x := by
  induction xs with
  | nil => exact fun x hx => absurd hx List.not_mem_nil
  | cons y ys ih =>
    rw [List.map_cons, List.nodup_cons] at hnames
    obtain ⟨hy, hys⟩ := List.forall_mem_cons.mp hothers
    rw [List.map_cons, List.prod_cons] at hpos hprod
    rw [List.map_cons, List.prod_cons] at hprod
    have hrest : 0 < (ys.map g).prod := Nat.pos_of_mul_pos_left hpos
    rw [List.forall_mem_cons]
    by_cases hname : name y = target
    · -- no other member has the name, so the other factors cancel
      have hsame : ∀ x ∈ ys, f x = g x := by
        intro x hx
        refine hys x hx fun heq => hnames.1 ?_
        rw [hname, ← heq]
        exact List.mem_map_of_mem hx
      rw [List.map_congr_left hsame] at hprod
      exact ⟨Nat.eq_of_mul_eq_mul_right hrest hprod, hsame⟩
    · rw [hy hname] at hprod
      have hfirst : 0 < g y := Nat.pos_of_mul_pos_right hpos
      exact ⟨hy hname, ih hnames.2 hys hrest (Nat.eq_of_mul_eq_mul_left hfirst hprod)⟩

/-- The digits of a row, for `k` cluster members, dimensions with these numbers of levels, and `r`
responses. -/
def rowSides (k : ℕ) (sides : List ℕ) (r : ℕ) : List ℕ := k :: (sides ++ [r])

theorem prod_rowSides (k : ℕ) (sides : List ℕ) (r : ℕ) :
    (rowSides k sides r).prod = k * (sides.prod * r) := by
  rw [rowSides, List.prod_cons, List.prod_append, List.prod_singleton]

theorem rowSides_inj {k r : ℕ} {sides sides' : List ℕ} :
    rowSides k sides r = rowSides k sides' r ↔ sides = sides' := by
  simp [rowSides]

/-- With as many members and responses, the numbers of rows agree when the products of the levels
do. -/
theorem prod_eq_of_prod_rowSides_eq {k r : ℕ} {sides sides' : List ℕ}
    (hpos : 0 < (rowSides k sides r).prod)
    (h : (rowSides k sides r).prod = (rowSides k sides' r).prod) :
    sides.prod = sides'.prod ∧ 0 < sides'.prod := by
  rw [prod_rowSides] at hpos h
  rw [prod_rowSides] at h
  have hmembers : 0 < k := Nat.pos_of_mul_pos_right hpos
  have hlevels : 0 < sides.prod * r := Nat.pos_of_mul_pos_left hpos
  have hsame := Nat.eq_of_mul_eq_mul_right (Nat.pos_of_mul_pos_left hlevels)
    (Nat.eq_of_mul_eq_mul_left hmembers h)
  exact ⟨hsame, hsame ▸ Nat.pos_of_mul_pos_right hlevels⟩

variable {α : Type} [Scalar α]

omit [Scalar α] in
/-- With as many points as measurements, a comparison at points has a level for each measurement. -/
theorem pointCount_eq_levelCount_iff {m : RepeatedMeasure α} (h : HasSide m m.levelCount) :
    m.pointCount = m.levelCount ↔ SpacingFits m := by
  unfold RepeatedMeasure.pointCount SpacingFits
  cases m.spacing with
  | none => simp
  | some ds =>
    rw [h.1]
    simp [eq_comm]

namespace StudyDesign

variable {d : StudyDesign α} {limits : Limits} {b : Bundle α} {g : Hypothesis α}

/-- The dimensions that an interaction compares have as many points as measurements. -/
def ComparedSpacingsFit (d : StudyDesign α) (g : Hypothesis α) : Prop :=
  g.kind = .interaction →
    ∀ m ∈ d.measures, (lastMapping? g.within m.dimension).isSome → SpacingFits m

/-- When the numbers of all rows agree, so do the numbers of levels of every dimension, unless an
interaction compares at other numbers of points. -/
theorem contrastedCount_eq_levelCount_iff (hnames : (d.measures.map (·.dimension)).Nodup)
    {W : Mat α} (h : d.guidedWithin g = .ok W) (hpos : 0 < (d.measures.map (·.levelCount)).prod)
    (hprod : (d.measures.map (contrastedCount g.kind g.within)).prod =
      (d.measures.map (·.levelCount)).prod) :
    (∀ m ∈ d.measures, contrastedCount g.kind g.within m = m.levelCount) ↔
      d.ComparedSpacingsFit g := by
  unfold ComparedSpacingsFit
  have hplain : ∀ m, comparedMapping? g.kind g.within m.dimension = none →
      contrastedCount g.kind g.within m = m.levelCount := by
    intro m hm
    rw [contrastedCount, hm]
    rfl
  cases hkind : g.kind with
  | mainEffect | manova =>
    rw [hkind] at hplain
    exact iff_of_true (fun m _ => hplain m rfl) fun hne => HypothesisKind.noConfusion hne
  | trend =>
    rw [hkind] at hplain hprod
    refine iff_of_true ?_ fun hne => HypothesisKind.noConfusion hne
    -- only the dimension of the first mapping can differ, and the others cancel
    cases hmapped : g.within with
    | nil =>
      rw [hmapped] at hplain
      exact fun m _ => hplain m rfl
    | cons first rest =>
      rw [hmapped] at hplain hprod
      have hothers : ∀ m ∈ d.measures, m.dimension ≠ first.target →
          contrastedCount .trend (first :: rest) m = m.levelCount := by
        intro m _ hne
        refine hplain m ?_
        unfold comparedMapping? lastMapping?
        simpa using Ne.symm hne
      exact map_eq_of_prod_eq hnames hothers hpos hprod
  | interaction =>
    have hsides := hasSide_of_guidedWithin (by rw [hkind]; exact HypothesisKind.noConfusion) h
    constructor
    · intro hall _ m hm hsome
      have hm' := hall m hm
      rw [contrastedCount, comparedMapping?, if_pos hsome] at hm'
      exact (pointCount_eq_levelCount_iff (hsides m hm)).mp hm'
    · intro hfits m hm
      rw [contrastedCount, comparedMapping?]
      split
      · next hsome => exact (pointCount_eq_levelCount_iff (hsides m hm)).mpr (hfits rfl m hm hsome)
      · rfl

/-- The contrast within participants `U` and the covariance `S` of clusters with `k` members are put
together from these blocks of the dimensions. -/
structure MadeOf (d : StudyDesign α) (g : Hypothesis α) (k : ℕ) (U S : Mat α)
    (contrastBlocks covarianceBlocks : List (Mat α)) : Prop where
  /-- The blocks of the contrast. -/
  contrast : d.withinBlocks g = .ok contrastBlocks
  /-- Its product for one member, where it is not the identity over all outcomes. -/
  contrast_product : g.kind ≠ .manova → d.guidedWithin g =
    .ok (kronAll (contrastBlocks ++ [identity (max d.responses.length 1)]))
  /-- A row of the contrast has a digit for each block. -/
  contrast_rows : U.rows =
    (rowSides k (contrastBlocks.map Mat.rows) (max d.responses.length 1)).prod
  /-- The blocks of the covariance. -/
  covariance : (d.measures.mapM d.measureBlock).outcome = .ok covarianceBlocks
  /-- Its product. -/
  covariance_product : ∃ clusterBlocks responseBlock,
    S = (kronAll (clusterBlocks ++ covarianceBlocks ++ [responseBlock])).symmetricPart
  /-- A row of the covariance has a digit for each block. -/
  covariance_rows : S.rows =
    (rowSides k (covarianceBlocks.map Mat.rows) (max d.responses.length 1)).prod
  /-- A block of the covariance has a row and a column for each measurement. -/
  covariance_shapes :
    covarianceBlocks.map Mat.shape = d.measures.map fun m => (m.levelCount, m.levelCount)

/-- The matrices of an assembled design are put together from blocks of its dimensions. -/
theorem exists_madeOf [Scalar.KeepsRows α] (h : (d.assemble limits).outcome = .ok b)
    (hguided : d.isMatrixMode = false) (hprimary : d.primaryHypothesis = some g) :
    ∃ U n contrastBlocks covarianceBlocks, b.within = some U ∧ d.clusterSize = .ok n ∧
      d.MadeOf g (n.getD 1) U b.covariance.outcome contrastBlocks covarianceBlocks ∧
      contrastBlocks.map Mat.rows = d.measures.map (contrastedCount g.kind g.within) := by
  have hassembled := assembled_of_ok h
  obtain ⟨W, n, U, hW, hn, hdown, hU⟩ :=
    withinContrast_of_guided hguided hprimary hassembled.within
  obtain ⟨S, hS, -, hsymmetric⟩ := sigmaError_of_guided hguided
    (sigmaError_of_outcomeCovariance hguided hassembled.covariance)
  obtain ⟨clusterBlocks, covarianceBlocks, responseBlock, rfl, hcovariance, hnonneg, hshapes,
    hSrows, -⟩ := guidedSigma_sizes_of_ok (int?_of_guidedWithin hW) hn hS
  obtain ⟨contrastBlocks, hcontrast, hcontrastRows, hWrows, hproduct⟩ :=
    rows_of_guidedWithin (nodup_of_checkAdmissible hassembled.admissible) hnonneg hW
  have hcovarianceRows := (sides_of_shapes hshapes).1
  refine ⟨U, n, contrastBlocks, covarianceBlocks, hU, hn, ?_, hcontrastRows⟩
  exact {
    contrast := hcontrast
    contrast_product := fun hkind => by rw [hW, hproduct hkind]
    contrast_rows := by rw [(repeatDown_sizes_of_ok hdown).1, hWrows, prod_rowSides]
    covariance := hcovariance
    covariance_product := ⟨clusterBlocks, responseBlock, Option.some.inj hsymmetric⟩
    covariance_rows := by
      rw [Option.some.inj hsymmetric, rows_symmetricPart, hSrows, prod_rowSides, hcovarianceRows,
        memberOutcomes]
    covariance_shapes := hshapes }

/-- **The rows of both matrices stand for the same exactly when the dimensions of an interaction
have as many points as measurements.** -/
theorem rows_agree_iff [Scalar.KeepsRows α] (h : (d.assemble limits).outcome = .ok b)
    (hguided : d.isMatrixMode = false) (hprimary : d.primaryHypothesis = some g) :
    ∃ U n contrastBlocks covarianceBlocks, b.within = some U ∧ d.clusterSize = .ok n ∧
      d.MadeOf g (n.getD 1) U b.covariance.outcome contrastBlocks covarianceBlocks ∧
      (contrastBlocks.map Mat.rows = d.measures.map (·.levelCount) ↔ d.ComparedSpacingsFit g) ∧
      ((∀ t < U.rows,
          cellLevels (rowSides (n.getD 1) (contrastBlocks.map Mat.rows)
            (max d.responses.length 1)) t =
          cellLevels (rowSides (n.getD 1) (covarianceBlocks.map Mat.rows)
            (max d.responses.length 1)) t) ↔
        d.ComparedSpacingsFit g) := by
  obtain ⟨U, n, contrastBlocks, covarianceBlocks, hU, hn, hmade, hcontrastRows⟩ :=
    exists_madeOf h hguided hprimary
  have hassembled := assembled_of_ok h
  have hcoherent := hassembled.coherent
  obtain ⟨W, -, -, hW, -⟩ := withinContrast_of_guided hguided hprimary hassembled.within
  have hcovarianceRows := (sides_of_shapes hmade.covariance_shapes).1
  -- the comparison of sizes makes the numbers of all rows agree
  have hrows : U.rows = b.covariance.outcome.rows := by
    rw [hcoherent.within_rows U hU]
    exact (congrArg Prod.fst hcoherent.outcome_shape).symm
  have hpos : 0 < U.rows := by
    rw [hcoherent.within_rows U hU]
    exact hcoherent.beta_cols
  have hprod := hmade.contrast_rows.symm.trans (hrows.trans hmade.covariance_rows)
  rw [hmade.contrast_rows] at hpos
  have hblocks : contrastBlocks.map Mat.rows = d.measures.map (·.levelCount) ↔
      d.ComparedSpacingsFit g := by
    obtain ⟨hsides, hlevels⟩ := prod_eq_of_prod_rowSides_eq hpos hprod
    rw [hcovarianceRows] at hsides hlevels
    rw [hcontrastRows] at hsides
    rw [hcontrastRows, List.map_inj_left]
    exact contrastedCount_eq_levelCount_iff (nodup_of_checkAdmissible hassembled.admissible) hW
      hlevels hsides
  refine ⟨U, n, contrastBlocks, covarianceBlocks, hU, hn, hmade, hblocks, ?_⟩
  rw [← hblocks, ← hcovarianceRows, hmade.contrast_rows]
  constructor
  · intro hsame
    exact rowSides_inj.mp (eq_of_cellLevels_eq hprod hpos hsame)
  · intro heq t _
    rw [heq]

/-- The interaction of times and places. -/
def placeInteraction : Hypothesis ℚ :=
  ⟨.interaction, [], [⟨"time", .known .none⟩, ⟨"place", .known .none⟩]⟩

/-- Measurements at two times in three places, declared at these numbers of points. -/
def placeTrial (times places : ℕ) : StudyDesign ℚ := { schoolTrial with
  covariateFlag := .bool false
  factors := []
  measures := [
    ⟨"time", .int 2, some ((List.range times).map fun t => .int t)⟩,
    ⟨"place", .int 3, some ((List.range places).map fun p => .int p)⟩]
  clusters := []
  responses := ["y"]
  covariances := [
    ⟨"time", .covariance, .null, .null, none, some (.ofArray 2 2 #[1, 1 / 2, 1 / 2, 1])⟩,
    ⟨"place", .covariance, .null, .null, none,
      some (.ofArray 3 3 #[2, 0, 0, 0, 3, 0, 0, 0, 4])⟩,
    ⟨responseCovarianceName, .covariance, .null, .null, none, some (.ofArray 1 1 #[1])⟩]
  groupSizes := none
  hypotheses := [placeInteraction]
  matrices := [("beta", .ofArray 1 6 #[1, 2, 3, 4, 5, 6])] }

/-- With two times and three places, the rows of both matrices agree. -/
theorem rows_agree_iff_placeTrial :
    ∃ b U contrastBlocks covarianceBlocks, ((placeTrial 2 3).assemble {}).outcome = .ok b ∧
      b.within = some U ∧
      (placeTrial 2 3).MadeOf placeInteraction 1 U b.covariance.outcome contrastBlocks
        covarianceBlocks ∧
      ∀ t < U.rows, cellLevels (rowSides 1 (contrastBlocks.map Mat.rows) 1) t =
        cellLevels (rowSides 1 (covarianceBlocks.map Mat.rows) 1) t := by
  obtain ⟨b, h⟩ := Except.exists_eq_ok_of_isSome
    (show ((placeTrial 2 3).assemble {}).outcome.toOption.isSome by decide +kernel)
  have hsize : (placeTrial 2 3).clusterSize = .ok none :=
    Except.eq_ok_of_toOption (by decide +kernel)
  have hfits : (placeTrial 2 3).ComparedSpacingsFit placeInteraction := by
    intro _ m hm _ ds hds
    rcases List.mem_pair.mp hm with rfl | rfl
    · cases hds
      rfl
    · cases hds
      rfl
  obtain ⟨U, n, contrastBlocks, covarianceBlocks, hU, hn, hmade, -, hrows⟩ :=
    rows_agree_iff h rfl rfl
  obtain rfl : none = n := Except.ok.inj (hsize.symm.trans hn)
  exact ⟨b, U, contrastBlocks, covarianceBlocks, h, hU, hmade, hrows.mpr hfits⟩

/-- With three times and two places, the trial is accepted all the same.  Then row 2 of the contrast
stands for the second time in the first place, but row 2 of the covariance for the first time in the
third place. -/
theorem not_rows_agree_placeTrial :
    ∃ b U contrastBlocks covarianceBlocks, ((placeTrial 3 2).assemble {}).outcome = .ok b ∧
      b.within = some U ∧
      (placeTrial 3 2).MadeOf placeInteraction 1 U b.covariance.outcome contrastBlocks
        covarianceBlocks ∧
      contrastBlocks.map Mat.rows = [3, 2] ∧ covarianceBlocks.map Mat.rows = [2, 3] ∧
      cellLevels (rowSides 1 (contrastBlocks.map Mat.rows) 1) 2 = [0, 1, 0, 0] ∧
      cellLevels (rowSides 1 (covarianceBlocks.map Mat.rows) 1) 2 = [0, 0, 2, 0] := by
  obtain ⟨b, h⟩ := Except.exists_eq_ok_of_isSome
    (show ((placeTrial 3 2).assemble {}).outcome.toOption.isSome by decide +kernel)
  have hsize : (placeTrial 3 2).clusterSize = .ok none :=
    Except.eq_ok_of_toOption (by decide +kernel)
  obtain ⟨U, n, contrastBlocks, covarianceBlocks, hU, hn, hmade, hcontrast⟩ :=
    exists_madeOf h rfl rfl
  obtain rfl : none = n := Except.ok.inj (hsize.symm.trans hn)
  have hcovariance := (sides_of_shapes hmade.covariance_shapes).1
  have hcontrast' : contrastBlocks.map Mat.rows = [3, 2] := hcontrast.trans (by decide)
  have hcovariance' : covarianceBlocks.map Mat.rows = [2, 3] := hcovariance.trans (by decide)
  refine ⟨b, U, contrastBlocks, covarianceBlocks, h, hU, hmade, hcontrast', hcovariance', ?_, ?_⟩
  · rw [hcontrast']
    decide
  · rw [hcovariance']
    decide

end StudyDesign

end StudyPower
