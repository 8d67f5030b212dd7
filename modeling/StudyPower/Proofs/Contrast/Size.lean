import Mathlib
import StudyPower.Bundle.Matrices
import StudyPower.Proofs.Contrast.Interaction

/-!
# Sizes of contrasts

The eight forms of a hypothesis between and within participants, the identity over all outcomes
apart, are one product: blocks are put under test by name, and every factor contributes the block
under its name or an average.  The sizes of the product follow from the sizes of the blocks, and
these from what a name is looked up to: a main effect has the declared number of levels, and a
comparison at points has as many levels as there are points.

## Main definitions

* `Levels α` — the number of levels and the points that a name is looked up to; `factorLevels` and
  `measureLevels` look up factors and dimensions.
* `testedBlocks levels kind mappings` — the blocks that a hypothesis puts under test.
* `comparedMapping? kind mappings name` — the mapping that a name is compared at points by.
* `sideRows`, `sideCols` — the sizes of the block that a factor contributes.
* `contrastedCount kind mappings m` — the number of levels that a contrast gives a dimension.
* `HasEmptyTrend levels kind mappings` — all polynomials at a single point are asked for.

## Main statements

* `StudyDesign.guidedBetween_eq`, `StudyDesign.guidedWithin_eq` — the contrasts are such products.
* `lookup_testedBlocks` — the block under a name and its sizes.
* `between_sizes_of_ok`, `within_sizes_of_ok` — the sizes of a product.
* `sideCols_of_factor`, `sideCols_of_measure` — the number of levels of a block.
* `prod_sideRows_eq_zero_iff` — a product is empty exactly when it has an empty trend.
* `withinManova_of_ok` — the identity over all outcomes.
-/

namespace StudyPower

open Mat Contrast

variable {α : Type} [Scalar α]

/-! ### What a name is looked up to -/

/-- The declared number of levels that a name is looked up to, and the points at which they lie. -/
structure Levels (α : Type) where
  /-- The declared number of levels. -/
  count : String → Except (Fault α) (Datum α)
  /-- The points. -/
  points : String → Except (Fault α) (Points α)
  /-- There are as many values as points. -/
  aligned : ∀ name p, points name = .ok p → p.Aligned

/-- Names of factors, whose levels lie at `1, 2, …`. -/
def factorLevels (factors : List Factor) : Levels α where
  count name := (fun f => .int f.levels) <$> findFactor name factors
  points name := factorPoints <$> findFactor name factors
  aligned := by
    intro name p h
    obtain ⟨f, -, rfl⟩ := Except.map_eq_ok_iff.mp h
    exact Points.aligned_equallySpaced _

/-- Names of dimensions. -/
def measureLevels (measures : List (RepeatedMeasure α)) : Levels α where
  count name := (·.count) <$> findMeasure name measures
  points name := findMeasure name measures >>= RepeatedMeasure.points
  aligned := by
    intro name p h
    obtain ⟨m, -, hp⟩ := Except.bind_eq_ok_iff.mp h
    exact RepeatedMeasure.aligned_of_points hp

omit [Scalar α] in
theorem findFactor_of_nodup {factors : List Factor} (h : (factors.map (·.name)).Nodup) {f : Factor}
    (hf : f ∈ factors) : findFactor f.name factors = (.ok f : Except (Fault α) Factor) := by
  rw [findFactor, find?_of_nodup h hf]

omit [Scalar α] in
theorem findMeasure_of_nodup {measures : List (RepeatedMeasure α)}
    (h : (measures.map (·.dimension)).Nodup) {m : RepeatedMeasure α} (hm : m ∈ measures) :
    findMeasure m.dimension measures = .ok m := by
  rw [findMeasure, find?_of_nodup h hm]

omit [Scalar α] in
theorem mem_of_findFactor {name : String} {factors : List Factor} {f : Factor}
    (h : findFactor name factors = (.ok f : Except (Fault α) Factor)) :
    f ∈ factors ∧ f.name = name := by
  unfold findFactor at h
  split at h
  · next g hg =>
    obtain rfl := Except.ok.inj h
    exact ⟨List.mem_of_find?_eq_some hg, by simpa using List.find?_some hg⟩
  · cases h

omit [Scalar α] in
theorem mem_of_findMeasure {name : String} {measures : List (RepeatedMeasure α)}
    {m : RepeatedMeasure α} (h : findMeasure name measures = .ok m) :
    m ∈ measures ∧ m.dimension = name := by
  unfold findMeasure at h
  split at h
  · next g hg =>
    obtain rfl := Except.ok.inj h
    exact ⟨List.mem_of_find?_eq_some hg, by simpa using List.find?_some hg⟩
  · cases h

theorem mem_of_points_factorLevels {factors : List Factor} {name : String} {points : Points α}
    (h : (factorLevels factors).points name = .ok points) : name ∈ factors.map (·.name) := by
  obtain ⟨f, hf, -⟩ := Except.map_eq_ok_iff.mp h
  obtain ⟨hmem, rfl⟩ := mem_of_findFactor hf
  exact List.mem_map_of_mem hmem

theorem mem_of_points_measureLevels {measures : List (RepeatedMeasure α)} {name : String}
    {points : Points α} (h : (measureLevels measures).points name = .ok points) :
    name ∈ measures.map (·.dimension) := by
  obtain ⟨m, hm, -⟩ := Except.bind_eq_ok_iff.mp h
  obtain ⟨hmem, rfl⟩ := mem_of_findMeasure hm
  exact List.mem_map_of_mem hmem

/-! ### Blocks under test -/

/-- The comparison at points that a mapping asks for. -/
def comparison (levels : Levels α) (m : EffectMapping α) : Except (Fault α) (Mat α) := do
  let points ← levels.points m.target
  trend (← m.trend.resolve) points

/-- The blocks that a hypothesis puts under test, the latest first. -/
def testedBlocks (levels : Levels α) (kind : HypothesisKind) (mappings : List (EffectMapping α)) :
    Except (Fault α) (Blocks α) :=
  match kind, mappings with
  | _, [] => .ok []
  | .mainEffect, first :: _ | .manova, first :: _ => do
    return [(first.target, ← mainEffect (← levels.count first.target))]
  | .trend, first :: _ => do return [(first.target, ← comparison levels first)]
  | .interaction, mappings =>
    mappings.foldlM (fun tested m => do return (m.target, ← comparison levels m) :: tested) []

/-- The mapping that a name is compared at points by.  A main effect does not look at points. -/
def comparedMapping? (kind : HypothesisKind) (mappings : List (EffectMapping α)) (name : String) :
    Option (EffectMapping α) :=
  match kind with
  | .mainEffect | .manova => none
  | .trend => lastMapping? (mappings.take 1) name
  | .interaction => lastMapping? mappings name

theorem comparison_factorLevels (factors : List Factor) (m : EffectMapping α) :
    comparison (factorLevels factors) m = factorTrend m factors := by
  unfold comparison factorTrend factorLevels
  simp only [map_eq_pure_bind, bind_assoc, pure_bind]

theorem comparison_measureLevels (measures : List (RepeatedMeasure α)) (m : EffectMapping α) :
    comparison (measureLevels measures) m = measureTrend m measures := by
  unfold comparison measureTrend measureLevels
  simp only [bind_assoc]

/-- A contrast between participants is a product with blocks under test. -/
theorem StudyDesign.guidedBetween_eq (d : StudyDesign α) (g : Hypothesis α) :
    d.guidedBetween g =
      (testedBlocks (factorLevels d.factors) g.kind g.between >>= fun tested =>
        between tested d.factors) := by
  unfold guidedBetween testedBlocks
  cases g.between with
  | nil => cases g.kind <;> rfl
  | cons first rest =>
    have heffect : betweenMainEffect first.target d.factors =
        (do
          let count ← (factorLevels d.factors : Levels α).count first.target
          let block ← mainEffect count
          between [(first.target, block)] d.factors) := by
      unfold betweenMainEffect factorLevels
      simp only [map_eq_pure_bind, bind_assoc, pure_bind]
    cases g.kind with
    | mainEffect => simp only [heffect, bind_assoc, pure_bind]
    | manova => simp only [betweenManova, heffect, bind_assoc, pure_bind]
    | trend => simp only [betweenTrend, comparison_factorLevels, bind_assoc, pure_bind]
    | interaction => simp only [betweenInteraction, factorTrends, comparison_factorLevels]

/-- So is a contrast within participants, the identity over all outcomes apart. -/
theorem StudyDesign.guidedWithin_eq (d : StudyDesign α) {g : Hypothesis α}
    (hkind : g.kind ≠ .manova) :
    d.guidedWithin g =
      (testedBlocks (measureLevels d.measures) g.kind g.within >>= fun tested =>
        Contrast.within tested d.measures d.responses) := by
  unfold guidedWithin testedBlocks
  cases hmapped : g.within with
  | nil =>
    cases hk : g.kind with
    | manova => exact absurd hk hkind
    | mainEffect | trend | interaction => rfl
  | cons first rest =>
    have heffect : withinMainEffect first.target d.measures d.responses =
        (do
          let count ← (measureLevels d.measures).count first.target
          let block ← mainEffect count
          Contrast.within [(first.target, block)] d.measures d.responses) := by
      unfold withinMainEffect measureLevels
      simp only [map_eq_pure_bind, bind_assoc, pure_bind]
    cases hk : g.kind with
    | manova => exact absurd hk hkind
    | mainEffect => simp only [heffect, bind_assoc, pure_bind]
    | trend => simp only [withinTrend, comparison_measureLevels, bind_assoc, pure_bind]
    | interaction => simp only [withinInteraction, measureTrends, comparison_measureLevels]

/-! ### The block under a name -/

omit [Scalar α] in
theorem target_of_lastMapping? {mappings : List (EffectMapping α)} {name : String}
    {m : EffectMapping α} (h : lastMapping? mappings name = some m) : m.target = name :=
  beq_iff_eq.mp (List.find?_some (p := fun m : EffectMapping α => m.target == name) h)

/-- A comparison has a column for each point, and it is empty when all polynomials are asked for at
a single point. -/
theorem comparison_sizes_of_ok [Scalar.KeepsRows α] {levels : Levels α} {m : EffectMapping α}
    {b : Mat α} (h : comparison levels m = .ok b) :
    ∃ points n, levels.points m.target = .ok points ∧ points.count = .ok n ∧ b.cols = n ∧
      (b.rows = 0 ↔ m.trend.resolve = .ok .allPolynomial ∧ n ≤ 1) := by
  unfold comparison at h
  simp only [Except.bind_eq_ok_iff] at h
  obtain ⟨points, hpoints, t, ht, hb⟩ := h
  obtain ⟨n, hn, -, hcols, hzero⟩ := trend_sizes_of_ok (levels.aligned _ _ hpoints) hb
  refine ⟨points, n, hpoints, hn, hcols, ?_⟩
  rw [hzero, ht, Except.ok.injEq]

/-- Nothing stands under a name that is not mapped, and otherwise the comparison of its last
mapping. -/
theorem lookup_comparisons [Scalar.KeepsRows α] {levels : Levels α}
    {mappings : List (EffectMapping α)} {tested : Blocks α}
    (h : mappings.foldlM
      (fun tested m => do return (m.target, ← comparison levels m) :: tested) [] = .ok tested)
    (name : String) :
    (lastMapping? mappings name = none ∧ tested.lookup name = none) ∨
    ∃ m points n b, lastMapping? mappings name = some m ∧ levels.points name = .ok points ∧
      points.count = .ok n ∧ tested.lookup name = some b ∧ b.cols = n ∧
      (b.rows = 0 ↔ m.trend.resolve = .ok .allPolynomial ∧ n ≤ 1) := by
  rcases lookup_of_foldlM h name with hnone | ⟨m, b, hm, hb, hlookup⟩
  · exact Or.inl hnone
  · obtain ⟨points, n, hpoints, hn, hcols, hzero⟩ := comparison_sizes_of_ok hb
    rw [target_of_lastMapping? hm] at hpoints
    exact Or.inr ⟨m, points, n, b, hm, hpoints, hn, hlookup, hcols, hzero⟩

/-- What stands under a name is nothing, or the main effect of its declared levels, or the
comparison at its points that its mapping asks for. -/
theorem lookup_testedBlocks [Scalar.KeepsRows α] {levels : Levels α} {kind : HypothesisKind}
    {mappings : List (EffectMapping α)} {tested : Blocks α}
    (h : testedBlocks levels kind mappings = .ok tested) (name : String) :
    (comparedMapping? kind mappings name = none ∧ tested.lookup name = none) ∨
    (comparedMapping? kind mappings name = none ∧ ∃ (n : ℕ) (b : Mat α),
      levels.count name = .ok (.int n) ∧ tested.lookup name = some b ∧ b.cols = n ∧ 0 < b.rows) ∨
    ∃ m points n b, comparedMapping? kind mappings name = some m ∧
      levels.points name = .ok points ∧ points.count = .ok n ∧ tested.lookup name = some b ∧
      b.cols = n ∧ (b.rows = 0 ↔ m.trend.resolve = .ok .allPolynomial ∧ n ≤ 1) := by
  have heffect : ∀ target : String,
      (do return [(target, ← mainEffect (← levels.count target))] : Except (Fault α) (Blocks α)) =
        .ok tested →
      tested.lookup name = none ∨ ∃ (n : ℕ) (b : Mat α), levels.count name = .ok (.int n) ∧
        tested.lookup name = some b ∧ b.cols = n ∧ 0 < b.rows := by
    intro target h
    simp only [Except.bind_eq_ok_iff, Except.pure_eq_ok_iff] at h
    obtain ⟨count, hcount, b, hb, rfl⟩ := h
    obtain ⟨n, rfl, htwo, rfl⟩ := mainEffect_of_ok hb
    rw [List.lookup_cons, List.lookup_nil]
    by_cases hname : target = name
    · rw [hname, beq_self_eq_true]
      rw [hname] at hcount
      refine Or.inr ⟨n, _, hcount, rfl, rfl, ?_⟩
      rw [rows_firstAgainstRest]
      omega
    · rw [beq_false_of_ne (Ne.symm hname)]
      exact Or.inl rfl
  cases kind with
  | mainEffect | manova =>
    cases mappings with
    | nil =>
      obtain rfl := Except.ok.inj h
      exact Or.inl ⟨rfl, rfl⟩
    | cons first rest =>
      rcases heffect first.target h with hnone | hsome
      · exact Or.inl ⟨rfl, hnone⟩
      · exact Or.inr (Or.inl ⟨rfl, hsome⟩)
  | trend =>
    -- only the first mapping counts
    have hfirst : (mappings.take 1).foldlM
        (fun tested m => do return (m.target, ← comparison levels m) :: tested) [] =
          .ok tested := by
      cases mappings with
      | nil => exact h
      | cons first rest => simpa [testedBlocks] using h
    rcases lookup_comparisons hfirst name with hnone | hsome
    · exact Or.inl hnone
    · exact Or.inr (Or.inr hsome)
  | interaction =>
    have hall : mappings.foldlM
        (fun tested m => do return (m.target, ← comparison levels m) :: tested) [] =
          .ok tested := by
      cases mappings with
      | nil => exact h
      | cons first rest => exact h
    rcases lookup_comparisons hall name with hnone | hsome
    · exact Or.inl hnone
    · exact Or.inr (Or.inr hsome)

/-! ### Sizes of products -/

/-- The number of rows of the block under a name, one for an average. -/
def sideRows (tested : Blocks α) (name : String) : ℕ := ((tested.lookup name).map Mat.rows).getD 1

/-- The number of columns of the block under a name, all levels for an average. -/
def sideCols (tested : Blocks α) (side : String × ℕ) : ℕ :=
  ((tested.lookup side.1).map Mat.cols).getD side.2

omit [Scalar α] in
theorem sizes_getD_lookup (tested : Blocks α) (name : String) {mean : Mat α} (h : mean.rows = 1) :
    ((tested.lookup name).getD mean).rows = sideRows tested name ∧
      ((tested.lookup name).getD mean).cols = sideCols tested (name, mean.cols) := by
  unfold sideRows sideCols
  cases tested.lookup name with
  | none => exact ⟨h, rfl⟩
  | some b => exact ⟨rfl, rfl⟩

theorem between_sizes_of_ok {tested : Blocks α} {factors : List Factor} {c : Mat α}
    (h : between tested factors = .ok c) :
    (∀ f ∈ factors, 1 ≤ f.levels) ∧
      c.rows = (factors.map fun f => sideRows tested f.name).prod ∧
      c.cols = (factors.map fun f => sideCols tested (f.name, f.levels)).prod := by
  unfold between at h
  simp only [Except.bind_eq_ok_iff, Except.pure_eq_ok_iff, List.mapM_eq_ok_iff] at h
  obtain ⟨blocks, hblocks, rfl⟩ := h
  have hblock : ∀ f b, factorBlock tested f = .ok b → 1 ≤ f.levels ∧
      sideRows tested f.name = b.rows ∧ sideCols tested (f.name, f.levels) = b.cols := by
    intro f b hb
    unfold factorBlock at hb
    simp only [Except.bind_eq_ok_iff, Except.pure_eq_ok_iff] at hb
    obtain ⟨mean, hmean, rfl⟩ := hb
    obtain ⟨n, x, hn, hpos, -, rfl⟩ := filled_of_average hmean
    obtain rfl : f.levels = n := by simpa using hn
    obtain ⟨hrows, hcols⟩ := sizes_getD_lookup tested f.name (rows_filled 1 f.levels (1 / x))
    exact ⟨hpos, hrows.symm, hcols.symm⟩
  refine ⟨fun f hf => ?_, ?_, ?_⟩
  · obtain ⟨b, hb⟩ := List.exists_of_forall₂ hblocks hf
    exact (hblock f b hb).1
  · rw [rows_kronAll, List.map_eq_map_of_forall₂ (fun f b hb => (hblock f b hb).2.1) hblocks]
  · rw [cols_kronAll, List.map_eq_map_of_forall₂ (fun f b hb => (hblock f b hb).2.2) hblocks]

/-- The block of a dimension, transposed, has a row for each level. -/
theorem measureBlock_sizes_of_ok {tested : Blocks α} {m : RepeatedMeasure α} {b : Mat α}
    (h : Contrast.measureBlock tested m = .ok b) :
    HasSide m m.levelCount ∧ b.rows = sideCols tested (m.dimension, m.levelCount) ∧
      b.cols = sideRows tested m.dimension := by
  unfold Contrast.measureBlock at h
  simp only [Except.bind_eq_ok_iff, Except.pure_eq_ok_iff] at h
  obtain ⟨mean, hmean, rfl⟩ := h
  obtain ⟨n, x, hn, hpos, -, rfl⟩ := filled_of_average hmean
  obtain ⟨hrows, hcols⟩ := sizes_getD_lookup tested m.dimension (rows_filled 1 n (1 / x))
  have hlevels : m.levelCount = n := by simp [RepeatedMeasure.levelCount, hn, Datum.int?]
  rw [hlevels]
  exact ⟨⟨hn, hpos⟩, hcols, hrows⟩

theorem within_sizes_of_ok {tested : Blocks α} {measures : List (RepeatedMeasure α)}
    {responses : List String} {u : Mat α} (h : Contrast.within tested measures responses = .ok u) :
    ∃ blocks, measures.mapM (Contrast.measureBlock tested) = .ok blocks ∧
      u = kronAll (blocks ++ [identity (responseCount responses)]) ∧
      (∀ m ∈ measures, HasSide m m.levelCount) ∧
      blocks.map Mat.rows =
        measures.map (fun m => sideCols tested (m.dimension, m.levelCount)) ∧
      u.cols = (measures.map fun m => sideRows tested m.dimension).prod *
        responseCount responses := by
  unfold Contrast.within at h
  simp only [Except.bind_eq_ok_iff, Except.pure_eq_ok_iff] at h
  obtain ⟨blocks, hmap, rfl⟩ := h
  have hblocks := List.mapM_eq_ok_iff.mp hmap
  have hrows : measures.map (fun m => sideCols tested (m.dimension, m.levelCount)) =
      blocks.map Mat.rows :=
    List.map_eq_map_of_forall₂ (fun _ _ hb => (measureBlock_sizes_of_ok hb).2.1.symm) hblocks
  have hcols : (measures.map fun m => sideRows tested m.dimension) = blocks.map Mat.cols :=
    List.map_eq_map_of_forall₂ (fun _ _ hb => (measureBlock_sizes_of_ok hb).2.2.symm) hblocks
  refine ⟨blocks, hmap, rfl, fun m hm => ?_, hrows.symm, ?_⟩
  · obtain ⟨b, hb⟩ := List.exists_of_forall₂ hblocks hm
    exact (measureBlock_sizes_of_ok hb).1
  · rw [cols_kronAll, List.map_append, List.prod_append, hcols]
    simp

/-! ### The number of levels of a block -/

/-- The number of levels that a contrast gives a dimension: its points where they are compared, and
its measurements otherwise. -/
def contrastedCount (kind : HypothesisKind) (mappings : List (EffectMapping α))
    (m : RepeatedMeasure α) : ℕ :=
  if (comparedMapping? kind mappings m.dimension).isSome then m.pointCount else m.levelCount

/-- With distinct names, the block of a factor has a column for each of its levels. -/
theorem sideCols_of_factor [Scalar.KeepsRows α] {factors : List Factor} {kind : HypothesisKind}
    {mappings : List (EffectMapping α)} {tested : Blocks α}
    (hnames : (factors.map (·.name)).Nodup)
    (h : testedBlocks (factorLevels factors) kind mappings = .ok tested) {f : Factor}
    (hf : f ∈ factors) : sideCols tested (f.name, f.levels) = f.levels := by
  unfold sideCols
  rcases lookup_testedBlocks h f.name with ⟨-, hnone⟩ | ⟨-, n, b, hn, hb, hcols, -⟩ |
    ⟨m, points, n, b, -, hpoints, hn, hb, hcols, -⟩
  · rw [hnone]
    rfl
  · -- a main effect of the levels of the factor that the name is looked up to
    rw [hb, Option.map_some, Option.getD_some, hcols]
    simp only [factorLevels, findFactor_of_nodup hnames hf, Except.map_eq_ok_iff] at hn
    obtain ⟨_, ⟨⟩, hn⟩ := hn
    simpa using hn.symm
  · rw [hb, Option.map_some, Option.getD_some, hcols]
    simp only [factorLevels, findFactor_of_nodup hnames hf, Except.map_eq_ok_iff] at hpoints
    obtain ⟨_, ⟨⟩, rfl⟩ := hpoints
    simpa [factorPoints, Points.equallySpaced, Points.ofList] using hn.symm

/-- So has that of a dimension, except that a comparison goes by its points. -/
theorem sideCols_of_measure [Scalar.KeepsRows α] {measures : List (RepeatedMeasure α)}
    {kind : HypothesisKind} {mappings : List (EffectMapping α)} {tested : Blocks α}
    (hnames : (measures.map (·.dimension)).Nodup)
    (h : testedBlocks (measureLevels measures) kind mappings = .ok tested)
    {m : RepeatedMeasure α} (hm : m ∈ measures) :
    sideCols tested (m.dimension, m.levelCount) = contrastedCount kind mappings m := by
  unfold sideCols contrastedCount
  rcases lookup_testedBlocks h m.dimension with ⟨hmap, hnone⟩ | ⟨hmap, n, b, hn, hb, hcols, -⟩ |
    ⟨k, points, n, b, hmap, hpoints, hn, hb, hcols, -⟩
  · rw [hmap, hnone]
    rfl
  · rw [hmap, hb, Option.map_some, Option.getD_some, hcols]
    simp only [measureLevels, findMeasure_of_nodup hnames hm, Except.map_eq_ok_iff] at hn
    obtain ⟨_, ⟨⟩, hcount⟩ := hn
    simp [RepeatedMeasure.levelCount, hcount, Datum.int?]
  · rw [hmap, hb, Option.map_some, Option.getD_some, hcols]
    simp only [measureLevels, findMeasure_of_nodup hnames hm, Except.bind_eq_ok_iff] at hpoints
    obtain ⟨_, ⟨⟩, hpoints⟩ := hpoints
    rw [RepeatedMeasure.count_of_points hpoints, Except.ok.injEq] at hn
    rw [← hn]
    rfl

/-! ### Empty products -/

/-- All polynomials are asked for at a single point, where there are none. -/
def HasEmptyTrend (levels : Levels α) (kind : HypothesisKind) (mappings : List (EffectMapping α)) :
    Prop :=
  ∃ name m points n, comparedMapping? kind mappings name = some m ∧
    m.trend.resolve = .ok .allPolynomial ∧ levels.points name = .ok points ∧
    points.count = .ok n ∧ n ≤ 1

/-- A block is empty when its name has an empty trend, so a product over all names that can be
looked up is empty exactly when there is an empty trend. -/
theorem prod_sideRows_eq_zero_iff [Scalar.KeepsRows α] {levels : Levels α} {kind : HypothesisKind}
    {mappings : List (EffectMapping α)} {tested : Blocks α}
    (h : testedBlocks levels kind mappings = .ok tested) {names : List String}
    (hnames : ∀ name points, levels.points name = .ok points → name ∈ names) :
    (names.map (sideRows tested)).prod = 0 ↔ HasEmptyTrend levels kind mappings := by
  rw [List.prod_eq_zero_iff, List.mem_map]
  unfold sideRows HasEmptyTrend
  constructor
  · rintro ⟨name, -, hzero⟩
    rcases lookup_testedBlocks h name with ⟨-, hnone⟩ | ⟨-, n, b, -, hb, -, hpos⟩ |
      ⟨m, points, n, b, hmap, hpoints, hn, hb, -, hrows⟩
    · rw [hnone] at hzero
      exact absurd hzero Nat.one_ne_zero
    · rw [hb, Option.map_some, Option.getD_some] at hzero
      omega
    · rw [hb, Option.map_some, Option.getD_some] at hzero
      obtain ⟨htrend, hle⟩ := hrows.mp hzero
      exact ⟨name, m, points, n, hmap, htrend, hpoints, hn, hle⟩
  · rintro ⟨name, m, points, n, hmap, htrend, hpoints, hn, hle⟩
    refine ⟨name, hnames name points hpoints, ?_⟩
    rcases lookup_testedBlocks h name with ⟨hnone, -⟩ | ⟨hnone, -⟩ |
      ⟨m', points', n', b, hmap', hpoints', hn', hb, -, hrows⟩
    · simp [hmap] at hnone
    · simp [hmap] at hnone
    · obtain rfl : m = m' := Option.some.inj (hmap.symm.trans hmap')
      obtain rfl : points = points' := Except.ok.inj (hpoints.symm.trans hpoints')
      obtain rfl : n = n' := Except.ok.inj (hn.symm.trans hn')
      rw [hb, Option.map_some, Option.getD_some]
      exact hrows.mpr ⟨htrend, hle⟩

/-! ### The identity over all outcomes -/

theorem responseCount_eq_max (responses : List String) :
    responseCount responses = max responses.length 1 := by
  unfold responseCount
  split
  · omega
  · omega

omit [Scalar α] in
theorem multiply_of_ok {n k e : Datum α} (h : multiply n k = .ok e) :
    e = match n.int?, k.int? with
      | some a, some b => .int (a * b)
      | some _, none => k
      | none, _ => n := by
  unfold multiply at h
  split at h
  · cases h
  · cases h
  · cases hn : n.int? with
    | none =>
      rw [hn] at h
      exact (Except.ok.inj h).symm
    | some a =>
      rw [hn] at h
      cases hk : k.int? with
      | none =>
        rw [hk] at h
        exact (Except.ok.inj h).symm
      | some b =>
        rw [hk] at h
        exact (Except.ok.inj h).symm

omit [Scalar α] in
/-- What is no integer stays in the place of the product. -/
theorem foldlM_multiply_of_not_int {measures : List (RepeatedMeasure α)} {n e : Datum α}
    (hn : n.int? = none) (h : measures.foldlM (fun n m => multiply n m.count) n = .ok e) :
    e = n := by
  induction measures with
  | nil => exact (Except.pure_eq_ok_iff.mp h).symm
  | cons m measures ih =>
    rw [List.foldlM_cons] at h
    obtain ⟨n', hn', h⟩ := Except.bind_eq_ok_iff.mp h
    have hsame := multiply_of_ok hn'
    rw [hn] at hsame
    rw [hsame] at h
    exact ih h

omit [Scalar α] in
/-- A product that is an integer is one of integers. -/
theorem foldlM_multiply_of_int {measures : List (RepeatedMeasure α)} {k z : ℤ}
    (h : measures.foldlM (fun n m => multiply n m.count) (.int k : Datum α) = .ok (.int z)) :
    (∀ m ∈ measures, m.count.int?.isSome) ∧
      z = k * (measures.map fun m => m.count.int?.getD 0).prod := by
  induction measures generalizing k with
  | nil =>
    obtain rfl : k = z := by simpa using h
    simp
  | cons m measures ih =>
    rw [List.foldlM_cons] at h
    obtain ⟨n, hn, h⟩ := Except.bind_eq_ok_iff.mp h
    have hproduct := multiply_of_ok hn
    cases hm : m.count.int? with
    | none =>
      -- the product would end as this count, which is no integer
      rw [hm] at hproduct
      rw [hproduct] at h
      have hz := foldlM_multiply_of_not_int hm h
      rw [← hz] at hm
      cases hm
    | some l =>
      rw [hm] at hproduct
      rw [hproduct] at h
      obtain ⟨hall, rfl⟩ := ih h
      refine ⟨List.forall_mem_cons.mpr ⟨by rw [hm]; rfl, hall⟩, ?_⟩
      rw [List.map_cons, List.prod_cons, hm, Option.getD_some, mul_assoc]

theorem withinManova_of_ok {measures : List (RepeatedMeasure α)} {responses : List String}
    {W : Mat α} (h : withinManova measures responses = .ok W) :
    (∀ m ∈ measures, m.count.int?.isSome) ∧
      W = identity (responseCount responses *
        (measures.map fun m => m.count.int?.getD 0).prod : ℤ).toNat := by
  unfold withinManova outcomeCount at h
  simp only [Except.bind_eq_ok_iff, Except.pure_eq_ok_iff] at h
  obtain ⟨z, ⟨e, he, hz⟩, shape, hshape, rfl⟩ := h
  rw [Datum.eq_int_of_toIndex hz] at he
  obtain ⟨hall, rfl⟩ := foldlM_multiply_of_int he
  rw [checkShape_of_ok hshape]
  exact ⟨hall, rfl⟩

end StudyPower
