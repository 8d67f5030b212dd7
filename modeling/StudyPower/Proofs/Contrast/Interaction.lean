import Mathlib
import StudyPower.Proofs.Contrast.Factorial

/-!
# Interactions

An interaction contrast is the product of the blocks of all factors, those under test with the
comparisons that their mappings ask for.  Whatever does not depend on some factor under test is
annihilated, because the rows of that factor's block add up to zero, and independent blocks have an
independent product.

## Main definitions

* `testedTrend mappings name` — the comparison that the last mapping of a name asks for.
* `IsTestedBlock b e` — what the block of one factor must satisfy.
* `IsInteraction C effects` — `C` tests the interaction of factors with these numbers of levels, of
  which those with a comparison are under test.
* `responsePart U r q` — the rows and columns of one of `r` responses.

## Main statements

* `apply_kronAll_eq_zero` — one block of comparisons annihilates what ignores its factor.
* `isInteraction_kronAll` — a product of such blocks is an interaction.
* `interaction_contrasts` — **the contrasts of interactions test them**, between participants and,
  separately for each response, within participants.
-/

namespace StudyPower

open Mat Finset Contrast

variable {α : Type} [ExactScalar α]

/-! ### Products of blocks -/

/-- The number of comparisons among the levels of a factor; a factor that is not under test adds
one average. -/
def comparisonCount (e : ℕ × Option Trend) : ℕ := (e.2.map (·.comparisons e.1)).getD 1

/-- The contrast `C` tests the interaction of the factors that have a comparison. -/
structure IsInteraction (C : Mat α) (effects : List (ℕ × Option Trend)) : Prop where
  /-- There is a column for each cell. -/
  cols : C.cols = (effects.map (·.1)).prod
  /-- There is a row for each choice of one comparison of every factor. -/
  rows : C.rows = (effects.map comparisonCount).prod
  /-- What does not depend on the level of some factor under test is annihilated. -/
  annihilates : ∀ p n t, effects[p]? = some (n, some t) →
    ∀ v : ℕ → α, IgnoresLevel (effects.map (·.1)) p v → ∀ r, C.apply v r = 0
  /-- Without polynomials, the rows are independent. -/
  independent : (∀ e ∈ effects, ∀ t, e.2 = some t → t.isPolynomial = false) →
    (∃ R, C.IsRightInverse R) ∧ C.RowsIndependent

/-- The block `b` holds the comparisons of one factor, or the average of its levels. -/
structure IsTestedBlock (b : Mat α) (e : ℕ × Option Trend) : Prop where
  /-- There is a column for each level. -/
  cols : b.cols = e.1
  /-- There is a row for each comparison. -/
  rows : b.rows = comparisonCount e
  /-- The rows of a factor under test add up to zero. -/
  rowsSumToZero : e.2.isSome → b.RowsSumToZero
  /-- Without polynomials, the rows are independent. -/
  inverse : (∀ t, e.2 = some t → t.isPolynomial = false) → ∃ R, b.IsRightInverse R

/-- One block of comparisons annihilates what ignores its factor. -/
theorem apply_kronAll_eq_zero {before after : List (Mat α)} {b : Mat α} (hb : b.RowsSumToZero)
    {v : ℕ → α} (hv : IgnoresLevel ((before ++ b :: after).map Mat.cols) before.length v) (r : ℕ) :
    (kronAll (before ++ b :: after)).apply v r = 0 := by
  rw [List.map_append, List.map_cons, ← List.length_map Mat.cols] at hv
  rw [kronAll_append, kronAll_cons]
  refine apply_kron_kron_eq_zero _ _ hb (fun x hx y hy z hz => ?_) r
  rw [cols_kronAll] at hx hz ⊢
  exact hv.eq_of_joinCell hx hy hz

/-- Without polynomials, every block has a right inverse. -/
theorem exists_inverses {blocks : List (Mat α)} {effects : List (ℕ × Option Trend)}
    (h : List.Forall₂ IsTestedBlock blocks effects)
    (hplain : ∀ e ∈ effects, ∀ t, e.2 = some t → t.isPolynomial = false) :
    ∃ inverses, List.Forall₂ IsRightInverse blocks inverses := by
  induction h with
  | nil => exact ⟨[], .nil⟩
  | cons hblock _ ih =>
    obtain ⟨hfirst, hrest⟩ := List.forall_mem_cons.mp hplain
    obtain ⟨R, hR⟩ := hblock.inverse hfirst
    obtain ⟨inverses, hinverses⟩ := ih hrest
    exact ⟨R :: inverses, .cons hR hinverses⟩

/-- A list with a member at a place splits there. -/
theorem exists_split_of_getElem? {β : Type*} {xs : List β} {p : ℕ} {x : β} (h : xs[p]? = some x) :
    ∃ before after, xs = before ++ x :: after ∧ before.length = p := by
  obtain ⟨hp, rfl⟩ := List.getElem?_eq_some_iff.mp h
  refine ⟨xs.take p, xs.drop (p + 1), ?_, List.length_take_of_le hp.le⟩
  rw [← List.drop_eq_getElem_cons hp, List.take_append_drop]

/-- A product of such blocks is an interaction. -/
theorem isInteraction_kronAll {blocks : List (Mat α)} {effects : List (ℕ × Option Trend)}
    (h : List.Forall₂ IsTestedBlock blocks effects) : IsInteraction (kronAll blocks) effects where
  cols := by rw [cols_kronAll, List.map_eq_map_of_forall₂ (fun _ _ hb => hb.cols) h]
  rows := by rw [rows_kronAll, List.map_eq_map_of_forall₂ (fun _ _ hb => hb.rows) h]
  annihilates := by
    intro p n t hp v hv r
    obtain ⟨hlt, heffect⟩ := List.getElem?_eq_some_iff.mp hp
    have hlt' : p < blocks.length := h.length_eq ▸ hlt
    have hblock : IsTestedBlock blocks[p] (n, some t) := by
      have hget := h.get hlt' hlt
      rwa [List.get_eq_getElem, List.get_eq_getElem, heffect] at hget
    -- the vector ignores a place in the list of blocks, so split the blocks there
    rw [← List.map_eq_map_of_forall₂ (fun _ _ hb => hb.cols) h] at hv
    obtain ⟨before, after, hsplit, rfl⟩ :=
      exists_split_of_getElem? (List.getElem?_eq_getElem hlt')
    rw [hsplit] at hv ⊢
    exact apply_kronAll_eq_zero (hblock.rowsSumToZero rfl) hv r
  independent := by
    intro hplain
    obtain ⟨inverses, hinverses⟩ := exists_inverses h hplain
    have hinverse := IsRightInverse.kronAll hinverses
    exact ⟨⟨_, hinverse⟩, hinverse.rowsIndependent⟩

/-! ### Blocks by name -/

/-- The last mapping of a name, which is the one that counts. -/
def lastMapping? (mappings : List (EffectMapping α)) (name : String) : Option (EffectMapping α) :=
  mappings.reverse.find? (·.target == name)

/-- The comparison that the last mapping of a name asks for. -/
def testedTrend (mappings : List (EffectMapping α)) (name : String) : Option Trend :=
  (lastMapping? mappings name).bind fun m => m.trend.resolve.toOption

omit [ExactScalar α] in
/-- Each name that is mapped has the block of its last mapping. -/
theorem lookup_of_foldlM {build : EffectMapping α → Except (Fault α) (Mat α)}
    {mappings : List (EffectMapping α)} {tested : Blocks α}
    (h : mappings.foldlM (fun tested m => do return (m.target, ← build m) :: tested) [] =
      .ok tested) (name : String) :
    (lastMapping? mappings name = none ∧ tested.lookup name = none) ∨
      ∃ m b, lastMapping? mappings name = some m ∧ build m = .ok b ∧
        tested.lookup name = some b := by
  unfold lastMapping?
  -- from the last mapping backwards, as the lookup meets them
  induction mappings using List.reverseRecOn generalizing tested with
  | nil =>
    obtain rfl : [] = tested := Except.pure_eq_ok_iff.mp h
    exact Or.inl ⟨rfl, rfl⟩
  | append_singleton mappings m ih =>
    simp only [List.foldlM_append, List.foldlM_cons, List.foldlM_nil, Except.bind_eq_ok_iff,
      Except.pure_eq_ok_iff] at h
    obtain ⟨earlier, hearlier, _, ⟨b, hb, rfl⟩, rfl⟩ := h
    rw [List.reverse_append, List.reverse_singleton, List.singleton_append, List.find?_cons,
      List.lookup_cons]
    by_cases hname : m.target = name
    · rw [hname, beq_self_eq_true]
      exact Or.inr ⟨m, b, rfl, hb, rfl⟩
    · rw [beq_false_of_ne hname, beq_false_of_ne (Ne.symm hname)]
      exact ih hearlier

/-- The block under a name is the one that its last mapping asks for, when each mapping of the name
builds a block of comparisons among `n` levels. -/
theorem isTestedBlock_of_foldlM {build : EffectMapping α → Except (Fault α) (Mat α)}
    {mappings : List (EffectMapping α)} {tested : Blocks α}
    (h : mappings.foldlM (fun tested m => do return (m.target, ← build m) :: tested) [] =
      .ok tested) {name : String} {n : ℕ} (hn : 1 ≤ n)
    (hbuild : ∀ m ∈ mappings, m.target = name → ∀ b, build m = .ok b →
      ∃ t, m.trend.resolve = .ok t ∧ IsTestedBlock b (n, some t)) :
    IsTestedBlock (testedBlock tested (name, n)) (n, testedTrend mappings name) := by
  unfold testedTrend testedBlock
  -- an average where the name is not mapped, and otherwise what its last mapping builds
  rcases lookup_of_foldlM h name with ⟨hmapping, hlookup⟩ | ⟨m, b, hmapping, hb, hlookup⟩
  · rw [hmapping, hlookup]
    exact {
      cols := rfl
      rows := rfl
      rowsSumToZero := Bool.noConfusion
      inverse := fun _ => ⟨_, averageRow_isRightInverse hn⟩ }
  · have hmem : m ∈ mappings := List.mem_reverse.mp (List.mem_of_find?_eq_some hmapping)
    have hname : m.target = name :=
      beq_iff_eq.mp (List.find?_some (p := fun m : EffectMapping α => m.target == name) hmapping)
    obtain ⟨t, ht, hblock⟩ := hbuild m hmem hname b hb
    rw [hmapping, hlookup, Option.bind_some, ht]
    exact hblock

/-- The block for a comparison is one of comparisons, given that polynomials add up to zero. -/
theorem isTestedBlock_of_trend {t : Trend} {points : Points α} (haligned : points.Aligned) {n : ℕ}
    (hn : points.count = .ok n) {b : Mat α} (h : trend t points = .ok b)
    (hpolynomial : t.isPolynomial = true → b.RowsSumToZero) : IsTestedBlock b (n, some t) := by
  obtain ⟨k, hk, hrows, hcols, hplain⟩ := trend_of_ok haligned h
  obtain rfl : n = k := Except.ok.inj (hn.symm.trans hk)
  exact {
    cols := hcols
    rows := hrows
    rowsSumToZero := by
      intro _
      cases hkind : t.isPolynomial with
      | true => exact hpolynomial hkind
      | false => exact (hplain hkind).1
    inverse := fun ht => (hplain (ht t rfl)).2 }

/-- Among members with distinct names, a name finds the member that has it. -/
theorem find?_of_nodup {β : Type*} {name : β → String} {xs : List β} (h : (xs.map name).Nodup)
    {x : β} (hx : x ∈ xs) : xs.find? (name · == name x) = some x := by
  induction xs with
  | nil => exact absurd hx List.not_mem_nil
  | cons y ys ih =>
    rw [List.map_cons, List.nodup_cons] at h
    rw [List.find?_cons]
    rcases List.mem_cons.mp hx with rfl | hmem
    · rw [beq_self_eq_true]
    · have hne : name y ≠ name x := fun heq => h.1 (heq ▸ List.mem_map_of_mem hmem)
      rw [beq_false_of_ne hne]
      exact ih h.2 hmem

/-! ### Between participants -/

/-- The numbers of levels and the comparisons of all factors. -/
def betweenEffects (factors : List Factor) (mappings : List (EffectMapping α)) :
    List (ℕ × Option Trend) :=
  factors.map fun f => (f.levels, testedTrend mappings f.name)

/-- The polynomials that a list of mappings asks for add up to zero. -/
def PolynomialsSumToZero (build : EffectMapping α → Except (Fault α) (Mat α))
    (mappings : List (EffectMapping α)) : Prop :=
  ∀ m ∈ mappings, ∀ t, m.trend.resolve = .ok t → t.isPolynomial = true →
    ∀ b, build m = .ok b → b.RowsSumToZero

theorem isInteraction_between {factors : List Factor} {mappings : List (EffectMapping α)}
    {C : Mat α} (hnames : (factors.map (·.name)).Nodup)
    (hpolynomials : PolynomialsSumToZero (factorTrend · factors) mappings)
    (h : betweenInteraction mappings factors = .ok C) :
    IsInteraction C (betweenEffects factors mappings) := by
  unfold betweenInteraction at h
  obtain ⟨tested, htested, hC⟩ := Except.bind_eq_ok_iff.mp h
  obtain ⟨hlevels, rfl⟩ := between_of_ok hC
  rw [factorial, factorSides, List.map_map, betweenEffects]
  refine isInteraction_kronAll (List.forall₂_map_left_iff.mpr (List.forall₂_map_right_iff.mpr
    (List.forall₂_same.mpr fun f hf => ?_)))
  refine isTestedBlock_of_foldlM htested (hlevels f hf) fun m hm hname b hb => ?_
  have hfound : findFactor m.target factors = (.ok f : Except (Fault α) Factor) := by
    rw [findFactor, hname, find?_of_nodup hnames hf]
  -- with distinct names, the mapping is looked up to this very factor
  have hsteps := hb
  unfold factorTrend at hsteps
  simp only [Except.bind_eq_ok_iff] at hsteps
  obtain ⟨g, hg, t, ht, htrend⟩ := hsteps
  obtain rfl : f = g := Except.ok.inj (hfound.symm.trans hg)
  refine ⟨t, ht, isTestedBlock_of_trend (Points.aligned_equallySpaced _) ?_ htrend
    fun hkind => hpolynomials m hm t ht hkind b hb⟩
  simp [Points.equallySpaced, Points.ofList]

/-! ### Within participants -/

/-- The numbers of levels and the comparisons of all dimensions. -/
def withinEffects (measures : List (RepeatedMeasure α)) (sides : List ℕ)
    (mappings : List (EffectMapping α)) : List (ℕ × Option Trend) :=
  (measures.zip sides).map fun (m, n) => (n, testedTrend mappings m.dimension)

/-- The measurements of a dimension are taken at as many points as it declares. -/
def SpacingFits (m : RepeatedMeasure α) : Prop :=
  ∀ ds, m.spacing = some ds → m.count = .int ds.length

/-- The rows and columns that belong to response `q` of `r` responses. -/
def responsePart (U : Mat α) (r q : ℕ) : Mat α :=
  ofFn (U.rows / r) (U.cols / r) fun i j => U.get (i * r + q) (j * r + q)

theorem points_of_hasSide {m : RepeatedMeasure α} {n : ℕ} (hside : HasSide m n)
    (hspacing : SpacingFits m) {points : Points α} (h : m.points = .ok points) :
    points.Aligned ∧ points.count = .ok n := by
  refine ⟨RepeatedMeasure.aligned_of_points h, ?_⟩
  rw [RepeatedMeasure.count_of_points h, Except.ok.injEq, RepeatedMeasure.pointCount]
  cases hds : m.spacing with
  | none => simp [RepeatedMeasure.levelCount, hside.1, Datum.int?]
  | some ds => simpa [hside.1, eq_comm] using hspacing ds hds

theorem forall₂_isTestedBlock {measures : List (RepeatedMeasure α)} {sides : List ℕ}
    {tested : Blocks α} {mappings : List (EffectMapping α)}
    (hsides : List.Forall₂ HasSide measures sides)
    (hblocks : ∀ m ∈ measures, ∀ n, HasSide m n →
      IsTestedBlock (testedBlock tested (m.dimension, n)) (n, testedTrend mappings m.dimension)) :
    List.Forall₂ IsTestedBlock (((measures.map (·.dimension)).zip sides).map (testedBlock tested))
      (withinEffects measures sides mappings) := by
  unfold withinEffects
  induction hsides with
  | nil => exact .nil
  | cons hside _ ih =>
    obtain ⟨hfirst, hrest⟩ := List.forall_mem_cons.mp hblocks
    exact .cons (hfirst _ hside) (ih hrest)

/-- One response of a contrast that is repeated for each response. -/
theorem responsePart_kron {r q : ℕ} (hq : q < r) (W : Mat α) :
    responsePart (W.kron (identity r)) r q = W := by
  have hr : 0 < r := Nat.lt_of_le_of_lt q.zero_le hq
  refine ext_get (Nat.mul_div_cancel _ hr) (Nat.mul_div_cancel _ hr) fun i j hi hj => ?_
  refine (get_ofFn _ hi hj).trans ?_
  rw [get_kron, rows_identity, cols_identity, (digits_of_lt hq).1, (digits_of_lt hq).2,
    (digits_of_lt hq).1, (digits_of_lt hq).2, get_identity hq hq, if_pos rfl, mul_one]

/-- A contrast that is repeated for each response does not mix responses. -/
theorem get_kron_identity_of_ne (W : Mat α) {r i j : ℕ} (h : i % r ≠ j % r) :
    (W.kron (identity r)).get i j = 0 := by
  rcases Nat.eq_zero_or_pos r with rfl | hr
  · exact get_eq_zero_of_rows_le _ (Nat.zero_le _)
  · rw [get_kron, rows_identity, cols_identity, get_identity (Nat.mod_lt _ hr) (Nat.mod_lt _ hr),
      if_neg h, mul_zero]

/-- A contrast between the dimensions, repeated for each response. -/
theorem isInteraction_within {measures : List (RepeatedMeasure α)}
    {mappings : List (EffectMapping α)} {responses : List String} {U : Mat α}
    (hnames : (measures.map (·.dimension)).Nodup) (hspacing : ∀ m ∈ measures, SpacingFits m)
    (hpolynomials : PolynomialsSumToZero (measureTrend · measures) mappings)
    (h : withinInteraction mappings measures responses = .ok U) :
    ∃ sides W, List.Forall₂ HasSide measures sides ∧
      IsInteraction W (withinEffects measures sides mappings) ∧
      U = W.transpose.kron (identity (responseCount responses)) := by
  unfold withinInteraction at h
  obtain ⟨tested, htested, hU⟩ := Except.bind_eq_ok_iff.mp h
  obtain ⟨sides, hsides, rfl⟩ := within_of_ok hU
  refine ⟨sides, _, hsides, isInteraction_kronAll (forall₂_isTestedBlock hsides ?_), rfl⟩
  intro k hk n hside
  refine isTestedBlock_of_foldlM htested hside.2 fun m hm hname b hb => ?_
  have hfound : findMeasure m.target measures = .ok k := by
    rw [findMeasure, hname, find?_of_nodup hnames hk]
  -- with distinct names, the mapping is looked up to this very dimension
  have hsteps := hb
  unfold measureTrend at hsteps
  simp only [Except.bind_eq_ok_iff] at hsteps
  obtain ⟨k', hk', points, hpoints, t, ht, htrend⟩ := hsteps
  obtain rfl : k = k' := Except.ok.inj (hfound.symm.trans hk')
  obtain ⟨haligned, hcount⟩ := points_of_hasSide hside (hspacing k hk) hpoints
  exact ⟨t, ht, isTestedBlock_of_trend haligned hcount htrend
    fun hkind => hpolynomials m hm t ht hkind b hb⟩

/-- **The contrasts of interactions test them.**  Between participants there is one contrast, and
within participants there is one in each response, which does not mix with the others. -/
theorem interaction_contrasts :
    (∀ (factors : List Factor) (mappings : List (EffectMapping α)) (C : Mat α),
      (factors.map (·.name)).Nodup →
      PolynomialsSumToZero (factorTrend · factors) mappings →
      betweenInteraction mappings factors = .ok C →
      IsInteraction C (betweenEffects factors mappings)) ∧
    ∀ (measures : List (RepeatedMeasure α)) (mappings : List (EffectMapping α))
      (responses : List String) (U : Mat α),
      (measures.map (·.dimension)).Nodup → (∀ m ∈ measures, SpacingFits m) →
      PolynomialsSumToZero (measureTrend · measures) mappings →
      withinInteraction mappings measures responses = .ok U →
      ∃ sides, List.Forall₂ HasSide measures sides ∧
        U.rows = sides.prod * responseCount responses ∧
        U.cols = ((withinEffects measures sides mappings).map comparisonCount).prod *
          responseCount responses ∧
        (∀ q < responseCount responses, IsInteraction
          (responsePart U (responseCount responses) q).transpose
          (withinEffects measures sides mappings)) ∧
        ∀ i j, i % responseCount responses ≠ j % responseCount responses → U.get i j = 0 := by
  refine ⟨fun factors mappings C hnames hpolynomials h =>
    isInteraction_between hnames hpolynomials h, ?_⟩
  intro measures mappings responses U hnames hspacing hpolynomials h
  obtain ⟨sides, W, hsides, hW, rfl⟩ := isInteraction_within hnames hspacing hpolynomials h
  have hprod : ((withinEffects measures sides mappings).map (·.1)).prod = sides.prod := by
    rw [withinEffects, List.map_map]
    congr 1
    exact List.map_snd_zip hsides.length_eq.ge
  refine ⟨sides, hsides, ?_, ?_, ?_, fun i j => get_kron_identity_of_ne _⟩
  · rw [rows_kron, rows_transpose, hW.cols, hprod, rows_identity]
  · rw [cols_kron, cols_transpose, hW.rows, cols_identity]
  · intro q hq
    rwa [responsePart_kron hq, transpose_transpose]

/-- A dose at four levels, in either sex, at three sites. -/
def doseFactors : List Factor := [⟨"dose", 4⟩, ⟨"sex", 2⟩, ⟨"site", 3⟩]

/-- The quadratic trend of the dose, by sex. -/
def doseMappings : List (EffectMapping ℚ) :=
  [⟨"dose", .known .quadratic⟩, ⟨"sex", .known .none⟩]

/-- Four visits, early ones and late ones, with a measurement of either eye. -/
def visitMeasures : List (RepeatedMeasure ℚ) :=
  [⟨"visit", .int 4, some [.int (-7), .int (-1), .int 1, .int 7]⟩, ⟨"eye", .int 2, none⟩]

/-- The linear trend over the visits, by eye. -/
def visitMappings : List (EffectMapping ℚ) :=
  [⟨"visit", .known .linear⟩, ⟨"eye", .known .changeFromBaseline⟩]

theorem polynomialsSumToZero_doseMappings :
    PolynomialsSumToZero (factorTrend · doseFactors) doseMappings := by
  have hdose : factorTrend ⟨"dose", .known .quadratic⟩ doseFactors =
      .ok (ofArray 1 4 #[1 / 2, -1 / 2, -1 / 2, 1 / 2] : Mat ℚ) :=
    Except.eq_ok_of_toOption (by decide +kernel)
  intro m hm t ht hkind b hb
  rcases List.mem_pair.mp hm with rfl | rfl
  · rw [← Except.ok.inj (hdose.symm.trans hb)]
    decide +kernel
  · cases ht
    cases hkind

theorem polynomialsSumToZero_visitMappings :
    PolynomialsSumToZero (measureTrend · visitMeasures) visitMappings := by
  have hvisit : measureTrend ⟨"visit", .known .linear⟩ visitMeasures =
      .ok (ofArray 1 4 #[-7 / 10, -1 / 10, 1 / 10, 7 / 10] : Mat ℚ) :=
    Except.eq_ok_of_toOption (by decide +kernel)
  intro m hm t ht hkind b hb
  rcases List.mem_pair.mp hm with rfl | rfl
  · rw [← Except.ok.inj (hvisit.symm.trans hb)]
    decide +kernel
  · cases ht
    cases hkind

theorem spacingFits_visitMeasures : ∀ m ∈ visitMeasures, SpacingFits m := by
  intro m hm ds hds
  rcases List.mem_pair.mp hm with rfl | rfl
  · cases hds
    rfl
  · cases hds

theorem sides_visitMeasures {sides : List ℕ} (h : List.Forall₂ HasSide visitMeasures sides) :
    sides = [4, 2] := by
  obtain ⟨n, rest, ⟨hn, -⟩, hrest, rfl⟩ := List.forall₂_cons_left_iff.mp h
  obtain ⟨k, none, ⟨hk, -⟩, hnone, rfl⟩ := List.forall₂_cons_left_iff.mp hrest
  obtain rfl := List.forall₂_nil_left_iff.mp hnone
  cases hn
  cases hk
  rfl

/-- The quadratic trend of the dose by sex, and the linear trend over the visits by eye in two
responses, are interactions. -/
theorem interaction_contrasts_visits :
    (∃ C, betweenInteraction doseMappings doseFactors = .ok C ∧
      IsInteraction C [(4, some .quadratic), (2, some .none), (3, none)]) ∧
    ∃ U, withinInteraction visitMappings visitMeasures ["pain", "sleep"] = .ok U ∧
      U.shape = (16, 2) ∧ ∀ q < 2, IsInteraction (responsePart U 2 q).transpose
        [(4, some .linear), (2, some .changeFromBaseline)] := by
  obtain ⟨C, hC⟩ := Option.isSome_iff_exists.mp
    (show (betweenInteraction doseMappings doseFactors).toOption.isSome by decide +kernel)
  obtain ⟨U, hU⟩ := Option.isSome_iff_exists.mp
    (show (withinInteraction visitMappings visitMeasures ["pain", "sleep"]).toOption.isSome by
      decide +kernel)
  have hC := Except.eq_ok_of_toOption hC
  have hU := Except.eq_ok_of_toOption hU
  obtain ⟨hbetween, hwithin⟩ := interaction_contrasts (α := ℚ)
  refine ⟨⟨C, hC, hbetween _ _ _ (by decide) polynomialsSumToZero_doseMappings hC⟩, U, hU, ?_⟩
  obtain ⟨sides, hsides, hrows, hcols, hparts, -⟩ := hwithin _ _ _ _ (by decide)
    spacingFits_visitMeasures polynomialsSumToZero_visitMappings hU
  obtain rfl := sides_visitMeasures hsides
  exact ⟨Prod.ext hrows hcols, hparts⟩

end StudyPower
