import Mathlib
import StudyPower.Proofs.Contrast.Size

/-!
# The mappings of a contrast

The contrasts of a main effect, a trend and a grand mean are built by their own steps, but each of
them is the interaction of a list of mappings: none, or one.  An interaction puts the blocks of its
mappings under test by name, and the product of the blocks only looks names up, so the order of the
mappings does not matter, and among mappings of one name only the last does.

## Main definitions

* `builtBlocks build mappings` — the blocks of a list of mappings, the latest first.
* `IsProductByName product` — what `product` makes of blocks depends on what names are looked up to,
  and whether it makes something does not depend on the blocks.
* `latest mappings` — the last mapping of each name.
* `IsInteractionByName contrast` — the order of mappings does not matter to `contrast`, and earlier
  mappings of a name do not count.
* `RepeatedMeasure.IsMeasured m` — `m` has measurements, at as many points.

## Main statements

* `IsProductByName.isInteractionByName` — products by name are such contrasts.
* `contrasts_are_interactions` — **the contrasts of all forms of hypothesis are interactions, which
  go by the last mapping of each name.**
-/

namespace StudyPower

open Mat Contrast

variable {α : Type}

/-! ### The last mapping of a name -/

/-- The last mapping of each name. -/
def latest (mappings : List (EffectMapping α)) : List (EffectMapping α) :=
  mappings.pwFilter fun m m' => m.target ≠ m'.target

theorem nodup_latest (mappings : List (EffectMapping α)) :
    ((latest mappings).map (·.target)).Nodup :=
  List.pairwise_map.mpr (List.pairwise_pwFilter mappings)

theorem mem_of_mem_latest {mappings : List (EffectMapping α)} {m : EffectMapping α}
    (h : m ∈ latest mappings) : m ∈ mappings :=
  List.pwFilter_subset mappings h

theorem mem_of_lastMapping? {mappings : List (EffectMapping α)} {name : String}
    {m : EffectMapping α} (h : lastMapping? mappings name = some m) : m ∈ mappings :=
  List.mem_reverse.mp (List.mem_of_find?_eq_some h)

theorem lastMapping?_cons (m : EffectMapping α) (mappings : List (EffectMapping α))
    (name : String) : lastMapping? (m :: mappings) name =
      (lastMapping? mappings name).or (if m.target = name then some m else none) := by
  unfold lastMapping?
  rw [List.reverse_cons, List.find?_append, List.find?_singleton]
  simp only [beq_iff_eq]

/-- With distinct names, the last mapping of a name is its only one. -/
theorem lastMapping?_eq_some_iff {mappings : List (EffectMapping α)}
    (h : (mappings.map (·.target)).Nodup) {name : String} {m : EffectMapping α} :
    lastMapping? mappings name = some m ↔ m ∈ mappings ∧ m.target = name := by
  refine ⟨fun hm => ⟨mem_of_lastMapping? hm, target_of_lastMapping? hm⟩, ?_⟩
  rintro ⟨hm, rfl⟩
  refine find?_of_nodup ?_ (List.mem_reverse.mpr hm)
  rwa [List.map_reverse, List.nodup_reverse]

theorem lastMapping?_perm {mappings mappings' : List (EffectMapping α)}
    (hperm : mappings.Perm mappings') (h : (mappings.map (·.target)).Nodup) (name : String) :
    lastMapping? mappings name = lastMapping? mappings' name := by
  have h' : (mappings'.map (·.target)).Nodup := (hperm.map _).nodup_iff.mp h
  ext m
  rw [lastMapping?_eq_some_iff h, lastMapping?_eq_some_iff h', hperm.mem_iff]

theorem lastMapping?_latest (mappings : List (EffectMapping α)) (name : String) :
    lastMapping? (latest mappings) name = lastMapping? mappings name := by
  induction mappings with
  | nil => rfl
  | cons m mappings ih =>
    rw [lastMapping?_cons, ← ih]
    by_cases hnew : ∀ m' ∈ latest mappings, m.target ≠ m'.target
    · rw [latest, List.pwFilter_cons_of_pos hnew, lastMapping?_cons]
      rfl
    · -- the name is mapped again later, so the earlier mapping is left out and not met either
      rw [latest, List.pwFilter_cons_of_neg hnew, ← latest]
      push Not at hnew
      obtain ⟨m', hm', hname⟩ := hnew
      by_cases htarget : m.target = name
      · have hfound := (lastMapping?_eq_some_iff (nodup_latest mappings)).mpr
          ⟨hm', hname.symm.trans htarget⟩
        rw [hfound, Option.some_or]
      · rw [if_neg htarget, Option.or_none]

/-! ### Blocks by name -/

section Products

variable {build : EffectMapping α → Except (Fault α) (Mat α)}
  {product : Blocks α → Except (Fault α) (Mat α)}

/-- The blocks that mappings build, by name, the latest first. -/
def builtBlocks (build : EffectMapping α → Except (Fault α) (Mat α))
    (mappings : List (EffectMapping α)) : Except (Fault α) (Blocks α) :=
  mappings.foldlM (fun tested m => do return (m.target, ← build m) :: tested) []

/-- Blocks are built when each of them is. -/
theorem exists_builtBlocks_iff {mappings : List (EffectMapping α)} :
    (∃ tested, builtBlocks build mappings = .ok tested) ↔
      ∀ m ∈ mappings, ∃ b, build m = .ok b := by
  unfold builtBlocks
  induction mappings using List.reverseRecOn with
  | nil => exact iff_of_true ⟨[], rfl⟩ fun _ h => absurd h List.not_mem_nil
  | append_singleton mappings m ih =>
    simp only [List.foldlM_append, List.foldlM_cons, List.foldlM_nil, Except.bind_eq_ok_iff,
      Except.pure_eq_ok_iff, List.forall_mem_append, List.forall_mem_singleton, ← ih]
    constructor
    · rintro ⟨_, earlier, hearlier, _, ⟨b, hb, rfl⟩, rfl⟩
      exact ⟨⟨earlier, hearlier⟩, b, hb⟩
    · rintro ⟨⟨earlier, hearlier⟩, b, hb⟩
      exact ⟨_, earlier, hearlier, _, ⟨b, hb, rfl⟩, rfl⟩

/-- Lists of mappings with the same last mapping of each name put the same blocks under test. -/
theorem lookup_builtBlocks_congr {mappings mappings' : List (EffectMapping α)}
    {tested tested' : Blocks α} (h : builtBlocks build mappings = .ok tested)
    (h' : builtBlocks build mappings' = .ok tested')
    (hsame : ∀ name, lastMapping? mappings name = lastMapping? mappings' name) (name : String) :
    tested.lookup name = tested'.lookup name := by
  rcases lookup_of_foldlM h name with ⟨hm, hnone⟩ | ⟨m, b, hm, hb, hsome⟩
  · rcases lookup_of_foldlM h' name with ⟨-, hnone'⟩ | ⟨m', b', hm', -, -⟩
    · rw [hnone, hnone']
    · rw [← hsame, hm] at hm'
      cases hm'
  · rcases lookup_of_foldlM h' name with ⟨hm', -⟩ | ⟨m', b', hm', hb', hsome'⟩
    · rw [← hsame, hm] at hm'
      cases hm'
    · rw [← hsame, hm] at hm'
      cases hm'
      rw [hsome, hsome', Except.ok.inj (hb.symm.trans hb')]

/-- What is made of blocks depends on what names are looked up to. -/
structure IsProductByName (product : Blocks α → Except (Fault α) (Mat α)) : Prop where
  /-- Blocks under which each name is looked up to the same have the same product. -/
  congr : ∀ tested tested' : Blocks α, (∀ name, tested.lookup name = tested'.lookup name) →
    product tested = product tested'
  /-- Whether there is a product does not depend on the blocks. -/
  total : ∀ tested tested' C, product tested = .ok C → ∃ C', product tested' = .ok C'

/-- The order of mappings does not matter, and earlier mappings of a name do not count. -/
structure IsInteractionByName (contrast : List (EffectMapping α) → Except (Fault α) (Mat α)) :
    Prop where
  /-- Whether there is a contrast does not depend on the order. -/
  perm : ∀ mappings mappings', mappings.Perm mappings' →
    ((∃ C, contrast mappings = .ok C) ↔ ∃ C, contrast mappings' = .ok C)
  /-- With distinct names, neither does the contrast. -/
  perm_of_nodup : ∀ mappings mappings', mappings.Perm mappings' →
    (mappings.map (·.target)).Nodup →
    ∀ C, contrast mappings = .ok C ↔ contrast mappings' = .ok C
  /-- The mappings that are not the last of their name may be left out. -/
  latest : ∀ mappings C, contrast mappings = .ok C → contrast (latest mappings) = .ok C
  /-- They may also be anything else that has a contrast. -/
  unique : ∀ mappings mappings' C C', contrast mappings = .ok C → contrast mappings' = .ok C' →
    (∀ name, lastMapping? mappings name = lastMapping? mappings' name) → C = C'

theorem IsProductByName.exists_contrast_iff (h : IsProductByName product)
    {mappings : List (EffectMapping α)} :
    (∃ C, (builtBlocks build mappings >>= product) = .ok C) ↔
      (∀ m ∈ mappings, ∃ b, build m = .ok b) ∧ ∃ C, product [] = .ok C := by
  rw [← exists_builtBlocks_iff]
  simp only [Except.bind_eq_ok_iff]
  constructor
  · rintro ⟨C, tested, htested, hC⟩
    exact ⟨⟨tested, htested⟩, h.total tested [] C hC⟩
  · rintro ⟨⟨tested, htested⟩, C, hC⟩
    obtain ⟨C', hC'⟩ := h.total [] tested C hC
    exact ⟨C', tested, htested, hC'⟩

/-- A product of what mappings put under test by name is an interaction by name. -/
theorem IsProductByName.isInteractionByName (h : IsProductByName product)
    (build : EffectMapping α → Except (Fault α) (Mat α)) :
    IsInteractionByName fun mappings => builtBlocks build mappings >>= product := by
  have hunique : ∀ mappings mappings' C C', (builtBlocks build mappings >>= product) = .ok C →
      (builtBlocks build mappings' >>= product) = .ok C' →
      (∀ name, lastMapping? mappings name = lastMapping? mappings' name) → C = C' := by
    intro mappings mappings' C C' hC hC' hsame
    obtain ⟨tested, htested, hC⟩ := Except.bind_eq_ok_iff.mp hC
    obtain ⟨tested', htested', hC'⟩ := Except.bind_eq_ok_iff.mp hC'
    rw [h.congr _ _ (lookup_builtBlocks_congr htested htested' hsame)] at hC
    exact Except.ok.inj (hC.symm.trans hC')
  have hperm : ∀ mappings mappings', mappings.Perm mappings' →
      ((∃ C, (builtBlocks build mappings >>= product) = .ok C) ↔
        ∃ C, (builtBlocks build mappings' >>= product) = .ok C) := by
    intro mappings mappings' hperm
    rw [h.exists_contrast_iff, h.exists_contrast_iff]
    simp only [hperm.mem_iff]
  refine ⟨hperm, ?_, ?_, hunique⟩
  · intro mappings mappings' hsame hnodup C
    have hlast := lastMapping?_perm hsame hnodup
    constructor
    · intro hC
      obtain ⟨C', hC'⟩ := (hperm _ _ hsame).mp ⟨C, hC⟩
      rw [hunique _ _ _ _ hC hC' hlast]
      exact hC'
    · intro hC
      obtain ⟨C', hC'⟩ := (hperm _ _ hsame).mpr ⟨C, hC⟩
      rw [← hunique _ _ _ _ hC' hC hlast]
      exact hC'
  · intro mappings C hC
    obtain ⟨hbuild, hproduct⟩ := h.exists_contrast_iff.mp ⟨C, hC⟩
    obtain ⟨C', hC'⟩ := h.exists_contrast_iff.mpr
      ⟨fun m hm => hbuild m (mem_of_mem_latest hm), hproduct⟩
    rw [← hunique _ _ _ _ hC' hC (lastMapping?_latest mappings)]
    exact hC'

end Products

/-! ### Between participants -/

variable [Scalar α]

/-- There is a product when each factor has an average. -/
theorem exists_between_iff {tested : Blocks α} {factors : List Factor} :
    (∃ C, between tested factors = .ok C) ↔
      ∀ f ∈ factors, ∃ mean, average (α := α) (.int f.levels) = .ok mean := by
  have hblock : ∀ f, (∃ b, factorBlock tested f = .ok b) ↔
      ∃ mean, average (α := α) (.int f.levels) = .ok mean := by
    intro f
    unfold factorBlock
    simp only [Except.bind_eq_ok_iff, Except.pure_eq_ok_iff]
    constructor
    · rintro ⟨_, mean, hmean, -⟩
      exact ⟨mean, hmean⟩
    · rintro ⟨mean, hmean⟩
      exact ⟨_, mean, hmean, rfl⟩
  simp only [← hblock, ← List.exists_forall₂_iff]
  unfold between
  simp only [Except.bind_eq_ok_iff, Except.pure_eq_ok_iff, List.mapM_eq_ok_iff]
  constructor
  · rintro ⟨_, blocks, hblocks, -⟩
    exact ⟨blocks, hblocks⟩
  · rintro ⟨blocks, hblocks⟩
    exact ⟨_, blocks, hblocks, rfl⟩

theorem isProductByName_between (factors : List Factor) :
    IsProductByName fun tested : Blocks α => between tested factors where
  congr := by
    intro tested tested' hsame
    have hblock : factorBlock tested = factorBlock tested' := by
      funext f
      unfold factorBlock
      rw [hsame]
    unfold between
    rw [hblock]
  total := fun _ _ C hC => exists_between_iff.mpr (exists_between_iff.mp ⟨C, hC⟩)

/-- A trend is the interaction of its mapping. -/
theorem betweenTrend_eq (m : EffectMapping α) (factors : List Factor) :
    betweenTrend m factors = betweenInteraction [m] factors := by
  unfold betweenTrend betweenInteraction factorTrends
  simp only [List.foldlM_cons, List.foldlM_nil, bind_assoc, pure_bind]

/-- The comparison of the first level with each other level is the main effect. -/
theorem betweenMainEffect_eq (name : String) (factors : List Factor) :
    betweenMainEffect name factors =
      betweenTrend (⟨name, .known .none⟩ : EffectMapping α) factors := by
  unfold betweenMainEffect betweenTrend factorTrend
  simp only [bind_assoc]
  refine bind_congr fun f => ?_
  have hcount : (factorPoints f : Points α).count = .ok f.levels := by
    simp [factorPoints, Points.equallySpaced, Points.ofList]
  unfold trend
  rw [hcount]
  rfl

/-! ### Within participants -/

/-- There is a product when each dimension has an average. -/
theorem exists_within_iff {tested : Blocks α} {measures : List (RepeatedMeasure α)}
    {responses : List String} : (∃ U, within tested measures responses = .ok U) ↔
      ∀ m ∈ measures, ∃ mean, average m.count = .ok mean := by
  have hblock : ∀ m, (∃ b, measureBlock tested m = .ok b) ↔ ∃ mean, average m.count = .ok mean := by
    intro m
    unfold measureBlock
    simp only [Except.bind_eq_ok_iff, Except.pure_eq_ok_iff]
    constructor
    · rintro ⟨_, mean, hmean, -⟩
      exact ⟨mean, hmean⟩
    · rintro ⟨mean, hmean⟩
      exact ⟨_, mean, hmean, rfl⟩
  simp only [← hblock, ← List.exists_forall₂_iff]
  unfold within
  simp only [Except.bind_eq_ok_iff, Except.pure_eq_ok_iff, List.mapM_eq_ok_iff]
  constructor
  · rintro ⟨_, blocks, hblocks, -⟩
    exact ⟨blocks, hblocks⟩
  · rintro ⟨blocks, hblocks⟩
    exact ⟨_, blocks, hblocks, rfl⟩

theorem isProductByName_within (measures : List (RepeatedMeasure α)) (responses : List String) :
    IsProductByName fun tested : Blocks α => within tested measures responses where
  congr := by
    intro tested tested' hsame
    have hblock : measureBlock tested = measureBlock tested' := by
      funext m
      unfold measureBlock
      rw [hsame]
    unfold within
    rw [hblock]
  total := fun _ _ U hU => exists_within_iff.mpr (exists_within_iff.mp ⟨U, hU⟩)

/-- The dimension has measurements, and if their points are declared, as many points. -/
structure RepeatedMeasure.IsMeasured (m : RepeatedMeasure α) : Prop where
  /-- There is a number of measurements. -/
  count : ∃ n : ℕ, m.count = .int n ∧ 1 ≤ n
  /-- Each measurement has its point. -/
  spacing : SpacingFits m

theorem RepeatedMeasure.IsMeasured.points {m : RepeatedMeasure α} (h : m.IsMeasured) :
    ∃ (n : ℕ) (points : Points α), m.count = .int n ∧ m.points = .ok points ∧
      points.count = .ok n := by
  obtain ⟨⟨n, hcount, -⟩, hspacing⟩ := h
  unfold RepeatedMeasure.points
  cases hds : m.spacing with
  | none =>
    rw [hcount]
    exact ⟨n, _, rfl, rfl, by simp [Points.equallySpaced, Points.ofList]⟩
  | some ds => exact ⟨ds.length, _, hspacing ds hds, rfl, rfl⟩

/-- A trend is the interaction of its mapping. -/
theorem withinTrend_eq (m : EffectMapping α) (measures : List (RepeatedMeasure α))
    (responses : List String) :
    withinTrend m measures responses = withinInteraction [m] measures responses := by
  unfold withinTrend withinInteraction measureTrends
  simp only [List.foldlM_cons, List.foldlM_nil, bind_assoc, pure_bind]

/-- The comparison of the first level with each other level is the main effect, when there are as
many points as measurements. -/
theorem withinMainEffect_eq {measures : List (RepeatedMeasure α)}
    (h : ∀ m ∈ measures, m.IsMeasured) (name : String) (responses : List String) :
    withinMainEffect name measures responses =
      withinTrend ⟨name, .known .none⟩ measures responses := by
  unfold withinMainEffect withinTrend measureTrend
  simp only [bind_assoc]
  cases hfind : findMeasure name measures with
  | error f => rfl
  | ok m =>
    obtain ⟨hm, -⟩ := mem_of_findMeasure hfind
    obtain ⟨n, points, hcount, hpoints, hlevels⟩ := (h m hm).points
    change (mainEffect m.count >>= fun b => within [(name, b)] measures responses) =
      (m.points >>= fun p => trend .none p >>= fun b => within [(name, b)] measures responses)
    rw [hpoints, hcount]
    change _ = (trend .none points >>= _)
    unfold trend
    rw [hlevels]
    rfl

/-! ### All forms -/

/-- **The contrasts of all forms of hypothesis are interactions, which go by the last mapping of
each name.**  Within participants this holds of dimensions that are measured at as many points as
they declare.  The identity over all outcomes, for which no dimension is named, is the only contrast
that is left. -/
theorem contrasts_are_interactions :
    (∀ factors : List Factor,
      betweenGrandMean factors = betweenInteraction ([] : List (EffectMapping α)) factors ∧
      (∀ name, betweenMainEffect name factors =
          betweenInteraction [(⟨name, .known .none⟩ : EffectMapping α)] factors ∧
        betweenManova name factors =
          betweenInteraction [(⟨name, .known .none⟩ : EffectMapping α)] factors) ∧
      (∀ m : EffectMapping α, betweenTrend m factors = betweenInteraction [m] factors) ∧
      IsInteractionByName fun mappings : List (EffectMapping α) =>
        betweenInteraction mappings factors) ∧
    ∀ (measures : List (RepeatedMeasure α)) (responses : List String),
      (∀ m ∈ measures, m.IsMeasured) →
      withinGrandMean measures responses = withinInteraction [] measures responses ∧
      (∀ name, withinMainEffect name measures responses =
        withinInteraction [⟨name, .known .none⟩] measures responses) ∧
      (∀ m, withinTrend m measures responses = withinInteraction [m] measures responses) ∧
      IsInteractionByName fun mappings => withinInteraction mappings measures responses := by
  refine ⟨fun factors => ⟨rfl, fun name => ?_, fun m => betweenTrend_eq m factors, ?_⟩,
    fun measures responses hmeasured => ⟨rfl, fun name => ?_, fun m => withinTrend_eq m _ _, ?_⟩⟩
  · have hmain := (betweenMainEffect_eq (α := α) name factors).trans (betweenTrend_eq _ factors)
    exact ⟨hmain, hmain⟩
  · exact (isProductByName_between factors).isInteractionByName (factorTrend · factors)
  · exact (withinMainEffect_eq hmeasured name responses).trans (withinTrend_eq _ _ _)
  · exact (isProductByName_within measures responses).isInteractionByName (measureTrend · measures)

/-- The quadratic trend of the dose by sex is the same when the sex is mapped first, and when the
dose has been mapped to a linear trend before; the eyes are compared with each other in one way. -/
theorem contrasts_are_interactions_visits :
    (∃ C, betweenInteraction doseMappings doseFactors = .ok C ∧
      betweenInteraction doseMappings.reverse doseFactors = .ok C ∧
      ∀ C', betweenInteraction (⟨"dose", .known .linear⟩ :: doseMappings) doseFactors = .ok C' →
        C' = C) ∧
    (∀ m ∈ visitMeasures, m.IsMeasured) ∧
    withinMainEffect "eye" visitMeasures ["pain", "sleep"] =
      withinInteraction [⟨"eye", .known .none⟩] visitMeasures ["pain", "sleep"] := by
  obtain ⟨hbetween, hwithin⟩ := contrasts_are_interactions (α := ℚ)
  obtain ⟨-, -, -, hdose⟩ := hbetween doseFactors
  have hmeasured : ∀ m ∈ visitMeasures, m.IsMeasured := by
    intro m hm
    refine ⟨?_, spacingFits_visitMeasures m hm⟩
    rcases List.mem_pair.mp hm with rfl | rfl
    · exact ⟨4, rfl, by decide⟩
    · exact ⟨2, rfl, by decide⟩
  obtain ⟨C, hC⟩ := Except.exists_eq_ok_of_isSome
    (show (betweenInteraction doseMappings doseFactors).toOption.isSome by decide +kernel)
  refine ⟨⟨C, hC, ?_, fun C' hC' => ?_⟩, hmeasured, (hwithin _ _ hmeasured).2.1 "eye"⟩
  · exact (hdose.perm_of_nodup _ _ (List.reverse_perm _).symm (by decide) C).mp hC
  · refine hdose.unique _ _ C' C hC' hC fun name => ?_
    rw [lastMapping?_cons]
    by_cases hname : "dose" = name
    · subst hname
      rfl
    · rw [if_neg hname, Option.or_none]

end StudyPower
