import Mathlib
import StudyPower.Proofs.Bundle.Conformance

/-!
# The size of a sweep

A design is solved for every combination of its sweep lists.  A list with one entry adds no more
cases than none, so taking entries away never adds cases, and a design that was admitted stays
admitted.  What the engine receives are the lists of the design, so it has no more cases to solve
than allowed.

## Main definitions

* `StudyDesign.SweepRelated R S d' d` — `d'` and `d` differ in sweep lists only, which are related.
* `StudyDesign.Trims d' d` — `d'` is `d` after entries of its sweep lists were removed.
* `StudyDesign.SweepsAlike d' d` — they differ at most in lists of no more than one entry.
* `Bundle.sweepSize` — the number of cases that a bundle asks for.

## Main statements

* `StudyDesign.caseCount_le_of_forall₂` — no more entries in each dimension, no more cases.
* `StudyDesign.Trims.caseCount_le`, `StudyDesign.SweepsAlike.caseCount_eq` — how the number of cases
  follows the lists.
* `StudyDesign.Trims.admissible` — what was admitted stays so.
* `StudyDesign.sweep_size` — **the number of cases, from the design to the engine.**
-/

namespace StudyPower

open List (Forall₂)

/-! ### Weights -/

theorem weight_mono : Monotone (weight : ℕ → ℕ) := by
  intro m n h
  rw [weight_eq_max, weight_eq_max]
  exact max_le_max_left 1 h

theorem one_le_weight (n : ℕ) : 1 ≤ weight n := by
  rw [weight_eq_max]
  exact le_max_left 1 n

theorem le_weight (n : ℕ) : n ≤ weight n := by
  rw [weight_eq_max]
  exact le_max_right 1 n

/-! ### Lists that are related -/

/-- The first list is the second after entries were removed. -/
def Fewer {β : Type} (xs' xs : Option (List β)) : Prop := (xs'.getD []).Sublist (xs.getD [])

/-- Two lists are the same, or neither has more than one entry. -/
def SameOrShort {β : Type} (xs' xs : Option (List β)) : Prop :=
  xs' = xs ∨ listSize xs' ≤ 1 ∧ listSize xs ≤ 1

theorem Fewer.listSize_le {β : Type} {xs' xs : Option (List β)} (h : Fewer xs' xs) :
    listSize xs' ≤ listSize xs :=
  List.Sublist.length_le h

theorem SameOrShort.weight_eq {β : Type} {xs' xs : Option (List β)} (h : SameOrShort xs' xs) :
    weight (listSize xs') = weight (listSize xs) := by
  rcases h with rfl | ⟨h', h⟩
  · rfl
  · rw [weight_eq_max, weight_eq_max, max_eq_left h', max_eq_left h]

namespace StudyDesign

variable {α : Type}

/-- Two designs differ in their sweep lists only, of which the power methods and the quantiles are
related by `S` and the others by `R`. -/
structure SweepRelated (R S : {β : Type} → Option (List β) → Option (List β) → Prop)
    (d' d : StudyDesign α) : Prop where
  /-- Nothing else differs. -/
  rest : d' = { d with
    tests := d'.tests, alphas := d'.alphas, nominalPowers := d'.nominalPowers
    sampleSizes := d'.sampleSizes, betaScales := d'.betaScales, sigmaScales := d'.sigmaScales
    powerMethods := d'.powerMethods, quantiles := d'.quantiles }
  /-- The tests are related. -/
  tests : R d'.tests d.tests
  /-- The error rates are related. -/
  alphas : R d'.alphas d.alphas
  /-- The desired powers are related. -/
  nominalPowers : R d'.nominalPowers d.nominalPowers
  /-- The group sizes are related. -/
  sampleSizes : R d'.sampleSizes d.sampleSizes
  /-- The scale factors for means are related. -/
  betaScales : R d'.betaScales d.betaScales
  /-- The scale factors for variability are related. -/
  sigmaScales : R d'.sigmaScales d.sigmaScales
  /-- The power methods are related. -/
  powerMethods : S d'.powerMethods d.powerMethods
  /-- The quantiles are related. -/
  quantiles : S d'.quantiles d.quantiles

/-- `d'` is `d` after entries of its sweep lists were removed. -/
def Trims (d' d : StudyDesign α) : Prop := SweepRelated Fewer Fewer d' d

/-- Two designs differ at most in sweep lists of no more than one entry, other than the power
methods and the quantiles. -/
def SweepsAlike (d' d : StudyDesign α) : Prop := SweepRelated SameOrShort Eq d' d

variable {d d' : StudyDesign α}

theorem SweepRelated.goal {R S : {β : Type} → Option (List β) → Option (List β) → Prop}
    (h : SweepRelated R S d' d) : d'.goal = d.goal := by rw [h.rest]

/-! ### Cases of designs -/

theorem one_le_caseCount (d : StudyDesign α) : 1 ≤ d.caseCount := by
  rw [caseCount_eq_prod]
  refine List.one_le_prod_of_one_le fun w hw => ?_
  obtain ⟨side, -, rfl⟩ := List.mem_map.mp hw
  exact one_le_weight side.count

theorem count_le_caseCount {side : SweepSide} (h : side ∈ d.sides) :
    side.count ≤ d.caseCount := by
  have hdvd : weight side.count ∣ d.caseCount := by
    rw [caseCount_eq_prod]
    exact List.dvd_prod (List.mem_map_of_mem h)
  exact (le_weight side.count).trans (Nat.le_of_dvd (one_le_caseCount d) hdvd)

/-- No more entries in each dimension make no more cases. -/
theorem caseCount_le_of_forall₂ (h : Forall₂ (fun s' s => s'.count ≤ s.count) d'.sides d.sides) :
    d'.caseCount ≤ d.caseCount := by
  rw [caseCount_eq_prod, caseCount_eq_prod]
  refine List.Forall₂.prod_le_prod' ?_
  rw [List.forall₂_map_left_iff, List.forall₂_map_right_iff]
  exact h.imp fun s' s hs => weight_mono hs

/-- Fewer methods and quantiles are counted less, whichever of them is removed. -/
theorem powerMethodCount_le (hmethods : Fewer d'.powerMethods d.powerMethods)
    (hquantiles : Fewer d'.quantiles d.quantiles) : d'.powerMethodCount ≤ d.powerMethodCount := by
  have hcontains (m : PowerMethod) : (d'.powerMethods.getD []).contains m = true →
      (d.powerMethods.getD []).contains m = true := by
    rw [List.contains_iff_mem, List.contains_iff_mem]
    exact fun hm => hmethods.subset hm
  have hsize := hquantiles.listSize_le
  unfold powerMethodCount
  dsimp only
  refine Nat.add_le_add ?_ ?_
  · split
    · next h => rw [if_pos (hcontains _ h)]
    · exact Nat.zero_le _
  · split
    · next h => rwa [if_pos (hcontains _ h)]
    · exact Nat.zero_le _

theorem Trims.caseCount_le (h : d'.Trims d) : d'.caseCount ≤ d.caseCount := by
  have hunits : d'.unitSide.count ≤ d.unitSide.count := by
    unfold unitSide
    rw [h.goal]
    split
    · exact h.sampleSizes.listSize_le
    · exact h.nominalPowers.listSize_le
    · exact le_refl 0
  refine caseCount_le_of_forall₂ ?_
  unfold sides
  exact .cons hunits <| .cons h.tests.listSize_le <| .cons h.alphas.listSize_le <|
    .cons h.betaScales.listSize_le <| .cons h.sigmaScales.listSize_le <|
    .cons (powerMethodCount_le h.powerMethods h.quantiles) .nil

/-- An absent list, an empty one and one entry make as many cases. -/
theorem SweepsAlike.caseCount_eq (h : d'.SweepsAlike d) : d'.caseCount = d.caseCount := by
  have hunits : weight d'.unitSide.count = weight d.unitSide.count := by
    unfold unitSide
    rw [h.goal]
    split
    · exact h.sampleSizes.weight_eq
    · exact h.nominalPowers.weight_eq
    · rfl
  have hmethods : d'.powerMethodCount = d.powerMethodCount := by
    unfold powerMethodCount
    rw [h.powerMethods, h.quantiles]
  rw [caseCount_eq_prod, caseCount_eq_prod]
  unfold sides
  simp only [List.map_cons, List.map_nil, hunits, h.tests.weight_eq, h.alphas.weight_eq,
    h.betaScales.weight_eq, h.sigmaScales.weight_eq, hmethods]

/-- A design that is within some limits stays so with fewer entries and higher limits. -/
theorem Trims.admissible (h : d'.Trims d) {limits limits' : Limits} (hd : d.Admissible limits)
    (hgroups : limits.maxGroups ≤ limits'.maxGroups) (hcases : limits.maxCases ≤ limits'.maxCases) :
    d'.Admissible limits' where
  dimensions := by
    rw [h.rest]
    exact hd.dimensions
  covariances := by
    rw [h.rest]
    exact hd.covariances
  groups := by
    rw [h.rest]
    exact hd.groups.trans hgroups
  cases := by
    have hwithin := hd.cases
    rw [← caseCount_eq_prod_sweepSizes] at hwithin ⊢
    have hle : (d'.caseCount : ℤ) ≤ d.caseCount := Nat.cast_le.mpr h.caseCount_le
    exact hle.trans (hwithin.trans hcases)

end StudyDesign

/-! ### Cases of bundles -/

namespace Bundle

variable {α : Type}

/-- The number of entries of the list that the goal sweeps over. -/
def unitCount (b : Bundle α) : ℕ :=
  match b.goal with
  | .power => b.sampleSizes.length
  | .sampleSize => b.nominalPowers.length
  | .detectableDifference => 0

/-- The number of cases that the lists of a bundle ask for, apart from the power methods. -/
def sweepSize (b : Bundle α) : ℕ :=
  max 1 b.unitCount * max 1 b.tests.length * max 1 b.alphas.length * max 1 b.betaScales.length *
    max 1 b.sigmaScales.length

end Bundle

namespace StudyDesign

variable {α : Type} {d : StudyDesign α} {b : Bundle α}

theorem Sweeps.unitCount (h : d.Sweeps b) : b.unitCount = d.unitSide.count := by
  unfold Bundle.unitCount unitSide
  rw [h.goal, h.sampleSizes, h.nominalPowers]
  cases d.goal <;> rfl

/-- The power methods only add to the cases of a bundle. -/
theorem Sweeps.sweepSize_le (h : d.Sweeps b) : b.sweepSize ≤ d.caseCount := by
  have hproduct : d.caseCount = b.sweepSize * weight d.powerMethodCount := by
    rw [caseCount_eq_prod]
    unfold Bundle.sweepSize sides listSize
    rw [h.unitCount, h.tests, h.alphas, h.betaScales, h.sigmaScales]
    simp only [List.map_cons, List.map_nil, List.prod_cons, List.prod_nil, weight_eq_max]
    ring
  rw [hproduct]
  exact Nat.le_mul_of_pos_right _ (one_le_weight _)

/-- **The number of cases, from the design to the engine.**  There is at least one, and at least as
many as any dimension of the sweep has entries.  Removing entries adds none, a list with one entry
makes as many as none, so what was admitted stays so with fewer entries and higher limits.  A bundle
asks for no more cases than allowed. -/
theorem sweep_size [Scalar α] (d : StudyDesign α) :
    1 ≤ d.caseCount ∧ (∀ side ∈ d.sides, side.count ≤ d.caseCount) ∧
      (∀ d', Trims d' d → d'.caseCount ≤ d.caseCount) ∧
      (∀ d', SweepsAlike d' d → d'.caseCount = d.caseCount) ∧
      (∀ limits, (d.screen limits).outcome = .ok () → ∀ d' limits', Trims d' d →
        limits.maxGroups ≤ limits'.maxGroups → limits.maxCases ≤ limits'.maxCases →
          (d'.screen limits').outcome = .ok ()) ∧
      ∀ limits b, (d.assemble limits).outcome = .ok b → (b.sweepSize : ℤ) ≤ limits.maxCases := by
  refine ⟨one_le_caseCount d, fun side => count_le_caseCount, fun d' h => h.caseCount_le,
    fun d' h => h.caseCount_eq, fun limits hd d' limits' h hgroups hcases => ?_,
    fun limits b hb => ?_⟩
  · rw [outcome_screen, checkAdmissible_eq_ok_iff] at hd ⊢
    exact h.admissible hd hgroups hcases
  · have hcases := (checkAdmissible_eq_ok_iff.mp (assembled_of_ok hb).admissible).cases
    rw [← caseCount_eq_prod_sweepSizes] at hcases
    have hle : (b.sweepSize : ℤ) ≤ d.caseCount := Nat.cast_le.mpr (sweeps_of_ok hb).sweepSize_le
    exact hle.trans hcases

/-- The trial in schools, solved for three group sizes, two tests and two error rates, with power
averaged over the covariate and at one quantile. -/
def sweptSchools : StudyDesign ℚ := { schoolTrial with
  tests := some [.hotellingLawley, .wilksLambda]
  alphas := some [1 / 20, 1 / 100]
  sampleSizes := some [.int 5, .int 10, .int 20]
  sigmaScales := some []
  powerMethods := some [.unconditional, .quantile]
  quantiles := some [1 / 4] }

/-- The same trial without one of its error rates and its quantile. -/
def narrowedSchools : StudyDesign ℚ :=
  { sweptSchools with alphas := some [1 / 20], quantiles := none }

/-- The bundle of the trial asks for twelve of its 24 cases.  Fewer entries stay allowed, also where
more are, and scaling the variability once makes as many cases as not at all. -/
theorem sweep_size_sweptSchools :
    (∃ b, (sweptSchools.assemble ⟨4, 24⟩).outcome = .ok b ∧ b.sweepSize = 12 ∧
      (b.sweepSize : ℤ) ≤ 24) ∧
      (narrowedSchools.screen ⟨4, 30⟩).outcome = .ok () ∧
      ({ sweptSchools with sigmaScales := some [2] } : StudyDesign ℚ).caseCount = 24 := by
  obtain ⟨-, -, -, halike, hstays, hbundle⟩ := sweep_size sweptSchools
  refine ⟨?_, ?_, ?_⟩
  · have hsome : (sweptSchools.assemble ⟨4, 24⟩).outcome.toOption.map (·.sweepSize) = some 12 := by
      decide +kernel
    obtain ⟨b, hb, hsize⟩ := Option.map_eq_some_iff.mp hsome
    have hok := Except.eq_ok_of_toOption hb
    exact ⟨b, hok, hsize, hbundle ⟨4, 24⟩ b hok⟩
  · have hsame {β : Type} (xs : Option (List β)) : Fewer xs xs := List.Sublist.refl _
    have htrims : narrowedSchools.Trims sweptSchools :=
      ⟨rfl, hsame _, .cons_cons _ (.cons _ .slnil), hsame _, hsame _, hsame _, hsame _, hsame _,
        .cons _ .slnil⟩
    exact hstays ⟨4, 24⟩ rfl narrowedSchools ⟨4, 30⟩ htrims (by decide) (by decide)
  · exact (halike _ ⟨rfl, .inl rfl, .inl rfl, .inl rfl, .inl rfl, .inl rfl,
      .inr ⟨by decide, by decide⟩, rfl, rfl⟩).trans rfl

end StudyDesign

end StudyPower
