import Mathlib
import StudyPower.Proofs.Failure
import StudyPower.Proofs.Scalar.Exact
import StudyPower.Sweep

/-!
# Admission

A design is admitted when the names of its dimensions and of its covariances are distinct and its
groups and cases are within the limits.  A design that is refused is refused for the first rule that
it breaks.  What the caller learns about a size that is too large are counts that multiply to it:
dimensions of the sweep that are absent count once there, and are left out of the counts.

The sizes of the six dimensions are stated here from the declared lists alone; that the program
counts them so is a lemma.

## Main definitions

* `FirstRepeat names x` — `x` is the earliest member of `names` that repeats an earlier one.
* `PowerMethod.share` — what a declared power method adds to the cases.
* `StudyDesign.sweepSizes` — the six dimensions of the sweep by name, with their sizes.
* `StudyDesign.Admissible d limits` — the four rules.
* `StudyDesign.RefusedFor d limits f` — the fault `f` reports the first rule that `d` breaks.

## Main statements

* `firstRepeated?_eq_none_iff`, `exists_of_firstRepeated?` — what the search for a repeated name
  finds.
* `prod_present` — the sizes of the dimensions that are there multiply to the number of cases.
* `StudyDesign.map_sides` — the program counts the six dimensions by their sizes.
* `StudyDesign.screen_reports` — **a design is admitted exactly when it keeps the four rules, and
  otherwise the fault reports the first one that it breaks.**
-/

namespace StudyPower

open Except

variable {α : Type}

/-! ### Distinct names -/

/-- `x` is the earliest member of `names` that repeats an earlier one. -/
def FirstRepeat (names : List String) (x : String) : Prop :=
  ∃ before after, names = before ++ x :: after ∧ before.Nodup ∧ x ∈ before

theorem firstRepeated?_eq_none_iff {seen names : List String} :
    firstRepeated? seen names = none ↔ names.Nodup ∧ ∀ x ∈ names, x ∉ seen := by
  induction names generalizing seen with
  | nil => exact iff_of_true rfl ⟨List.nodup_nil, fun x hx => absurd hx List.not_mem_nil⟩
  | cons x names ih =>
    rw [firstRepeated?, List.nodup_cons, List.forall_mem_cons]
    split
    · next hseen =>
      rw [List.contains_iff_mem] at hseen
      exact iff_of_false (Option.some_ne_none x) fun h => h.2.1 hseen
    · next hnew =>
      rw [List.contains_iff_mem] at hnew
      rw [ih]
      -- a later member differs from `x` and from what was seen before
      constructor
      · rintro ⟨hnodup, hlater⟩
        refine ⟨⟨fun hx => hlater x hx List.mem_cons_self, hnodup⟩, hnew, fun y hy hmem => ?_⟩
        exact hlater y hy (List.mem_cons_of_mem x hmem)
      · rintro ⟨⟨hx, hnodup⟩, -, hlater⟩
        refine ⟨hnodup, fun y hy hmem => ?_⟩
        rcases List.mem_cons.mp hmem with rfl | hmem
        · exact hx hy
        · exact hlater y hy hmem

/-- The search stops at the first name that was seen before. -/
theorem exists_of_firstRepeated? {seen names : List String} {x : String}
    (h : firstRepeated? seen names = some x) :
    ∃ before after, names = before ++ x :: after ∧ before.Nodup ∧ (∀ y ∈ before, y ∉ seen) ∧
      (x ∈ seen ∨ x ∈ before) := by
  induction names generalizing seen with
  | nil => cases h
  | cons y names ih =>
    rw [firstRepeated?] at h
    split at h
    · next hseen =>
      obtain rfl := Option.some.inj h
      rw [List.contains_iff_mem] at hseen
      exact ⟨[], names, rfl, List.nodup_nil, fun z hz => absurd hz List.not_mem_nil, .inl hseen⟩
    · next hnew =>
      rw [List.contains_iff_mem] at hnew
      obtain ⟨before, after, rfl, hnodup, hlater, hx⟩ := ih h
      refine ⟨y :: before, after, rfl, ?_, ?_, ?_⟩
      · exact List.nodup_cons.mpr ⟨fun hy => hlater y hy List.mem_cons_self, hnodup⟩
      · exact List.forall_mem_cons.mpr
          ⟨hnew, fun z hz hmem => hlater z hz (List.mem_cons_of_mem y hmem)⟩
      · rw [List.mem_cons] at hx ⊢
        rcases hx with (rfl | hseen) | hbefore
        · exact .inr (.inl rfl)
        · exact .inl hseen
        · exact .inr (.inr hbefore)

theorem checkDistinct_eq_ok_iff {names : List String} {fault : String → Fault α} :
    checkDistinct names fault = .ok () ↔ names.Nodup := by
  have hnone : firstRepeated? [] names = none ↔ names.Nodup := by simp [firstRepeated?_eq_none_iff]
  rw [← hnone, checkDistinct]
  split
  · next h => exact iff_of_true rfl h
  · next x h => exact iff_of_false (by simp) (by simp [h])

theorem checkDistinct_failsWith {names : List String} {fault : String → Fault α}
    {P : Fault α → Prop} (h : ∀ x, FirstRepeat names x → P (fault x)) :
    FailsWith P (checkDistinct names fault) := by
  unfold checkDistinct
  split
  · exact FailsWith.ok _
  · next x hx =>
    obtain ⟨before, after, hnames, hnodup, -, hseen | hbefore⟩ := exists_of_firstRepeated? hx
    · exact absurd hseen List.not_mem_nil
    · exact FailsWith.error (h x ⟨before, after, hnames, hnodup, hbefore⟩)

/-! ### Sizes -/

theorem weight_eq_max (n : ℕ) : weight n = max 1 n := by
  unfold weight
  split <;> omega

/-- The sizes of the dimensions that are there multiply to the product of all, where an absent one
counts once. -/
theorem prod_present (sizes : List (String × ℕ)) :
    ((sizes.filter fun size => size.2 ≠ 0).map (·.2)).prod =
      (sizes.map fun size => max 1 size.2).prod := by
  induction sizes with
  | nil => rfl
  | cons size sizes ih =>
    rw [List.map_cons, List.prod_cons, ← ih]
    by_cases h : size.2 = 0
    · rw [List.filter_cons_of_neg (by simpa using h), h, max_eq_left (Nat.zero_le 1), Nat.one_mul]
    · rw [List.filter_cons_of_pos (by simpa using h), max_eq_right (Nat.one_le_iff_ne_zero.mpr h),
        List.map_cons, List.prod_cons]

/-- The number of entries of a list of the sweep; an absent list has none. -/
def entryCount {β : Type} (values : Option (List β)) : ℕ := values.elim 0 List.length

theorem listSize_eq {β : Type} (values : Option (List β)) :
    listSize values = entryCount values := by
  cases values <;> rfl

/-- What a declared power method adds to the cases: conditional power nothing, unconditional power
one, and a quantile of the power one for each of the quantiles. -/
def PowerMethod.share (quantiles : Option (List α)) : PowerMethod → ℕ
  | .conditional => 0
  | .unconditional => 1
  | .quantile => entryCount quantiles

namespace StudyDesign

variable {d : StudyDesign α} {limits : Limits}

/-- The dimensions of the sweep by name, each with its size.  The units are what the goal sweeps
over, and a power method counts for its share however often it is declared. -/
def sweepSizes (d : StudyDesign α) : List (String × ℕ) := [
  match d.goal with
    | .power => ("Group Sizes", entryCount d.sampleSizes)
    | .sampleSize => ("Desired Powers", entryCount d.nominalPowers)
    | .detectableDifference => ("Units", 0),
  ("Statistical Tests", entryCount d.tests),
  ("Type I Error Rates", entryCount d.alphas),
  ("Scale Factors for Means", entryCount d.betaScales),
  ("Scale Factors for Variability", entryCount d.sigmaScales),
  ("Power Methods", ∑ method ∈ (d.powerMethods.getD []).toFinset, method.share d.quantiles)]

theorem powerMethodCount_eq_sum (d : StudyDesign α) :
    d.powerMethodCount =
      ∑ method ∈ (d.powerMethods.getD []).toFinset, method.share d.quantiles := by
  -- the sum runs over three methods at most
  have hmethods : (d.powerMethods.getD []).toFinset =
      ({.conditional, .unconditional, .quantile} : Finset PowerMethod).filter
        fun method => method ∈ d.powerMethods.getD [] := by
    ext method
    cases method <;> simp
  rw [hmethods, Finset.sum_filter]
  unfold powerMethodCount
  simp [PowerMethod.share, listSize_eq]

/-- The program counts the six dimensions by their sizes. -/
theorem map_sides (d : StudyDesign α) :
    (d.sides.map fun side => (side.plural, side.count)) = d.sweepSizes := by
  have hunits : (d.unitSide.plural, d.unitSide.count) = match d.goal with
      | .power => ("Group Sizes", entryCount d.sampleSizes)
      | .sampleSize => ("Desired Powers", entryCount d.nominalPowers)
      | .detectableDifference => ("Units", 0) := by
    unfold unitSide
    cases d.goal <;> simp only [listSize_eq]
  unfold sides sweepSizes
  simp only [List.map_cons, List.map_nil, hunits, listSize_eq, powerMethodCount_eq_sum]

theorem groupCount_eq_prod (d : StudyDesign α) : d.groupCount = (d.factors.map (·.levels)).prod :=
  List.prod_eq_foldl.symm

theorem caseCount_eq_prod (d : StudyDesign α) :
    d.caseCount = (d.sides.map fun side => weight side.count).prod :=
  List.prod_eq_foldl.symm

theorem caseCount_eq_prod_sweepSizes (d : StudyDesign α) :
    d.caseCount = (d.sweepSizes.map fun size => max 1 size.2).prod := by
  rw [caseCount_eq_prod, ← map_sides, List.map_map]
  simp only [weight_eq_max]
  rfl

/-- The rules on a design as a whole. -/
structure Admissible (d : StudyDesign α) (limits : Limits) : Prop where
  /-- The dimensions have distinct names. -/
  dimensions : (d.measures.map (·.dimension)).Nodup
  /-- The covariances have distinct names. -/
  covariances : (d.covariances.map (·.name)).Nodup
  /-- The categories of the factors multiply to no more groups than allowed. -/
  groups : (((d.factors.map (·.levels)).prod : ℕ) : ℤ) ≤ limits.maxGroups
  /-- The sizes of the sweep multiply to no more cases than allowed, an absent dimension counting
  once. -/
  cases : (((d.sweepSizes.map fun size => max 1 size.2).prod : ℕ) : ℤ) ≤ limits.maxCases

theorem checkAdmissible_eq_ok_iff : d.checkAdmissible limits = .ok () ↔ d.Admissible limits := by
  unfold checkAdmissible checkGroupCount checkCaseCount
  simp only [check_bind_eq_ok_iff, checkDistinct_eq_ok_iff, ite_eq_left_iff, reduceCtorEq,
    imp_false, not_not, groupCount_eq_prod, caseCount_eq_prod_sweepSizes]
  exact ⟨fun ⟨h₁, h₂, h₃, h₄⟩ => ⟨h₁, h₂, h₃, h₄⟩, fun ⟨h₁, h₂, h₃, h₄⟩ => ⟨h₁, h₂, h₃, h₄⟩⟩

/-- The dimensions of an admitted design have distinct names. -/
theorem nodup_of_checkAdmissible (h : d.checkAdmissible limits = .ok ()) :
    (d.measures.map (·.dimension)).Nodup :=
  (checkAdmissible_eq_ok_iff.mp h).dimensions

@[simp] theorem outcome_screen (d : StudyDesign α) (limits : Limits) :
    (d.screen limits).outcome = d.checkAdmissible limits := by
  simp [screen]

/-! ### Refusals -/

/-- The fault tells the caller that `actual` is beyond `limit`, and counts that multiply to it. -/
structure Exceeds (f : Fault α) (limit : ℤ) (actual : ℕ) (breakdown : List (String × ℕ)) :
    Prop where
  /-- The fault says that the design is too large. -/
  kind : f.kind = .size
  /-- It carries the limit, the actual size and the counts. -/
  excess : f.excess? = some ⟨limit, actual, breakdown⟩
  /-- The actual size is beyond the limit. -/
  exceeds : limit < actual
  /-- The counts multiply to the actual size. -/
  product : (breakdown.map (·.2)).prod = actual

variable [Scalar α]

/-- The fault `f` reports the first rule that the design breaks. -/
inductive RefusedFor (d : StudyDesign α) (limits : Limits) (f : Fault α) : Prop
  /-- A dimension has the name of an earlier one. -/
  | dimension (x : String) (repeats : FirstRepeat (d.measures.map (·.dimension)) x)
      (kind : f.kind = .validation)
      (message : f.message = "Duplicate repeated measures dimension " ++ Text.quoted x)
  /-- A covariance has the name of an earlier one. -/
  | covariance (x : String) (dimensions : (d.measures.map (·.dimension)).Nodup)
      (repeats : FirstRepeat (d.covariances.map (·.name)) x) (kind : f.kind = .validation)
      (message : f.message = "Duplicate covariance name " ++ Text.quoted x)
  /-- There are too many groups: every factor is counted. -/
  | groups (dimensions : (d.measures.map (·.dimension)).Nodup)
      (covariances : (d.covariances.map (·.name)).Nodup)
      (exceeds : Exceeds f limits.maxGroups (d.factors.map (·.levels)).prod
        (d.factors.map fun factor => (factor.name, factor.levels)))
  /-- There are too many cases: the dimensions of the sweep that are there are counted. -/
  | cases (dimensions : (d.measures.map (·.dimension)).Nodup)
      (covariances : (d.covariances.map (·.name)).Nodup)
      (groups : (((d.factors.map (·.levels)).prod : ℕ) : ℤ) ≤ limits.maxGroups)
      (exceeds : Exceeds f limits.maxCases (d.sweepSizes.map fun size => max 1 size.2).prod
        (d.sweepSizes.filter fun size => size.2 ≠ 0))

theorem RefusedFor.isInvalidDesign {f : Fault α} (h : d.RefusedFor limits f) :
    f.isInvalidDesign = true := by
  unfold Fault.isInvalidDesign
  cases h with
  | dimension x repeats kind message => rw [kind]
  | covariance x dimensions repeats kind message => rw [kind]
  | groups dimensions covariances exceeds => rw [exceeds.kind]
  | cases dimensions covariances groups exceeds => rw [exceeds.kind]

/-- Every rule is looked at when the rules before it are kept. -/
theorem checkAdmissible_failsWith_refusedFor :
    FailsWith (d.RefusedFor limits) (d.checkAdmissible limits) := by
  unfold checkAdmissible
  refine FailsWith.bind (checkDistinct_failsWith fun x hx => .dimension x hx rfl rfl)
    fun _ hdimensions => ?_
  have hdimensions := checkDistinct_eq_ok_iff.mp hdimensions
  refine FailsWith.bind (checkDistinct_failsWith fun x hx => .covariance x hdimensions hx rfl rfl)
    fun _ hcovariances => ?_
  have hcovariances := checkDistinct_eq_ok_iff.mp hcovariances
  unfold checkGroupCount checkCaseCount
  rw [groupCount_eq_prod, caseCount_eq_prod_sweepSizes]
  split
  · next hgroups =>
    refine FailsWith.bind (FailsWith.ok _) fun _ _ => ?_
    split
    · exact FailsWith.ok _
    · next hcases =>
      have hpresent : ((d.sides.filter fun side => side.count ≠ 0).map fun side =>
          (side.plural, side.count)) = d.sweepSizes.filter fun size => size.2 ≠ 0 := by
        rw [← map_sides, List.filter_map]
        rfl
      refine FailsWith.error (.cases hdimensions hcovariances hgroups ⟨rfl, ?_, ?_, ?_⟩)
      · rw [← hpresent]
        rfl
      · exact not_le.mp hcases
      · exact prod_present d.sweepSizes
  · next hgroups =>
    refine FailsWith.bind (FailsWith.error ?_) fun _ h => ?_
    · refine .groups hdimensions hcovariances ⟨rfl, rfl, not_le.mp hgroups, ?_⟩
      rw [List.map_map]
      rfl
    · cases h

/-- **A design is admitted exactly when it keeps the four rules, and otherwise the fault reports the
first one that it breaks**, whatever the rules after it say. -/
theorem screen_reports (d : StudyDesign α) (limits : Limits) :
    ((d.screen limits).outcome = .ok () ↔ d.Admissible limits) ∧
      ∀ f, (d.screen limits).outcome = .error f → d.RefusedFor limits f := by
  rw [outcome_screen]
  exact ⟨checkAdmissible_eq_ok_iff, checkAdmissible_failsWith_refusedFor⟩

/-- A trial of two doses in either sex, solved for three group sizes, two tests and two error
rates, with power averaged over the covariate, which is declared twice, and at two quantiles. -/
def sweptTrial : StudyDesign ℚ where
  view := .guided
  goal := .power
  covariateFlag := .bool true
  factors := [⟨"dose", 2⟩, ⟨"sex", 2⟩]
  measures := []
  clusters := []
  responses := ["y"]
  covariances := []
  groupSizes := none
  hypotheses := []
  matrices := []
  tests := some [.hotellingLawley, .wilksLambda]
  alphas := some [1 / 20, 1 / 100]
  nominalPowers := none
  sampleSizes := some [.int 5, .int 10, .int 20]
  betaScales := none
  sigmaScales := some []
  powerMethods := some [.unconditional, .conditional, .quantile, .unconditional]
  quantiles := some [1 / 4, 1 / 2]
  interval := none

/-- The four groups of the trial are allowed, its 36 cases are not: the four dimensions of its sweep
are counted, conditional power for nothing and the two others once for each and for each quantile.
Where 36 cases are allowed the trial is admitted. -/
theorem screen_reports_sweptTrial :
    (∃ f, (sweptTrial.screen ⟨4, 10⟩).outcome = .error f ∧ sweptTrial.RefusedFor ⟨4, 10⟩ f ∧
      f.excess? = some ⟨10, 36, [("Group Sizes", 3), ("Statistical Tests", 2),
        ("Type I Error Rates", 2), ("Power Methods", 3)]⟩) ∧
      sweptTrial.Admissible ⟨4, 36⟩ := by
  refine ⟨?_, (screen_reports sweptTrial ⟨4, 36⟩).1.mp rfl⟩
  obtain ⟨f, hf⟩ : ∃ f, (sweptTrial.screen ⟨4, 10⟩).outcome = .error f := ⟨_, rfl⟩
  refine ⟨f, hf, (screen_reports sweptTrial ⟨4, 10⟩).2 f hf, ?_⟩
  cases hf
  rfl

end StudyDesign

end StudyPower
