import Mathlib
import StudyPower.Proofs.Design.Draft

/-!
# Edits of designs

Every field of a draft is checked by itself, and what a design declares for a field is checked to
the same.  So whether an edit succeeds depends on the values that it writes and on nothing else, and
a design that was edited is the one whose draft holds, field by field, the value that was written
last by an edit that succeeded.

## Main definitions

* `Field`, `Assignment.field` — the fields of a design, and the one that is assigned.
* `Draft.value r f` — what a draft declares for a field.
* `Assignment.checked` — what a design declares for a value that it was given.
* `Assignment.lastFor changes f` — the value that is written last to a field.
* `Assignment.DifferentFields` — two edits have no field in common.
* `StudyDesign.effective d edits` — the assignments of the edits that succeed, one after another.

## Main statements

* `Draft.value_assign` — an assignment is read back, and leaves the other fields.
* `Draft.value_of_check`, `Draft.exists_check` — a draft is checked field by field.
* `Draft.check_congr` — drafts whose values are checked to the same are the same design.
* `StudyDesign.check_effective` — **the draft of a design after a sequence of edits.**
* `StudyDesign.editAll_perm` — edits of different fields may be made in any order.
* `StudyDesign.edits_compose` — **checking a design again, and editing it.**
-/

namespace StudyPower

open StudyDesign (wordDatum listDatum)

variable {α : Type}

/-! ### Fields -/

/-- The fields of a design. -/
inductive Field where
  /-- How the matrices are given. -/
  | view
  /-- What is solved for. -/
  | goal
  /-- Is there a Gaussian covariate? -/
  | covariateFlag
  /-- The factors between participants. -/
  | factors
  /-- The repeated measurements. -/
  | measures
  /-- The cluster levels. -/
  | clusters
  /-- The names of the responses. -/
  | responses
  /-- The covariance structures. -/
  | covariances
  /-- The relative size of each group. -/
  | groupSizes
  /-- The hypotheses. -/
  | hypotheses
  /-- The literal matrices. -/
  | matrices
  /-- The statistical tests. -/
  | tests
  /-- The type I error rates. -/
  | alphas
  /-- The desired powers. -/
  | nominalPowers
  /-- The sizes of the smallest group. -/
  | sampleSizes
  /-- The scale factors for means. -/
  | betaScales
  /-- The scale factors for variability. -/
  | sigmaScales
  /-- The power methods. -/
  | powerMethods
  /-- The quantiles of power. -/
  | quantiles
  /-- What confidence intervals rest on. -/
  | interval
  deriving DecidableEq, Repr

/-- The field that is assigned. -/
def Assignment.field : Assignment α → Field
  | view _ => .view
  | goal _ => .goal
  | covariateFlag _ => .covariateFlag
  | factors _ => .factors
  | measures _ => .measures
  | clusters _ => .clusters
  | responses _ => .responses
  | covariances _ => .covariances
  | groupSizes _ => .groupSizes
  | hypotheses _ => .hypotheses
  | matrices _ => .matrices
  | tests _ => .tests
  | alphas _ => .alphas
  | nominalPowers _ => .nominalPowers
  | sampleSizes _ => .sampleSizes
  | betaScales _ => .betaScales
  | sigmaScales _ => .sigmaScales
  | powerMethods _ => .powerMethods
  | quantiles _ => .quantiles
  | interval _ => .interval

/-- What a draft declares for a field. -/
def Draft.value (r : Draft α) : Field → Assignment α
  | .view => .view r.view
  | .goal => .goal r.goal
  | .covariateFlag => .covariateFlag r.covariateFlag
  | .factors => .factors r.factors
  | .measures => .measures r.measures
  | .clusters => .clusters r.clusters
  | .responses => .responses r.responses
  | .covariances => .covariances r.covariances
  | .groupSizes => .groupSizes r.groupSizes
  | .hypotheses => .hypotheses r.hypotheses
  | .matrices => .matrices r.matrices
  | .tests => .tests r.tests
  | .alphas => .alphas r.alphas
  | .nominalPowers => .nominalPowers r.nominalPowers
  | .sampleSizes => .sampleSizes r.sampleSizes
  | .betaScales => .betaScales r.betaScales
  | .sigmaScales => .sigmaScales r.sigmaScales
  | .powerMethods => .powerMethods r.powerMethods
  | .quantiles => .quantiles r.quantiles
  | .interval => .interval r.interval

/-- An assignment is read back, and leaves the other fields. -/
theorem Draft.value_assign (r : Draft α) (a : Assignment α) (f : Field) :
    (r.assign a).value f = if a.field = f then a else r.value f := by
  cases a <;> cases f <;> rfl

/-- A draft is what it declares. -/
theorem Draft.ext_value {r r' : Draft α} (h : ∀ f, r.value f = r'.value f) : r = r' := by
  cases r
  cases r'
  rw [Draft.mk.injEq]
  exact ⟨Assignment.view.inj (h .view), Assignment.goal.inj (h .goal),
    Assignment.covariateFlag.inj (h .covariateFlag), Assignment.factors.inj (h .factors),
    Assignment.measures.inj (h .measures), Assignment.clusters.inj (h .clusters),
    Assignment.responses.inj (h .responses), Assignment.covariances.inj (h .covariances),
    Assignment.groupSizes.inj (h .groupSizes), Assignment.hypotheses.inj (h .hypotheses),
    Assignment.matrices.inj (h .matrices), Assignment.tests.inj (h .tests),
    Assignment.alphas.inj (h .alphas), Assignment.nominalPowers.inj (h .nominalPowers),
    Assignment.sampleSizes.inj (h .sampleSizes), Assignment.betaScales.inj (h .betaScales),
    Assignment.sigmaScales.inj (h .sigmaScales), Assignment.powerMethods.inj (h .powerMethods),
    Assignment.quantiles.inj (h .quantiles), Assignment.interval.inj (h .interval)⟩

/-! ### Values that are written last -/

namespace Assignment

/-- The value that is written last to a field. -/
def lastFor (changes : List (Assignment α)) (f : Field) : Option (Assignment α) :=
  changes.reverse.find? (·.field = f)

theorem lastFor_cons (a : Assignment α) (changes : List (Assignment α)) (f : Field) :
    lastFor (a :: changes) f = (lastFor changes f).or (if a.field = f then some a else none) := by
  unfold lastFor
  rw [List.reverse_cons, List.find?_append, List.find?_singleton]
  simp only [decide_eq_true_eq]

theorem field_of_lastFor {changes : List (Assignment α)} {f : Field} {a : Assignment α}
    (h : lastFor changes f = some a) : a ∈ changes ∧ a.field = f :=
  ⟨List.mem_reverse.mp (List.mem_of_find?_eq_some h), by simpa using List.find?_some h⟩

variable {changes changes' : List (Assignment α)}

/-- Two edits have no field in common. -/
def DifferentFields (changes changes' : List (Assignment α)) : Prop :=
  ∀ a ∈ changes, ∀ a' ∈ changes', a.field ≠ a'.field

theorem DifferentFields.symm (h : DifferentFields changes changes') :
    DifferentFields changes' changes := by
  intro a' ha' a ha
  exact (h a ha a' ha').symm

theorem DifferentFields.lastFor_eq_none (h : DifferentFields changes changes') (f : Field) :
    lastFor changes f = none ∨ lastFor changes' f = none := by
  cases ha : lastFor changes f with
  | none => exact .inl rfl
  | some a =>
    cases ha' : lastFor changes' f with
    | none => exact .inr rfl
    | some a' =>
      obtain ⟨hmem, hfield⟩ := field_of_lastFor ha
      obtain ⟨hmem', hfield'⟩ := field_of_lastFor ha'
      exact absurd (hfield.trans hfield'.symm) (h a hmem a' hmem')

end Assignment

open Assignment (DifferentFields lastFor)

/-- A draft that is written to holds the last values. -/
theorem Draft.value_foldl_assign (changes : List (Assignment α)) (r : Draft α) (f : Field) :
    (changes.foldl Draft.assign r).value f = (lastFor changes f).getD (r.value f) := by
  induction changes generalizing r with
  | nil => rfl
  | cons a changes ih =>
    rw [List.foldl_cons, ih, value_assign, Assignment.lastFor_cons]
    cases lastFor changes f with
    | some a' => rfl
    | none => split <;> rfl

/-! ### Fields are checked by themselves -/

variable [Scalar α]

/-- What a design declares for a value that it was given. -/
def Assignment.checked : Assignment α → Except (Fault α) (Assignment α)
  | view x => (fun t => view (wordDatum t)) <$> x.toTerm ViewMode
  | goal x => (fun t => goal (wordDatum t)) <$> x.toTerm Goal
  | covariateFlag x => .ok (covariateFlag x)
  | factors x => (fun xs => factors (some xs)) <$> requireParts x
  | measures x => (fun xs => measures (some xs)) <$> requireParts x
  | clusters x => (fun xs => clusters (some xs)) <$> requireParts x
  | responses x => (fun xs => responses (some xs)) <$> requireParts x
  | covariances x => (fun xs => covariances (some xs)) <$> requireParts x
  | groupSizes x => (fun xs => groupSizes (listDatum id xs)) <$> x.toSequence .ok
  | hypotheses x => (fun xs => hypotheses (some xs)) <$> requireParts x
  | matrices x => (fun ms => matrices (.ofMats ms)) <$> x.check
  | tests x =>
    (fun xs => tests (listDatum wordDatum xs)) <$> x.toSequence (Datum.toTerm StatisticalTest)
  | alphas x => (fun xs => alphas (listDatum .real xs)) <$> x.toSequence Datum.toReal
  | nominalPowers x => (fun xs => nominalPowers (listDatum .real xs)) <$> x.toSequence Datum.toReal
  | sampleSizes x => (fun xs => sampleSizes (listDatum id xs)) <$> x.toSequence .ok
  | betaScales x => (fun xs => betaScales (listDatum .real xs)) <$> x.toSequence Datum.toReal
  | sigmaScales x => (fun xs => sigmaScales (listDatum .real xs)) <$> x.toSequence Datum.toReal
  | powerMethods x =>
    (fun xs => powerMethods (listDatum wordDatum xs)) <$> x.toSequence (Datum.toTerm PowerMethod)
  | quantiles x => (fun xs => quantiles (listDatum .real xs)) <$> x.toSequence Datum.toReal
  | interval x => .ok (interval x)

namespace Draft

variable {r r' : Draft α} {d d' : StudyDesign α}

/-- A design declares what the fields of its draft were checked to. -/
theorem value_of_check (h : r.check = .ok d) (f : Field) :
    (r.value f).checked = .ok (d.draft.value f) := by
  unfold check at h
  simp only [Except.bind_eq_ok_iff, Except.pure_eq_ok_iff] at h
  obtain ⟨view, hview, goal, hgoal, factors, hfactors, measures, hmeasures, clusters, hclusters,
    responses, hresponses, covariances, hcovariances, hypotheses, hhypotheses, groupSizes,
    hgroupSizes, tests, htests, alphas, halphas, nominalPowers, hnominalPowers, sampleSizes,
    hsampleSizes, betaScales, hbetaScales, sigmaScales, hsigmaScales, powerMethods, hpowerMethods,
    quantiles, hquantiles, matrices, hmatrices, rfl⟩ := h
  cases f with
  | covariateFlag => rfl
  | interval => rfl
  | _ => exact Except.map_eq_ok_iff.mpr ⟨_, by assumption, rfl⟩

/-- A draft is checked when each of its fields is. -/
theorem exists_check (h : ∀ f, ∃ a, (r.value f).checked = .ok a) : ∃ d, r.check = .ok d := by
  have hread {β : Type} {x : Except (Fault α) β} {write : β → Assignment α}
      (hx : ∃ a, write <$> x = .ok a) : ∃ b, x = .ok b := by
    obtain ⟨a, ha⟩ := hx
    obtain ⟨b, hb, -⟩ := Except.map_eq_ok_iff.mp ha
    exact ⟨b, hb⟩
  obtain ⟨view, hview⟩ := hread (h .view)
  obtain ⟨goal, hgoal⟩ := hread (h .goal)
  obtain ⟨factors, hfactors⟩ := hread (h .factors)
  obtain ⟨measures, hmeasures⟩ := hread (h .measures)
  obtain ⟨clusters, hclusters⟩ := hread (h .clusters)
  obtain ⟨responses, hresponses⟩ := hread (h .responses)
  obtain ⟨covariances, hcovariances⟩ := hread (h .covariances)
  obtain ⟨hypotheses, hhypotheses⟩ := hread (h .hypotheses)
  obtain ⟨groupSizes, hgroupSizes⟩ := hread (h .groupSizes)
  obtain ⟨tests, htests⟩ := hread (h .tests)
  obtain ⟨alphas, halphas⟩ := hread (h .alphas)
  obtain ⟨nominalPowers, hnominalPowers⟩ := hread (h .nominalPowers)
  obtain ⟨sampleSizes, hsampleSizes⟩ := hread (h .sampleSizes)
  obtain ⟨betaScales, hbetaScales⟩ := hread (h .betaScales)
  obtain ⟨sigmaScales, hsigmaScales⟩ := hread (h .sigmaScales)
  obtain ⟨powerMethods, hpowerMethods⟩ := hread (h .powerMethods)
  obtain ⟨quantiles, hquantiles⟩ := hread (h .quantiles)
  obtain ⟨matrices, hmatrices⟩ := hread (h .matrices)
  unfold check
  simp only [Except.bind_eq_ok_iff, Except.pure_eq_ok_iff]
  exact ⟨_, _, hview, _, hgoal, _, hfactors, _, hmeasures, _, hclusters, _, hresponses, _,
    hcovariances, _, hhypotheses, _, hgroupSizes, _, htests, _, halphas, _, hnominalPowers, _,
    hsampleSizes, _, hbetaScales, _, hsigmaScales, _, hpowerMethods, _, hquantiles, _, hmatrices,
    rfl⟩

end Draft

/-! ### Designs that are checked again -/

namespace StudyDesign

variable {r r' : Draft α} {d d' : StudyDesign α} {changes changes' : List (Assignment α)}

/-- A checked design is checked again to itself. -/
theorem check_draft (h : d.IsChecked) : d.draft.check = .ok d := withGoal_of_isChecked h d.goal

theorem checked_value (h : d.IsChecked) (f : Field) :
    (d.draft.value f).checked = .ok (d.draft.value f) :=
  Draft.value_of_check (check_draft h) f

/-- Checked designs that declare the same are the same. -/
theorem ext_value (hd : d.IsChecked) (hd' : d'.IsChecked)
    (h : ∀ f, d.draft.value f = d'.draft.value f) : d = d' := by
  have hdraft : d.draft = d'.draft := Draft.ext_value h
  have hcheck : d'.draft.check = .ok d := hdraft ▸ check_draft hd
  rw [check_draft hd'] at hcheck
  exact (Except.ok.inj hcheck).symm

end StudyDesign

/-- Drafts whose values are checked to the same are the same design. -/
theorem Draft.check_congr {r r' : Draft α} {d : StudyDesign α}
    (h : ∀ f, (r.value f).checked = (r'.value f).checked) (hr : r.check = .ok d) :
    r'.check = .ok d := by
  have hvalue : ∀ f, (r'.value f).checked = .ok (d.draft.value f) := by
    intro f
    rw [← h f]
    exact value_of_check hr f
  obtain ⟨d', hr'⟩ := exists_check fun f => ⟨_, hvalue f⟩
  have hsame : d' = d := by
    apply StudyDesign.ext_value ⟨r', hr'⟩ ⟨r, hr⟩
    intro f
    exact Except.ok.inj ((value_of_check hr' f).symm.trans (hvalue f))
  rw [hr', hsame]

namespace StudyDesign

variable {r r' : Draft α} {d d' : StudyDesign α} {changes changes' : List (Assignment α)}

/-! ### Edits -/

/-- Editing a design is writing to any draft that it was checked from. -/
theorem edit_eq_ok_iff (h : r.check = .ok d) :
    d.edit changes = .ok d' ↔ (changes.foldl Draft.assign r).check = .ok d' := by
  have hvalue : ∀ f, ((changes.foldl Draft.assign d.draft).value f).checked =
      ((changes.foldl Draft.assign r).value f).checked := by
    intro f
    rw [Draft.value_foldl_assign, Draft.value_foldl_assign]
    cases lastFor changes f with
    | some a => rfl
    | none => exact (checked_value ⟨r, h⟩ f).trans (Draft.value_of_check h f).symm
  constructor
  · exact Draft.check_congr hvalue
  · exact Draft.check_congr fun f => (hvalue f).symm

/-- The assignments of the edits that succeed, one after another. -/
def effective (d : StudyDesign α) : List (List (Assignment α)) → List (Assignment α)
  | [] => []
  | changes :: edits =>
    match d.edit changes with
    | .ok d' => changes ++ effective d' edits
    | .error _ => effective d edits

/-- **The draft of a design after a sequence of edits** is its first draft, written to by the edits
that succeed. -/
theorem check_effective (h : r.check = .ok d) (edits : List (List (Assignment α))) :
    ((d.effective edits).foldl Draft.assign r).check = .ok (d.editAll edits) := by
  induction edits generalizing r d with
  | nil => exact h
  | cons changes edits ih =>
    unfold effective editAll
    rw [List.foldl_cons]
    cases hedit : d.edit changes with
    | error f => exact ih h
    | ok d' =>
      rw [List.foldl_append]
      exact ih ((edit_eq_ok_iff h).mp hedit)

/-! ### Edits of different fields -/

/-- The design after an edit, the same when the edit fails. -/
def attempt (d : StudyDesign α) (changes : List (Assignment α)) : StudyDesign α :=
  match d.edit changes with
  | .ok d' => d'
  | .error _ => d

theorem editAll_cons (d : StudyDesign α) (changes : List (Assignment α))
    (edits : List (List (Assignment α))) :
    d.editAll (changes :: edits) = (d.attempt changes).editAll edits := rfl

/-- An edit succeeds on a checked design when its values are checked, so it writes all of them to
every draft or none of them to any. -/
theorem exists_written (changes : List (Assignment α)) :
    ∃ written, (written = changes ∨ written = []) ∧ ∀ {r : Draft α} {d : StudyDesign α},
      r.check = .ok d → (written.foldl Draft.assign r).check = .ok (d.attempt changes) := by
  by_cases h : ∀ f a, lastFor changes f = some a → ∃ a', a.checked = .ok a'
  · refine ⟨changes, .inl rfl, fun {r d} hr => ?_⟩
    obtain ⟨d', hd'⟩ : ∃ d', (changes.foldl Draft.assign r).check = .ok d' := by
      apply Draft.exists_check
      intro f
      rw [Draft.value_foldl_assign]
      cases ha : lastFor changes f with
      | none => exact ⟨_, Draft.value_of_check hr f⟩
      | some a => exact h f a ha
    unfold attempt
    rw [(edit_eq_ok_iff hr).mpr hd', hd']
  · refine ⟨[], .inr rfl, fun {r d} hr => ?_⟩
    unfold attempt
    cases hedit : d.edit changes with
    | error f => exact hr
    | ok d' =>
      -- what was written last was checked
      refine absurd (fun f a ha => ⟨d'.draft.value f, ?_⟩) h
      have hvalue := Draft.value_of_check ((edit_eq_ok_iff hr).mp hedit) f
      rwa [Draft.value_foldl_assign, ha] at hvalue

theorem isChecked_attempt (h : d.IsChecked) (changes : List (Assignment α)) :
    (d.attempt changes).IsChecked := by
  obtain ⟨r, hr⟩ := h
  obtain ⟨written, -, hwritten⟩ := exists_written changes
  exact ⟨_, hwritten hr⟩

theorem attempt_comm (hd : d.IsChecked) (h : DifferentFields changes changes') :
    (d.attempt changes).attempt changes' = (d.attempt changes').attempt changes := by
  obtain ⟨r, hr⟩ := hd
  obtain ⟨written, hwritten, hcheck⟩ := exists_written changes
  obtain ⟨written', hwritten', hcheck'⟩ := exists_written changes'
  have hnone : ∀ f, lastFor written f = none ∨ lastFor written' f = none := by
    intro f
    rcases hwritten with rfl | rfl
    · rcases hwritten' with rfl | rfl
      · exact h.lastFor_eq_none f
      · exact .inr rfl
    · exact .inl rfl
  have hdraft : written'.foldl Draft.assign (written.foldl Draft.assign r) =
      written.foldl Draft.assign (written'.foldl Draft.assign r) := by
    apply Draft.ext_value
    intro f
    simp only [Draft.value_foldl_assign]
    rcases hnone f with hf | hf
    · simp [hf]
    · simp [hf]
  have hleft := hcheck' (hcheck hr)
  rw [hdraft, hcheck (hcheck' hr)] at hleft
  exact (Except.ok.inj hleft).symm

/-- Edits of different fields may be made in any order. -/
theorem editAll_perm {edits edits' : List (List (Assignment α))} (hperm : edits.Perm edits')
    (h : edits.Pairwise DifferentFields) (hd : d.IsChecked) :
    d.editAll edits = d.editAll edits' := by
  induction hperm generalizing d with
  | nil => rfl
  | cons changes _ ih =>
    rw [editAll_cons, editAll_cons]
    exact ih (List.pairwise_cons.mp h).2 (isChecked_attempt hd changes)
  | swap changes changes' edits =>
    simp only [editAll_cons]
    rw [attempt_comm hd ((List.pairwise_cons.mp h).1 changes List.mem_cons_self)]
  | trans hperm _ ih ih' =>
    rw [ih h hd]
    exact ih' ((hperm.pairwise_iff DifferentFields.symm).mp h) hd

/-! ### What edits keep -/

/-- The literal matrices of a design are rectangles of real numbers, and its words are members of
their vocabularies. -/
structure IsRegular (d : StudyDesign α) : Prop where
  /-- Each matrix has rows of one length. -/
  rectangular : ∀ p ∈ d.matrices, p.2.toRows.length = p.2.rows ∧
    ∀ row ∈ p.2.toRows, row.length = p.2.cols
  /-- The entries are real numbers. -/
  finite : ∀ p ∈ d.matrices, p.2.AllFinite
  /-- The view is a member. -/
  view : d.view ∈ (Term.all : List ViewMode)
  /-- The goal is a member. -/
  goal : d.goal ∈ (Term.all : List Goal)
  /-- The tests are members. -/
  tests : ∀ ts, d.tests = some ts → ∀ t ∈ ts, t ∈ (Term.all : List StatisticalTest)
  /-- The power methods are members. -/
  powerMethods : ∀ ms, d.powerMethods = some ms → ∀ m ∈ ms, m ∈ (Term.all : List PowerMethod)

/-- A word that is looked up under itself is a member. -/
theorem mem_all_of_ofWord? {τ : Type} [Term τ] {t : τ}
    (h : Term.ofWord? (Term.word t) = some t) : t ∈ (Term.all : List τ) :=
  List.mem_of_find?_eq_some h

theorem isRegular_of_isChecked (h : d.IsChecked) : d.IsRegular where
  rectangular := by
    intro p _
    refine ⟨by simp [Mat.toRows], fun row hrow => ?_⟩
    obtain ⟨entries, -, rfl⟩ := List.mem_map.mp hrow
    simp
  finite := isChecked_iff_allFinite.mp h
  view := mem_all_of_ofWord? (ofWord?_viewMode d.view)
  goal := mem_all_of_ofWord? (ofWord?_goal d.goal)
  tests := fun _ _ t _ => mem_all_of_ofWord? (ofWord?_statisticalTest t)
  powerMethods := fun _ _ m _ => mem_all_of_ofWord? (ofWord?_powerMethod m)

/-- **Checking a design again, and editing it.**  A design that was checked is checked to itself, so
another goal changes nothing else, and editing it is writing to the draft that it came from.  After
a sequence of edits, of which some may fail, it is the design of the draft that holds in each field
the value that was last written to it with success, and edits of different fields may be made in any
order.  The matrices stay rectangles of real numbers and the words members of their
vocabularies. -/
theorem edits_compose {r : Draft α} {d : StudyDesign α} (h : r.check = .ok d) :
    d.draft.check = .ok d ∧ (∀ goal, d.withGoal goal = .ok { d with goal }) ∧
      (∀ changes d', d.edit changes = .ok d' ↔
        (changes.foldl Draft.assign r).check = .ok d') ∧
      ∀ edits, (∃ r' : Draft α, (∀ f, r'.value f =
          (lastFor (d.effective edits) f).getD (r.value f)) ∧
          r'.check = .ok (d.editAll edits)) ∧
        (edits.Pairwise DifferentFields → ∀ edits', edits.Perm edits' →
          d.editAll edits = d.editAll edits') ∧
        (d.editAll edits).IsRegular := by
  have hd : d.IsChecked := ⟨r, h⟩
  refine ⟨check_draft hd, fun goal => withGoal_of_isChecked hd goal,
    fun changes d' => edit_eq_ok_iff h, fun edits => ⟨?_, ?_, ?_⟩⟩
  · exact ⟨_, Draft.value_foldl_assign (d.effective edits) r, check_effective h edits⟩
  · intro hdifferent edits' hperm
    exact editAll_perm hperm hdifferent hd
  · exact isRegular_of_isChecked ⟨_, check_effective h edits⟩

/-- A trial with a matrix of means, solved for the sample size. -/
def meansDraft : Draft ℚ where
  goal := .text "SAMPLE_SIZE"
  matrices := .declared (.record [("beta", .list [.int 1, .int 2])])
  alphas := .list [.text "0.05"]

/-- Edits of the trial: of the error rates, of the tests together with the view, which is no word of
its vocabulary, and of the tests alone. -/
def meansEdits : List (List (Assignment ℚ)) :=
  [[.alphas (.list [.text "0.01", .int 1])], [.tests (.list [.text "HLT"]), .view (.text "MATRIX")],
    [.tests (.list [.text "WL"])]]

/-- The failed edit leaves no trace: the trial has the error rates of the first edit, the tests of
the last, and the goal that it was declared with. -/
theorem edits_compose_meansDraft :
    ∃ (d : StudyDesign ℚ) (r' : Draft ℚ), meansDraft.check = .ok d ∧ d.draft.check = .ok d ∧
      r'.check = .ok (d.editAll meansEdits) ∧ r'.goal = .text "SAMPLE_SIZE" ∧
      r'.view = .text "GUIDED_MODE" ∧ r'.alphas = .list [.text "0.01", .int 1] ∧
      r'.tests = .list [.text "WL"] := by
  obtain ⟨d, hd⟩ : ∃ d, meansDraft.check = .ok d := ⟨_, rfl⟩
  obtain ⟨hsame, -, -, hedits⟩ := edits_compose hd
  obtain ⟨⟨r', hvalue, hcheck⟩, -, -⟩ := hedits meansEdits
  have heffective : d.effective meansEdits =
      [.alphas (.list [.text "0.01", .int 1]), .tests (.list [.text "WL"])] := by
    cases hd
    rfl
  rw [heffective] at hvalue
  exact ⟨d, r', hd, hsame, hcheck, Assignment.goal.inj (hvalue .goal),
    Assignment.view.inj (hvalue .view), Assignment.alphas.inj (hvalue .alphas),
    Assignment.tests.inj (hvalue .tests)⟩

end StudyDesign

end StudyPower
