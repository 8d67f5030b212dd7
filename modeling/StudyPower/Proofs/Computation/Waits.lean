import Mathlib
import StudyPower.Computation.Orchestrator
import StudyPower.Proofs.Computation.Calls
import StudyPower.Proofs.Computation.Stages

/-!
# Several waits for one computation

Any number of callers may wait for one computation, together or one after another.  The stage is
settled once, by the caller whose wait ends first, while every caller takes its own outcome from the
promise.  What the promise shows stays, so outcomes can differ in one way only: a caller whose
deadline passed has seen nothing, and another caller sees what the computation came to after all.

## Main definitions

* `Worker.IsBusy`, `Job.Orderly` — a worker is busy only with work that it has taken up.
* `Job.Keeps` — what a single step leaves in place.
* `reportedStage` — the stage that the outcome of a wait reports.
* `Scene.Reports`, `Scene.TimeoutsAgree` — the outcomes of the waits that have ended.
* `Scene.Attested` — what callers found is there to see, and one of them settled the stage.
* `Scene.FollowedBy` — what callers that begin to wait from now on come to.

## Main statements

* `Scene.Attested.move`, `Scene.FollowedBy.move` — every step keeps both.
* `Scene.outcomes_match_iff` — **the outcomes of all waits match the stage exactly when all or none
  of them timed out.**
* `Scene.not_outcomes_match_lateAnswer` — a computation that timed out and was completed.
-/

namespace StudyPower

variable {τ β ρ : Type}

/-! ### What there is to see stays -/

/-- The worker has work in its hands. -/
def Worker.IsBusy : Worker ρ → Prop
  | .absent | .gone => False
  | .holding | .entered | .asking | .answered _ => True

namespace Job

/-- A worker is busy only with work that it has taken up. -/
def Orderly (j : Job τ β ρ) : Prop := j.worker.IsBusy → j.promise = .running

/-- What a single step leaves in place. -/
structure Keeps (j j' : Job τ β ρ) : Prop where
  /-- A worker is still busy only with work that it has taken up. -/
  orderly : j'.Orderly
  /-- What there was to see is still there. -/
  seen : ∀ found, j.look = some found → j'.look = some found

variable {j j' : Job τ β ρ}

theorem look_congr (h : j'.promise = j.promise) : j'.look = j.look := by
  unfold look
  rw [h]

/-- A step that leaves the promise alone. -/
theorem Orderly.keeps_of_promise_eq (h : j.Orderly) (hpromise : j'.promise = j.promise)
    (hbusy : j'.worker.IsBusy → j.worker.IsBusy) : j.Keeps j' where
  orderly := by
    intro hb
    rw [hpromise]
    exact h (hbusy hb)
  seen := by
    intro found hfound
    rwa [look_congr hpromise]

/-- A worker that comes by while it is busy finds the work in its own hands. -/
theorem Orderly.claim (h : j.Orderly) : j.Keeps j.claim := by
  unfold Job.claim
  split
  · next hpending =>
    refine ⟨fun _ => rfl, fun found hfound => ?_⟩
    unfold look at hfound
    rw [hpending] at hfound
    cases hfound
  · next hwithdrawn =>
    refine ⟨fun hbusy => ?_, fun found hfound => ?_⟩
    · have hrunning := h hbusy
      rw [hwithdrawn] at hrunning
      cases hrunning
    · unfold look at hfound
      rw [hwithdrawn] at hfound
      cases hfound
  · exact ⟨h, fun _ => id⟩

theorem Orderly.enter (h : j.Orderly) (now : τ) : j.Keeps (j.enter now) := by
  unfold Job.enter
  split
  · next hworker =>
    have hbusy : j.worker.IsBusy := by
      rw [hworker]
      trivial
    split
    · exact h.keeps_of_promise_eq rfl fun _ => hbusy
    · exact h.keeps_of_promise_eq rfl fun _ => hbusy
  · exact ⟨h, fun _ => id⟩

theorem Orderly.inspect (h : j.Orderly) : j.Keeps j.inspect := by
  unfold Job.inspect
  split
  · next hworker =>
    refine h.keeps_of_promise_eq rfl fun _ => ?_
    rw [hworker]
    trivial
  · exact ⟨h, fun _ => id⟩

theorem Orderly.answer (h : j.Orderly) (a : Answer ρ) : j.Keeps (j.answer a) := by
  unfold Job.answer
  split
  · next hworker =>
    refine h.keeps_of_promise_eq rfl fun _ => ?_
    rw [hworker]
    trivial
  · exact ⟨h, fun _ => id⟩

/-- There is nothing to see before a worker delivers. -/
theorem Orderly.deliver (h : j.Orderly) : j.Keeps j.deliver := by
  unfold Job.deliver
  split
  · next a hworker =>
    have hrunning : j.promise = .running := by
      apply h
      rw [hworker]
      trivial
    refine ⟨fun hbusy => hbusy.elim, fun found hfound => ?_⟩
    unfold look at hfound
    rw [hrunning] at hfound
    cases hfound
  · exact ⟨h, fun _ => id⟩

/-- Withdrawing concerns only work in the queue, where nobody is busy and nothing is to be seen. -/
theorem Orderly.withdraw (h : j.Orderly) : j.Keeps j.withdraw where
  orderly := by
    intro hbusy
    change j.promise.withdraw = .running
    rw [h hbusy]
    rfl
  seen := by
    intro found hfound
    unfold look Job.withdraw at *
    cases hpromise : j.promise with
    | pending =>
      rw [hpromise] at hfound
      cases hfound
    | running | withdrawn | dismissed | kept =>
      rw [hpromise] at hfound
      exact hfound

end Job

/-- A caller leaves in place what there is to see. -/
theorem Wait.advance_keeps {j : Job τ β ρ} (h : j.Orderly) (now : τ) (w : Wait ρ) :
    j.Keeps (advance now (w, j)).2 := by
  cases w with
  | looking =>
    unfold advance
    dsimp only
    split
    · exact ⟨h, fun _ => id⟩
    · exact ⟨h, fun _ => id⟩
  | expired => exact h.keeps_of_promise_eq rfl id
  | signalled => exact h.withdraw
  | settling found => exact h.keeps_of_promise_eq rfl id
  | ended found => exact ⟨h, fun _ => id⟩

/-! ### Outcomes -/

/-- The stage that the outcome of a wait reports: the one that the facts about results name, or the
one that goes with a fault of the computation. -/
def reportedStage : Except WaitFault (Completion τ ρ) → Option Stage
  | .ok c => ((c.info : List (String × Datum Float)).lookup "state").bind fun d =>
      d.text?.bind Term.ofWord?
  | .error (.computation (.timedOut _ _)) => some .timedOut
  | .error (.computation (.badInput _)) | .error (.computation .internal) => some .failed
  | .error .beyondClock | .error (.unusable _) => none

/-- A caller learns the stage that follows from what was found, when messages are cut to a number of
characters. -/
theorem reportedStage_classify [Sub τ] {o : Orchestrator τ β ρ} {n : ℤ}
    (hlimit : o.settings.maxMessageLength = .int n) (seconds : Float) (now : τ)
    (handle : Handle τ) (found : Finding ρ) :
    reportedStage (o.classify seconds now handle found) = some found.stage := by
  cases found with
  | timedOut withdrawn => rfl
  | neverRan => rfl
  | succeeded items => rfl
  | failed f =>
    unfold Orchestrator.classify
    dsimp only
    rw [hlimit]
    cases hrefused : f.kind.isRefusal with
    | true =>
      rw [ComputationFault.ofFailure_of_isRefusal n hrefused]
      rfl
    | false =>
      by_cases hmemory : f.kind = .outOfMemory
      · rw [ComputationFault.ofFailure_of_outOfMemory _ hmemory]
        rfl
      · rw [ComputationFault.ofFailure_of_other _ hrefused hmemory]
        rfl

namespace Scene

/-- The wait of some caller has ended with this outcome. -/
def Reports [Sub τ] (s : Scene τ β ρ) (o : Orchestrator τ β ρ)
    (outcome : Except WaitFault (Completion τ ρ)) : Prop :=
  ∃ found seconds now, .ended found ∈ s.waits ∧
    o.classify seconds now s.job.handle found = outcome

/-- Of the waits that have ended, all timed out, or none did. -/
def TimeoutsAgree [Sub τ] (s : Scene τ β ρ) (o : Orchestrator τ β ρ) : Prop :=
  ∀ a b, s.Reports o a → s.Reports o b →
    (reportedStage a = some .timedOut ↔ reportedStage b = some .timedOut)

/-! ### Who settled the stage -/

/-- What callers found is there to see, and one of them settled the stage. -/
structure Attested (s : Scene τ β ρ) : Prop where
  /-- A worker is busy only with work that it has taken up. -/
  orderly : s.job.Orderly
  /-- Unless its deadline passed, what a caller found is there to see. -/
  seen : ∀ found, .settling found ∈ s.waits ∨ .ended found ∈ s.waits → found.stage ≠ .timedOut →
    s.job.look = some found
  /-- A final stage is that of a caller whose wait has ended. -/
  settled : s.job.handle.stage.isFinal = true → ∃ found, .ended found ∈ s.waits ∧
    s.job.handle.stage = found.stage
  /-- The stage is final once a wait has ended. -/
  final : ∀ found, .ended found ∈ s.waits → s.job.handle.stage.isFinal = true

theorem attested_submitted (input : β) (now : τ) :
    (submitted input now : Scene τ β ρ).Attested where
  orderly := fun h => h.elim
  seen := by rintro found (h | h) <;> cases h
  settled := by rintro ⟨⟩
  final := fun found h => by cases h

variable {s : Scene τ β ρ}

/-- A step of the worker or of a caller who gives up settles nothing. -/
theorem Attested.of_job (h : s.Attested) {job : Job τ β ρ} (hkeeps : s.job.Keeps job)
    (hstage : job.handle.stage = s.job.handle.stage ∨
      s.job.handle.stage.isFinal = false ∧ job.handle.stage.isFinal = false) :
    ({ s with job } : Scene τ β ρ).Attested where
  orderly := hkeeps.orderly
  seen := fun found hfound hstage => hkeeps.seen found (h.seen found hfound hstage)
  settled := by
    intro hfinal
    rcases hstage with hsame | ⟨-, hopen⟩
    · obtain ⟨found, hended, hfound⟩ := h.settled (hsame ▸ hfinal)
      exact ⟨found, hended, hsame.trans hfound⟩
    · change job.handle.stage.isFinal = true at hfinal
      rw [hopen] at hfinal
      cases hfinal
  final := by
    intro found hended
    change job.handle.stage.isFinal = true
    rcases hstage with hsame | ⟨hopen, -⟩
    · rw [hsame]
      exact h.final found hended
    · rw [h.final found hended] at hopen
      cases hopen

/-- A wait that has ended stays so while another caller takes a step. -/
theorem mem_set_of_ended {waits : List (Wait ρ)} {caller : ℕ} {w : Wait ρ} {found : Finding ρ}
    (hcaller : ∀ found, waits[caller]? ≠ some (.ended found)) (hended : .ended found ∈ waits) :
    .ended found ∈ waits.set caller w := by
  obtain ⟨i, hi⟩ := List.getElem?_of_mem hended
  have hne : caller ≠ i := by
    rintro rfl
    exact hcaller found hi
  exact List.mem_of_getElem? ((List.getElem?_set_ne hne).trans hi)

/-- A caller takes a step other than the last. -/
theorem Attested.of_wait (h : s.Attested) {caller : ℕ} {w : Wait ρ} {job : Job τ β ρ}
    (hcaller : ∀ found, s.waits[caller]? ≠ some (.ended found)) (hkeeps : s.job.Keeps job)
    (hstage : job.handle.stage = s.job.handle.stage)
    (hfound : ∀ found, w = .settling found → found.stage ≠ .timedOut → job.look = some found)
    (hended : ∀ found, w ≠ .ended found) :
    ({ job, waits := s.waits.set caller w } : Scene τ β ρ).Attested where
  orderly := hkeeps.orderly
  seen := by
    rintro found (hmem | hmem) htimeout
    · rcases List.mem_or_eq_of_mem_set hmem with hbefore | rfl
      · exact hkeeps.seen found (h.seen found (.inl hbefore) htimeout)
      · exact hfound found rfl htimeout
    · rcases List.mem_or_eq_of_mem_set hmem with hbefore | rfl
      · exact hkeeps.seen found (h.seen found (.inr hbefore) htimeout)
      · exact absurd rfl (hended found)
  settled := by
    intro hfinal
    obtain ⟨found, hmem, hfound⟩ := h.settled (hstage ▸ hfinal)
    exact ⟨found, mem_set_of_ended hcaller hmem, hstage.trans hfound⟩
  final := by
    intro found hmem
    change job.handle.stage.isFinal = true
    rw [hstage]
    rcases List.mem_or_eq_of_mem_set hmem with hbefore | hnew
    · exact h.final found hbefore
    · exact absurd hnew.symm (hended found)

/-- A caller settles the stage, unless another has done so. -/
theorem Attested.settle (h : s.Attested) {caller : ℕ} {seen : Finding ρ}
    (hcaller : s.waits[caller]? = some (.settling seen)) (now : τ) :
    ({ job := s.job.settle seen.stage now, waits := s.waits.set caller (.ended seen) } :
      Scene τ β ρ).Attested := by
  have hmem : Wait.settling seen ∈ s.waits := List.mem_of_getElem? hcaller
  obtain ⟨hlt, -⟩ := List.getElem?_eq_some_iff.mp hcaller
  have hstage : s.job.handle.stage.isFinal = true ∧
        (s.job.settle seen.stage now).handle.stage = s.job.handle.stage ∨
      (s.job.settle seen.stage now).handle.stage = seen.stage := by
    unfold Job.settle Handle.settle
    dsimp only
    split
    · next hfinal => exact .inl ⟨hfinal, rfl⟩
    · exact .inr rfl
  have hkeeps : s.job.Keeps (s.job.settle seen.stage now) := h.orderly.keeps_of_promise_eq rfl id
  have hfinal : (s.job.settle seen.stage now).handle.stage.isFinal = true := by
    rcases hstage with ⟨hfinal, hsame⟩ | hnew
    · rwa [hsame]
    · rw [hnew]
      exact seen.isFinal_stage
  refine ⟨hkeeps.orderly, ?_, fun _ => ?_, fun _ _ => hfinal⟩
  · rintro found (hfound | hfound) htimeout
    · rcases List.mem_or_eq_of_mem_set hfound with hbefore | hnew
      · exact hkeeps.seen found (h.seen found (.inl hbefore) htimeout)
      · cases hnew
    · rcases List.mem_or_eq_of_mem_set hfound with hbefore | hnew
      · exact hkeeps.seen found (h.seen found (.inr hbefore) htimeout)
      · cases hnew
        exact hkeeps.seen seen (h.seen seen (.inl hmem) htimeout)
  · rcases hstage with ⟨hbefore, hsame⟩ | hnew
    · obtain ⟨found, hended, hfound⟩ := h.settled hbefore
      refine ⟨found, mem_set_of_ended ?_ hended, hsame.trans hfound⟩
      rw [hcaller]
      rintro other ⟨⟩
    · exact ⟨seen, List.mem_set hlt (.ended seen), hnew⟩

/-- The next step of a waiting caller. -/
theorem Attested.advance (h : s.Attested) (now : τ) (caller : ℕ) :
    (s.move now (.advance caller)).Attested := by
  unfold Scene.move
  dsimp only
  split
  · exact h
  · next w hcaller =>
    have hkeeps := Wait.advance_keeps h.orderly now w
    cases w with
    | looking =>
      have hnot : ∀ found, s.waits[caller]? ≠ some (.ended found) := by
        rw [hcaller]
        rintro found ⟨⟩
      unfold Wait.advance
      dsimp only
      split
      · next seen hseen =>
        refine h.of_wait hnot ⟨h.orderly, fun _ => id⟩ rfl ?_ ?_
        · rintro found ⟨⟩ -
          exact hseen
        · rintro found ⟨⟩
      · refine h.of_wait hnot ⟨h.orderly, fun _ => id⟩ rfl ?_ ?_
        · rintro found ⟨⟩
        · rintro found ⟨⟩
    | expired =>
      refine h.of_wait ?_ hkeeps rfl ?_ ?_
      · rw [hcaller]
        rintro found ⟨⟩
      · rintro found ⟨⟩
      · rintro found ⟨⟩
    | signalled =>
      refine h.of_wait ?_ hkeeps rfl ?_ ?_
      · rw [hcaller]
        rintro found ⟨⟩
      · rintro found ⟨⟩ htimeout
        exact absurd rfl htimeout
      · rintro found ⟨⟩
    | settling seen => exact h.settle hcaller now
    | ended seen =>
      obtain ⟨hlt, hended⟩ := List.getElem?_eq_some_iff.mp hcaller
      unfold Wait.advance
      dsimp only
      rwa [← hended, List.set_getElem_self hlt]

/-- Every step keeps what callers found in sight. -/
theorem Attested.move (h : s.Attested) (now : τ) (m : Move ρ) : (s.move now m).Attested := by
  cases m with
  | claim => exact h.of_job h.orderly.claim (.inl (by rw [Job.handle_claim]))
  | enter =>
    refine h.of_job (h.orderly.enter now) ?_
    rcases s.job.enter_cases now with hhandle | ⟨hsubmitted, -, hhandle⟩
    · rw [hhandle]
      exact .inl rfl
    · rw [hhandle, hsubmitted]
      exact .inr ⟨rfl, rfl⟩
  | inspect => exact h.of_job h.orderly.inspect (.inl (by rw [Job.handle_inspect]))
  | answer a => exact h.of_job (h.orderly.answer a) (.inl (by rw [Job.handle_answer]))
  | deliver => exact h.of_job h.orderly.deliver (.inl (by rw [Job.handle_deliver]))
  | requestCancel => exact h.of_job (h.orderly.keeps_of_promise_eq rfl id) (.inl rfl)
  | withdraw => exact h.of_job h.orderly.withdraw (.inl rfl)
  | await =>
    have hmem : ∀ found, .ended found ∈ s.waits ++ [.looking] → .ended found ∈ s.waits := by
      intro found hfound
      rcases List.mem_append.mp hfound with hbefore | hnew
      · exact hbefore
      · cases List.mem_singleton.mp hnew
    refine ⟨h.orderly, ?_, fun hfinal => ?_, fun found hfound => h.final found (hmem found hfound)⟩
    · rintro found (hfound | hfound) htimeout
      · rcases List.mem_append.mp hfound with hbefore | hnew
        · exact h.seen found (.inl hbefore) htimeout
        · cases List.mem_singleton.mp hnew
      · exact h.seen found (.inr (hmem found hfound)) htimeout
    · obtain ⟨found, hended, hstage⟩ := h.settled hfinal
      exact ⟨found, List.mem_append_left _ hended, hstage⟩
  | advance caller => exact h.advance now caller

theorem Attested.run (h : s.Attested) (history : List (τ × Move ρ)) :
    (s.run history).Attested := by
  induction history generalizing s with
  | nil => exact h
  | cons step history ih => exact ih (h.move step.1 step.2)

/-- Two callers that found something found the same. -/
theorem Attested.eq_of_ended (h : s.Attested) {found found' : Finding ρ}
    (hended : .ended found ∈ s.waits) (hended' : .ended found' ∈ s.waits)
    (htimeout : found.stage ≠ .timedOut) (htimeout' : found'.stage ≠ .timedOut) :
    found = found' := by
  have hlook := h.seen found (.inr hended) htimeout
  rw [h.seen found' (.inr hended') htimeout'] at hlook
  exact (Option.some.inj hlook).symm

/-! ### Callers that come later -/

/-- What was found is there to see, and the callers from this number on have found it or are about
to. -/
structure FollowedBy (found : Finding ρ) (first : ℕ) (s : Scene τ β ρ) : Prop where
  /-- A worker is busy only with work that it has taken up. -/
  orderly : s.job.Orderly
  /-- What was found is there to see. -/
  seen : s.job.look = some found
  /-- Later callers have found it or are about to. -/
  later : ∀ caller w, first ≤ caller → s.waits[caller]? = some w →
    w = .looking ∨ w = .settling found ∨ w = .ended found

variable {found : Finding ρ} {first : ℕ}

theorem FollowedBy.of_job (h : s.FollowedBy found first) {job : Job τ β ρ}
    (hkeeps : s.job.Keeps job) : ({ s with job } : Scene τ β ρ).FollowedBy found first :=
  ⟨hkeeps.orderly, hkeeps.seen found h.seen, h.later⟩

/-- A later caller that looks finds what is there to see. -/
theorem FollowedBy.advance (h : s.FollowedBy found first) (now : τ) (caller : ℕ) :
    (s.move now (.advance caller)).FollowedBy found first := by
  unfold Scene.move
  dsimp only
  split
  · exact h
  · next w hcaller =>
    have hkeeps := Wait.advance_keeps h.orderly now w
    refine ⟨hkeeps.orderly, hkeeps.seen found h.seen, fun i w' hi hw' => ?_⟩
    by_cases hne : caller = i
    · subst hne
      obtain ⟨hlt, -⟩ := List.getElem?_eq_some_iff.mp hcaller
      rw [List.getElem?_set_self hlt] at hw'
      obtain rfl := Option.some.inj hw'
      rcases h.later caller w hi hcaller with rfl | rfl | rfl
      · unfold Wait.advance
        simp [h.seen]
      · exact .inr (.inr rfl)
      · exact .inr (.inr rfl)
    · rw [List.getElem?_set_ne hne] at hw'
      exact h.later i w' hi hw'

/-- Every step leaves later callers with what is there to see. -/
theorem FollowedBy.move (h : s.FollowedBy found first) (now : τ) (m : Move ρ) :
    (s.move now m).FollowedBy found first := by
  cases m with
  | claim => exact h.of_job h.orderly.claim
  | enter => exact h.of_job (h.orderly.enter now)
  | inspect => exact h.of_job h.orderly.inspect
  | answer a => exact h.of_job (h.orderly.answer a)
  | deliver => exact h.of_job h.orderly.deliver
  | requestCancel => exact h.of_job (h.orderly.keeps_of_promise_eq rfl id)
  | withdraw => exact h.of_job h.orderly.withdraw
  | await =>
    refine ⟨h.orderly, h.seen, fun caller w hcaller hw => ?_⟩
    change (s.waits ++ [.looking])[caller]? = some w at hw
    rcases Nat.lt_trichotomy caller s.waits.length with hlt | heq | hgt
    · rw [List.getElem?_append_left hlt] at hw
      exact h.later caller w hcaller hw
    · rw [heq, List.getElem?_concat_length] at hw
      exact .inl (Option.some.inj hw).symm
    · rw [List.getElem?_eq_none (by simpa using hgt)] at hw
      cases hw
  | advance caller => exact h.advance now caller

theorem FollowedBy.run (h : s.FollowedBy found first) (history : List (τ × Move ρ)) :
    (s.run history).FollowedBy found first := by
  induction history generalizing s with
  | nil => exact h
  | cons step history ih => exact ih (h.move step.1 step.2)

/-- Once a caller has found something, every caller that begins to wait later finds the same. -/
theorem Attested.followedBy (h : s.Attested) (hended : .ended found ∈ s.waits)
    (htimeout : found.stage ≠ .timedOut) : s.FollowedBy found s.waits.length where
  orderly := h.orderly
  seen := h.seen found (.inr hended) htimeout
  later := by
    intro caller w hcaller hw
    rw [List.getElem?_eq_none hcaller] at hw
    cases hw

/-! ### Outcomes and the stage -/

/-- **The outcomes of all waits match the stage exactly when all or none of them timed out.**  So do
they match one another.  The stage is final once a wait has ended, and after a wait that did not
time out every wait that begins later ends alike. -/
theorem outcomes_match_iff [Sub τ] (o : Orchestrator τ β ρ) {n : ℤ}
    (hlimit : o.settings.maxMessageLength = .int n) (input : β) (start : τ)
    (history : List (τ × Move ρ)) :
    let s := (submitted input start : Scene τ β ρ).run history
    (∀ outcome, s.Reports o outcome → s.job.handle.stage.isFinal = true) ∧
    ((∀ outcome, s.Reports o outcome → reportedStage outcome = some s.job.handle.stage) ↔
      s.TimeoutsAgree o) ∧
    ((∀ a b, s.Reports o a → s.Reports o b → reportedStage a = reportedStage b) ↔
      s.TimeoutsAgree o) ∧
    (∀ found, .ended found ∈ s.waits → found.stage ≠ .timedOut →
      ∀ (rest : List (τ × Move ρ)) (caller : ℕ) (found' : Finding ρ), s.waits.length ≤ caller →
        (s.run rest).waits[caller]? = some (.ended found') → found' = found) := by
  intro s
  have hs : s.Attested := (attested_submitted input start).run history
  have hreported : ∀ found seconds now,
      reportedStage (o.classify seconds now s.job.handle found) = some found.stage :=
    fun found seconds now => reportedStage_classify hlimit seconds now s.job.handle found
  -- outcomes that agree on timing out match the stage, which one of them has settled
  have hmatch : s.TimeoutsAgree o → ∀ outcome, s.Reports o outcome →
      reportedStage outcome = some s.job.handle.stage := by
    rintro hagree - ⟨found, seconds, now, hended, rfl⟩
    obtain ⟨settler, hsettler, hstage⟩ := hs.settled (hs.final found hended)
    have hiff := hagree _ _ ⟨found, seconds, now, hended, rfl⟩ ⟨settler, seconds, now, hsettler, rfl⟩
    rw [hreported, hreported, Option.some.injEq, Option.some.injEq] at hiff
    rw [hreported, hstage]
    by_cases htimeout : found.stage = .timedOut
    · rw [htimeout, hiff.mp htimeout]
    · rw [hs.eq_of_ended hended hsettler htimeout (mt hiff.mpr htimeout)]
  refine ⟨?_, ⟨fun h a b ha hb => ?_, hmatch⟩, ⟨fun h a b ha hb => ?_, fun h a b ha hb => ?_⟩, ?_⟩
  · rintro - ⟨found, seconds, now, hended, rfl⟩
    exact hs.final found hended
  · rw [h a ha, h b hb]
  · rw [h a b ha hb]
  · rw [hmatch h a ha, hmatch h b hb]
  · intro found hended htimeout rest caller found' hcaller hended'
    have hlater := ((hs.followedBy hended htimeout).run rest).later caller _ hcaller hended'
    rcases hlater with ⟨⟨⟩⟩ | ⟨⟨⟩⟩ | hsame
    exact Wait.ended.inj hsame

/-- An orchestrator with the standard settings. -/
def plainOrchestrator : Orchestrator ℤ Unit ℕ := { engine := {}, settings := .standard "worker" }

/-- The engine has answered before two callers come. -/
def earlyAnswer : List (ℤ × Move ℕ) := [
  (1, .claim), (1, .enter), (2, .inspect), (3, .answer (.ok [5])), (3, .deliver), (4, .await),
  (4, .await), (5, .advance 1), (5, .advance 0), (6, .advance 0), (6, .advance 1)]

/-- Both callers have the results, and so has every caller that comes later. -/
theorem outcomes_match_iff_earlyAnswer :
    let s := (submitted () 0 : Scene ℤ Unit ℕ).run earlyAnswer
    plainOrchestrator.settings.maxMessageLength = .int 50 ∧
    (∃ r, s.Reports plainOrchestrator (.ok r) ∧ r.items = [5]) ∧
    (∀ outcome, s.Reports plainOrchestrator outcome →
      reportedStage outcome = some .completed) ∧
    ∀ (rest : List (ℤ × Move ℕ)) (caller : ℕ) (found : Finding ℕ), 2 ≤ caller →
      (s.run rest).waits[caller]? = some (.ended found) → found = .succeeded [5] := by
  intro s
  have hwaits : s.waits = [.ended (.succeeded [5]), .ended (.succeeded [5])] := rfl
  obtain ⟨-, ⟨-, hmatch⟩, -, hlater⟩ :=
    outcomes_match_iff plainOrchestrator (n := 50) rfl () 0 earlyAnswer
  have hmem : Wait.ended (.succeeded [5]) ∈ s.waits := by
    rw [hwaits]
    exact List.mem_cons_self ..
  have hagree : s.TimeoutsAgree plainOrchestrator := by
    have hall : ∀ outcome, s.Reports plainOrchestrator outcome →
        reportedStage outcome ≠ some .timedOut := by
      rintro - ⟨found, seconds, now, hended, rfl⟩
      rw [reportedStage_classify (n := 50) rfl]
      rw [hwaits] at hended
      have hfound : found = .succeeded [5] := by simpa using hended
      rw [hfound]
      simp [Finding.stage]
    intro a b ha hb
    exact iff_of_false (hall a ha) (hall b hb)
  refine ⟨rfl, ⟨_, ⟨.succeeded [5], 1, 6, hmem, rfl⟩, rfl⟩, hmatch hagree, ?_⟩
  intro rest caller found hcaller hended
  exact hlater (.succeeded [5]) hmem (by decide) rest caller found hcaller hended

/-- A caller waits while the engine is at work and gives up, the engine answers, and the caller
waits again. -/
def lateAnswer : List (ℤ × Move ℕ) := [
  (1, .claim), (1, .enter), (2, .inspect), (3, .await), (4, .advance 0), (4, .advance 0),
  (4, .advance 0), (4, .advance 0), (5, .answer (.ok [7])), (5, .deliver), (6, .await),
  (6, .advance 1), (6, .advance 1)]

/-- The stage says that the computation timed out, and the second wait has its results. -/
theorem not_outcomes_match_lateAnswer :
    let s := (submitted () 0 : Scene ℤ Unit ℕ).run lateAnswer
    s.job.handle.stage = .timedOut ∧
    (∃ r, s.Reports plainOrchestrator (.ok r) ∧ r.items = [7]) ∧
    (¬ ∀ outcome, s.Reports plainOrchestrator outcome →
      reportedStage outcome = some s.job.handle.stage) ∧
    ¬ ∀ a b, s.Reports plainOrchestrator a → s.Reports plainOrchestrator b →
      reportedStage a = reportedStage b := by
  intro s
  have hwaits : s.waits = [.ended (.timedOut false), .ended (.succeeded [7])] := rfl
  have hstage : s.job.handle.stage = .timedOut := rfl
  have hfirst : s.Reports plainOrchestrator (.error (.computation (.timedOut 1 false))) := by
    refine ⟨.timedOut false, 1, 4, ?_, rfl⟩
    rw [hwaits]
    exact List.mem_cons_self ..
  obtain ⟨r, hsecond, hitems⟩ : ∃ r, s.Reports plainOrchestrator (.ok r) ∧ r.items = [7] := by
    refine ⟨_, ⟨.succeeded [7], 1, 6, ?_, rfl⟩, rfl⟩
    rw [hwaits]
    exact List.mem_cons_of_mem _ (List.mem_cons_self ..)
  have hcompleted : reportedStage (.ok r) = some .completed := rfl
  refine ⟨hstage, ⟨r, hsecond, hitems⟩, fun h => ?_, fun h => ?_⟩
  · have hmatch := h _ hsecond
    rw [hcompleted, hstage] at hmatch
    cases hmatch
  · have hsame := h _ _ hfirst hsecond
    rw [hcompleted] at hsame
    cases hsame

end Scene

end StudyPower
