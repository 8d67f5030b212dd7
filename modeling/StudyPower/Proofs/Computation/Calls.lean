import Mathlib
import StudyPower.Computation.Orchestrator
import StudyPower.Proofs.Computation.Stages
import StudyPower.Proofs.Success

/-!
# Calls that run at once

Several callers submit a computation each and wait for it, while workers, deadlines and a shutdown
take their steps in any order.  A worker that finds its computation given up delivers an empty list
in place of an answer, and a caller could not tell that list from an empty answer of the engine.  It
never sees one: a worker skips the engine only when its caller has stopped looking, because nobody
else asks the computation to stop, and only that caller settles its stage.

## Main definitions

* `Call τ β ρ`, `Call.Move` — one call, with what the engine was asked and has answered on its
  behalf, and everything that happens to it at once.
* `Session τ β ρ`, `Session.Move`, `Session.run` — the calls on one orchestrator.
* `Call.Phase` — how promise, worker and the records of the engine go together.
* `Call.Sound` — the phase, and how the caller stands to it.

## Main statements

* `Call.Sound.move`, `Session.Sound.run` — every step keeps the calls sound.
* `Session.calls_of_run` — **what a caller learns is what the engine did on its behalf, in every
  order of steps.**
-/

namespace StudyPower

variable {τ β ρ : Type}

/-! ### Calls -/

/-- One call: a computation, where its caller stands, and what the engine did on its behalf. -/
structure Call (τ β ρ : Type) where
  /-- The input that the caller submitted. -/
  bundle : β
  /-- The computation. -/
  job : Job τ β ρ
  /-- Where the caller stands. -/
  wait : Wait ρ := .looking
  /-- The inputs that the engine was asked about. -/
  asked : List β := []
  /-- What the engine answered. -/
  answers : List (Answer ρ) := []
  /-- Did a shutdown withdraw the work? -/
  swept : Bool := false

namespace Call

/-- Everything that happens to a call at once. -/
inductive Move (ρ : Type) where
  /-- A worker takes the work up, or passes over it. -/
  | claim
  /-- The worker enters the computation. -/
  | enter
  /-- The worker asks the engine, unless it was asked to stop. -/
  | inspect
  /-- The engine answers. -/
  | answer (a : Answer ρ)
  /-- The worker delivers what it has. -/
  | deliver
  /-- The next step of the caller. -/
  | advance
  /-- A shutdown withdraws the work. -/
  | sweep

/-- A call that was just made. -/
def submitted (bundle : β) (now : τ) : Call τ β ρ := { bundle, job := .submitted bundle now }

/-- What becomes of a call.  The engine is asked when a worker begins to ask, and answers only a
worker that asks. -/
def move (c : Call τ β ρ) (now : τ) : Move ρ → Call τ β ρ
  | .claim => { c with job := c.job.claim }
  | .enter => { c with job := c.job.enter now }
  | .inspect =>
    { c with
      job := c.job.inspect
      asked := if !c.job.isAsking && c.job.inspect.isAsking then c.asked ++ [c.job.input]
        else c.asked }
  | .answer a =>
    { c with
      job := c.job.answer a
      answers := if c.job.isAsking then c.answers ++ [a] else c.answers }
  | .deliver => { c with job := c.job.deliver }
  | .advance =>
    let (wait, job) := Wait.advance now (c.wait, c.job)
    { c with wait, job }
  | .sweep =>
    { c with
      job := c.job.withdraw
      swept := c.swept || c.job.withdraw.promise.isWithdrawn && !c.job.promise.isWithdrawn }

end Call

/-- The calls on one orchestrator. -/
structure Session (τ β ρ : Type) where
  /-- Are computations accepted? -/
  isOpen : Bool := true
  /-- The calls in order of submission. -/
  calls : List (Call τ β ρ) := []

namespace Session

/-- Everything that happens in a session at once. -/
inductive Move (β ρ : Type) where
  /-- A caller submits a computation, and begins to wait when it is accepted. -/
  | submit (bundle : β)
  /-- A shutdown begins. -/
  | close
  /-- Something happens to the call with this number. -/
  | act (n : ℕ) (m : Call.Move ρ)

/-- Work is swept only by a shutdown that has begun. -/
def allows (s : Session τ β ρ) : Call.Move ρ → Bool
  | .sweep => !s.isOpen
  | _ => true

/-- What becomes of a session. -/
def move (s : Session τ β ρ) (now : τ) : Move β ρ → Session τ β ρ
  | .submit bundle =>
    if s.isOpen then { s with calls := s.calls ++ [.submitted bundle now] } else s
  | .close => { s with isOpen := false }
  | .act n m => if s.allows m then { s with calls := s.calls.modify n (·.move now m) } else s

/-- What becomes of a session in a history of steps, each with the reading of the clock. -/
def run (s : Session τ β ρ) (history : List (τ × Move β ρ)) : Session τ β ρ :=
  history.foldl (fun s step => s.move step.1 step.2) s

theorem run_append (s : Session τ β ρ) (history rest : List (τ × Move β ρ)) :
    s.run (history ++ rest) = (s.run history).run rest := List.foldl_append

end Session

/-! ### How the parts of a call go together -/

/-- The caller has stopped looking. -/
def Wait.IsGivingUp : Wait ρ → Prop
  | .signalled | .settling (.timedOut _) | .ended (.timedOut _) => True
  | _ => False

/-- The caller has withdrawn the work itself. -/
def Wait.HasWithdrawn : Wait ρ → Prop
  | .settling (.timedOut true) | .ended (.timedOut true) => True
  | _ => False

/-- What a caller has found is still there to see. -/
def Finding.Holds (promise : Promise ρ) (swept : Bool) : Finding ρ → Prop
  | .timedOut withdrawn => withdrawn = true → promise.isWithdrawn = true
  | .neverRan => promise = .dismissed ∧ swept = true
  | .failed f => promise = .kept (.error f)
  | .succeeded items => promise = .kept (.ok items)

namespace Call

/-- How promise, worker and the records of the engine go together.  The engine is skipped only for a
caller that has stopped looking. -/
inductive Phase (bundle : β) (givingUp : Prop) :
    Promise ρ → Worker ρ → List β → List (Answer ρ) → Prop
  /-- The work is in the queue. -/
  | queued : Phase bundle givingUp .pending .absent [] []
  /-- It was withdrawn. -/
  | withdrawn : Phase bundle givingUp .withdrawn .absent [] []
  /-- It was passed over. -/
  | dismissed : Phase bundle givingUp .dismissed .absent [] []
  /-- A worker has taken it up. -/
  | holding : Phase bundle givingUp .running .holding [] []
  /-- The worker has entered. -/
  | entered : Phase bundle givingUp .running .entered [] []
  /-- The engine was asked. -/
  | asking : Phase bundle givingUp .running .asking [bundle] []
  /-- The engine has answered. -/
  | answered (a : Answer ρ) : Phase bundle givingUp .running (.answered a) [bundle] [a]
  /-- The engine was skipped. -/
  | skipped (h : givingUp) : Phase bundle givingUp .running (.answered (.ok [])) [] []
  /-- The answer was delivered. -/
  | kept (a : Answer ρ) : Phase bundle givingUp (.kept a) .gone [bundle] [a]
  /-- An empty list was delivered in place of an answer. -/
  | excused (h : givingUp) : Phase bundle givingUp (.kept (.ok [])) .gone [] []

/-- The phase of a call, and how its caller stands to it. -/
structure Sound (c : Call τ β ρ) : Prop where
  /-- The computation is about the caller's input. -/
  input : c.job.input = c.bundle
  /-- Promise, worker and records go together. -/
  phase : Phase c.bundle c.wait.IsGivingUp c.job.promise c.job.worker c.asked c.answers
  /-- A running computation has been entered. -/
  running : c.job.handle.stage = .running → c.job.worker.HasEntered
  /-- Only a caller that has stopped looking asks the computation to stop. -/
  cancel : c.job.handle.cancelRequested = true ↔ c.wait.IsGivingUp
  /-- A final stage is reached when the caller is at the end. -/
  final : c.job.handle.stage.isFinal = true → ∃ found, c.wait = .ended found
  /-- It is the stage that follows from what the caller found. -/
  stage : ∀ found, c.wait = .ended found → c.job.handle.stage = found.stage
  /-- What the caller found is still there. -/
  found : ∀ found, c.wait = .settling found ∨ c.wait = .ended found →
    found.Holds c.job.promise c.swept
  /-- Work is withdrawn by a shutdown or by its caller. -/
  withdrawn : c.job.promise.isWithdrawn = true → c.swept = true ∨ c.wait.HasWithdrawn

theorem sound_submitted (bundle : β) (now : τ) : (submitted bundle now : Call τ β ρ).Sound where
  input := rfl
  phase := .queued
  running := by rintro ⟨⟩
  cancel := ⟨by rintro ⟨⟩, fun h => h.elim⟩
  final := by rintro ⟨⟩
  stage := by rintro found ⟨⟩
  found := by rintro found (⟨⟨⟩⟩ | ⟨⟨⟩⟩)
  withdrawn := by rintro ⟨⟩

end Call

/-! ### Steps of a worker -/

/-- A step of a worker: the input stays, a worker that has entered stays so, and so does what there
is to see. -/
structure Job.Progresses (j j' : Job τ β ρ) : Prop where
  /-- The input stays. -/
  input : j'.input = j.input
  /-- A worker that has entered stays so. -/
  entered : j.worker.HasEntered → j'.worker.HasEntered
  /-- Work is neither withdrawn nor put back. -/
  withdrawn : j'.promise.isWithdrawn = true ↔ j.promise.isWithdrawn = true
  /-- Work that was passed over stays so. -/
  dismissed : j.promise = .dismissed → j'.promise = .dismissed
  /-- An answer that was delivered stays. -/
  kept : ∀ a, j.promise = .kept a → j'.promise = .kept a

theorem Job.Progresses.refl (j : Job τ β ρ) : j.Progresses j := ⟨rfl, id, Iff.rfl, id, fun _ => id⟩

namespace Call.Phase

variable {bundle : β} {givingUp givingUp' : Prop} {j : Job τ β ρ} {asked : List β}
  {answers : List (Answer ρ)}

theorem mono {promise : Promise ρ} {worker : Worker ρ}
    (h : Phase bundle givingUp promise worker asked answers) (himp : givingUp → givingUp') :
    Phase bundle givingUp' promise worker asked answers := by
  cases h with
  | queued => exact .queued
  | withdrawn => exact .withdrawn
  | dismissed => exact .dismissed
  | holding => exact .holding
  | entered => exact .entered
  | asking => exact .asking
  | answered a => exact .answered a
  | skipped h => exact .skipped (himp h)
  | kept a => exact .kept a
  | excused h => exact .excused (himp h)

theorem claim (h : Phase bundle givingUp j.promise j.worker asked answers) :
    Phase bundle givingUp j.claim.promise j.claim.worker asked answers ∧ j.Progresses j.claim := by
  obtain ⟨input, handle, promise, worker⟩ := j
  dsimp only at h
  have hstay := h
  cases h with
  | queued => exact ⟨.holding, rfl, id, Iff.rfl, by rintro ⟨⟩, by rintro a ⟨⟩⟩
  | withdrawn => exact ⟨.dismissed, rfl, id, Iff.rfl, by rintro ⟨⟩, by rintro a ⟨⟩⟩
  | _ => exact ⟨hstay, .refl _⟩

/-- A worker that finds the computation given up skips the engine. -/
theorem enter (h : Phase bundle givingUp j.promise j.worker asked answers) (now : τ)
    (hgivenUp : j.promise = .running → j.worker = .holding → j.handle.start? now = none →
      givingUp) :
    Phase bundle givingUp (j.enter now).promise (j.enter now).worker asked answers ∧
      j.Progresses (j.enter now) := by
  obtain ⟨input, handle, promise, worker⟩ := j
  dsimp only at h hgivenUp
  have hstay := h
  cases h with
  | holding =>
    unfold Job.enter
    dsimp only
    cases hstart : handle.start? now with
    | some handle' => exact ⟨.entered, rfl, fun _ => trivial, Iff.rfl, id, fun _ => id⟩
    | none =>
      exact ⟨.skipped (hgivenUp rfl rfl hstart), rfl, fun _ => trivial, Iff.rfl, id, fun _ => id⟩
  | _ => exact ⟨hstay, .refl _⟩

/-- The engine is asked about the caller's input, unless the computation was asked to stop. -/
theorem inspect (h : Phase bundle givingUp j.promise j.worker asked answers)
    (hinput : j.input = bundle) (hcancel : j.handle.cancelRequested = true → givingUp) :
    Phase bundle givingUp j.inspect.promise j.inspect.worker
      (if !j.isAsking && j.inspect.isAsking then asked ++ [j.input] else asked) answers ∧
      j.Progresses j.inspect := by
  obtain ⟨input, handle, promise, worker⟩ := j
  dsimp only at h hinput hcancel
  have hstay := h
  cases h with
  | entered =>
    unfold Job.inspect
    dsimp only
    cases hstop : handle.cancelRequested with
    | true => exact ⟨.skipped (hcancel hstop), rfl, fun _ => trivial, Iff.rfl, id, fun _ => id⟩
    | false =>
      rw [hinput]
      exact ⟨.asking, rfl, fun _ => trivial, Iff.rfl, id, fun _ => id⟩
  | _ => exact ⟨hstay, .refl _⟩

/-- The engine answers once. -/
theorem answer (h : Phase bundle givingUp j.promise j.worker asked answers) (a : Answer ρ) :
    Phase bundle givingUp (j.answer a).promise (j.answer a).worker asked
      (if j.isAsking then answers ++ [a] else answers) ∧ j.Progresses (j.answer a) := by
  obtain ⟨input, handle, promise, worker⟩ := j
  dsimp only at h
  have hstay := h
  cases h with
  | asking => exact ⟨.answered a, rfl, fun _ => trivial, Iff.rfl, id, fun _ => id⟩
  | _ => exact ⟨hstay, .refl _⟩

theorem deliver (h : Phase bundle givingUp j.promise j.worker asked answers) :
    Phase bundle givingUp j.deliver.promise j.deliver.worker asked answers ∧
      j.Progresses j.deliver := by
  obtain ⟨input, handle, promise, worker⟩ := j
  dsimp only at h
  have hstay := h
  cases h with
  | answered a =>
    exact ⟨.kept a, rfl, fun _ => trivial, Iff.rfl, by rintro ⟨⟩, by rintro b ⟨⟩⟩
  | skipped h =>
    exact ⟨.excused h, rfl, fun _ => trivial, Iff.rfl, by rintro ⟨⟩, by rintro b ⟨⟩⟩
  | _ => exact ⟨hstay, .refl _⟩

/-- Withdrawing concerns only work in the queue. -/
theorem withdraw (h : Phase bundle givingUp j.promise j.worker asked answers) :
    Phase bundle givingUp j.withdraw.promise j.withdraw.worker asked answers := by
  obtain ⟨input, handle, promise, worker⟩ := j
  dsimp only at h
  have hstay := h
  cases h with
  | queued => exact .withdrawn
  | _ => exact hstay

end Call.Phase

/-! ### Steps of a call -/

theorem Promise.isWithdrawn_withdraw {promise : Promise ρ} (h : promise.isWithdrawn = true) :
    promise.withdraw.isWithdrawn = true := by
  cases promise with
  | pending => rfl
  | running | withdrawn | dismissed | kept => exact h

theorem Finding.Holds.mono {found : Finding ρ} {promise promise' : Promise ρ} {swept swept' : Bool}
    (h : found.Holds promise swept)
    (hwithdrawn : promise.isWithdrawn = true → promise'.isWithdrawn = true)
    (hdismissed : promise = .dismissed → promise' = .dismissed)
    (hkept : ∀ a, promise = .kept a → promise' = .kept a)
    (hswept : swept = true → swept' = true) : found.Holds promise' swept' := by
  cases found with
  | timedOut withdrawn => exact fun htrue => hwithdrawn (h htrue)
  | neverRan => exact ⟨hdismissed h.1, hswept h.2⟩
  | failed f => exact hkept _ h
  | succeeded items => exact hkept _ h

/-- A worker that holds a submitted computation starts it; any other leaves the handle alone. -/
theorem Job.enter_cases (j : Job τ β ρ) (now : τ) :
    (j.enter now).handle = j.handle ∨ j.handle.stage = .submitted ∧
      (j.enter now).worker = .entered ∧
      (j.enter now).handle = { j.handle with stage := .running, startedAt := some now } := by
  unfold Job.enter
  split
  · split
    · next handle hstart =>
      unfold Handle.start? at hstart
      split at hstart
      · next hsubmitted =>
        cases hstart
        exact .inr ⟨hsubmitted, rfl, rfl⟩
      · cases hstart
    · exact .inl rfl
  · exact .inl rfl

namespace Call.Sound

variable {c : Call τ β ρ}

/-- A step of the worker that leaves the handle alone. -/
theorem of_progresses (h : c.Sound) {job : Job τ β ρ} {asked : List β} {answers : List (Answer ρ)}
    (hstep : Phase c.bundle c.wait.IsGivingUp job.promise job.worker asked answers ∧
      c.job.Progresses job) (hhandle : job.handle = c.job.handle) :
    ({ c with job, asked, answers } : Call τ β ρ).Sound where
  input := hstep.2.input.trans h.input
  phase := hstep.1
  running := by
    rw [hhandle]
    exact fun hrunning => hstep.2.entered (h.running hrunning)
  cancel := by
    rw [hhandle]
    exact h.cancel
  final := by
    rw [hhandle]
    exact h.final
  stage := by
    rw [hhandle]
    exact h.stage
  found := fun found hfound => (h.found found hfound).mono hstep.2.withdrawn.mpr
    hstep.2.dismissed hstep.2.kept id
  withdrawn := fun hwithdrawn => h.withdrawn (hstep.2.withdrawn.mp hwithdrawn)

/-- A worker finds the computation given up only when the caller has stopped looking. -/
theorem givingUp_of_start (h : c.Sound) {now : τ} (hpromise : c.job.promise = .running)
    (hworker : c.job.worker = .holding) (hstart : c.job.handle.start? now = none) :
    c.wait.IsGivingUp := by
  have hsubmitted : c.job.handle.stage ≠ .submitted := by
    intro hsubmitted
    unfold Handle.start? at hstart
    rw [if_pos hsubmitted] at hstart
    cases hstart
  have hrunning : c.job.handle.stage ≠ .running := by
    intro hrunning
    have hentered := h.running hrunning
    rw [hworker] at hentered
    exact hentered
  have hfinal : c.job.handle.stage.isFinal = true := by
    cases hstage : c.job.handle.stage with
    | submitted => exact absurd hstage hsubmitted
    | running => exact absurd hstage hrunning
    | completed | timedOut | failed => rfl
  obtain ⟨found, hended⟩ := h.final hfinal
  have hholds := h.found found (.inr hended)
  rw [hpromise] at hholds
  rw [hended]
  -- with the work in the hands of a worker, there is nothing that the caller can have found
  cases found with
  | timedOut withdrawn => trivial
  | neverRan => cases hholds.1
  | failed f => cases hholds
  | succeeded items => cases hholds

theorem enter (h : c.Sound) (now : τ) : (c.move now .enter).Sound := by
  have hstep := h.phase.enter now h.givingUp_of_start
  rcases c.job.enter_cases now with hhandle | ⟨hsubmitted, hworker, hhandle⟩
  · exact h.of_progresses hstep hhandle
  · -- the computation starts to run, so its caller is not at the end
    have hnotEnded : ∀ found, c.wait ≠ .ended found := by
      intro found hended
      have hfinal := found.isFinal_stage
      rw [← h.stage found hended, hsubmitted] at hfinal
      cases hfinal
    exact {
      input := hstep.2.input.trans h.input
      phase := hstep.1
      running := by
        intro _
        change (c.job.enter now).worker.HasEntered
        rw [hworker]
        trivial
      cancel := by
        change (c.job.enter now).handle.cancelRequested = true ↔ _
        rw [hhandle]
        exact h.cancel
      final := by
        change (c.job.enter now).handle.stage.isFinal = true → _
        rw [hhandle]
        rintro ⟨⟩
      stage := fun found hended => absurd hended (hnotEnded found)
      found := fun found hfound => (h.found found hfound).mono hstep.2.withdrawn.mpr
        hstep.2.dismissed hstep.2.kept id
      withdrawn := fun hwithdrawn => h.withdrawn (hstep.2.withdrawn.mp hwithdrawn) }

/-- A caller that is not at the end has not settled the stage. -/
theorem not_final (h : c.Sound) (hwait : ∀ found, c.wait ≠ .ended found) :
    c.job.handle.stage.isFinal = false := by
  cases hfinal : c.job.handle.stage.isFinal with
  | false => rfl
  | true =>
    obtain ⟨found, hended⟩ := h.final hfinal
    exact absurd hended (hwait found)

/-- What a caller sees holds, and it has not given up. -/
theorem holds_of_look (h : c.Sound) (hwait : c.wait = .looking) {found : Finding ρ}
    (hlook : c.job.look = some found) :
    found.Holds c.job.promise c.swept ∧ ¬ (Wait.settling found).IsGivingUp := by
  unfold Job.look at hlook
  split at hlook
  · next items hkept =>
    cases hlook
    exact ⟨hkept, id⟩
  · next f hkept =>
    cases hlook
    exact ⟨hkept, id⟩
  · next hdismissed =>
    cases hlook
    refine ⟨⟨hdismissed, ?_⟩, id⟩
    -- a caller that still looks has not withdrawn the work, so a shutdown has
    rcases h.withdrawn (by rw [hdismissed]; rfl) with hswept | hself
    · exact hswept
    · rw [hwait] at hself
      exact hself.elim
  · cases hlook
  · cases hlook
  · cases hlook

/-- The caller looks. -/
theorem look (h : c.Sound) (hwait : c.wait = .looking) (now : τ) : (c.move now .advance).Sound := by
  have hcancel : ¬ c.job.handle.cancelRequested = true := by
    rw [h.cancel, hwait]
    exact id
  have hgivingUp : ¬ c.wait.IsGivingUp := by
    rw [hwait]
    exact id
  have hopen := h.not_final (fun found hended => by rw [hwait] at hended; cases hended)
  have hwithdrawn : c.job.promise.isWithdrawn = true → c.swept = true := by
    intro hpromise
    rcases h.withdrawn hpromise with hswept | hself
    · exact hswept
    · rw [hwait] at hself
      exact hself.elim
  have hlooked : ∀ w : Wait ρ, ¬ w.IsGivingUp → (∀ found, w ≠ .ended found) →
      (∀ found, w = .settling found → found.Holds c.job.promise c.swept) →
      ({ c with wait := w } : Call τ β ρ).Sound := by
    intro w hnotUp hnotEnded hholds
    exact {
      input := h.input
      phase := h.phase.mono fun hup => absurd hup hgivingUp
      running := h.running
      cancel := iff_of_false hcancel hnotUp
      final := fun hfinal => absurd (hopen.symm.trans hfinal) Bool.false_ne_true
      stage := fun found hended => absurd hended (hnotEnded found)
      found := fun found hfound => hfound.elim (hholds found) fun hended =>
        absurd hended (hnotEnded found)
      withdrawn := fun hpromise => .inl (hwithdrawn hpromise) }
  cases hlook : c.job.look with
  | none =>
    have hmove : c.move now .advance = { c with wait := .expired } := by
      unfold Call.move
      rw [hwait]
      simp only [Wait.advance, hlook]
    rw [hmove]
    refine hlooked _ id ?_ ?_
    · rintro found ⟨⟩
    · rintro found ⟨⟩
  | some seen =>
    obtain ⟨hholds, hnotUp⟩ := h.holds_of_look hwait hlook
    have hmove : c.move now .advance = { c with wait := .settling seen } := by
      unfold Call.move
      rw [hwait]
      simp only [Wait.advance, hlook]
    rw [hmove]
    refine hlooked _ hnotUp ?_ ?_
    · rintro found ⟨⟩
    · rintro found ⟨⟩
      exact hholds

/-- The caller asks the computation to stop. -/
theorem expire (h : c.Sound) (hwait : c.wait = .expired) (now : τ) :
    (c.move now .advance).Sound := by
  have hopen := h.not_final (fun found hended => by rw [hwait] at hended; cases hended)
  have hmove : c.move now .advance = { c with wait := .signalled, job := c.job.requestCancel } := by
    unfold Call.move
    rw [hwait]
    rfl
  rw [hmove]
  exact {
    input := h.input
    phase := h.phase.mono fun _ => trivial
    running := h.running
    cancel := iff_of_true rfl trivial
    final := fun hfinal => absurd (hopen.symm.trans hfinal) Bool.false_ne_true
    stage := by rintro found ⟨⟩
    found := by rintro found (⟨⟨⟩⟩ | ⟨⟨⟩⟩)
    withdrawn := by
      intro hpromise
      rcases h.withdrawn hpromise with hswept | hself
      · exact .inl hswept
      · rw [hwait] at hself
        exact hself.elim }

/-- The caller withdraws the work. -/
theorem signal (h : c.Sound) (hwait : c.wait = .signalled) (now : τ) :
    (c.move now .advance).Sound := by
  have hopen := h.not_final (fun found hended => by rw [hwait] at hended; cases hended)
  have hmove : c.move now .advance =
      { c with
        wait := .settling (.timedOut c.job.withdraw.promise.isWithdrawn)
        job := c.job.withdraw } := by
    unfold Call.move
    rw [hwait]
    rfl
  rw [hmove]
  exact {
    input := h.input
    phase := h.phase.withdraw.mono fun _ => trivial
    running := h.running
    cancel := by
      refine h.cancel.trans (iff_of_true ?_ trivial)
      rw [hwait]
      trivial
    final := fun hfinal => absurd (hopen.symm.trans hfinal) Bool.false_ne_true
    stage := by rintro found ⟨⟩
    found := by
      rintro found (hfound | ⟨⟨⟩⟩)
      cases hfound
      exact id
    withdrawn := by
      -- the caller takes what it finds withdrawn for its own doing, also after a shutdown
      intro hpromise
      right
      change Wait.HasWithdrawn (.settling (.timedOut c.job.withdraw.promise.isWithdrawn))
      rw [hpromise]
      trivial }

/-- The caller settles the stage. -/
theorem settle (h : c.Sound) {seen : Finding ρ} (hwait : c.wait = .settling seen) (now : τ) :
    (c.move now .advance).Sound := by
  have hopen := h.not_final (fun found hended => by rw [hwait] at hended; cases hended)
  have hhandle : (c.job.handle.settle seen.stage now) =
      { c.job.handle with stage := seen.stage, finishedAt := some now } := by
    unfold Handle.settle
    rw [hopen]
    rfl
  have hmove : c.move now .advance =
      { c with
        wait := .ended seen
        job := { c.job with
          handle := { c.job.handle with stage := seen.stage, finishedAt := some now } } } := by
    rw [← hhandle]
    unfold Call.move
    rw [hwait]
    rfl
  have hup : c.wait.IsGivingUp ↔ (Wait.ended seen).IsGivingUp := by
    rw [hwait]
    cases seen <;> exact Iff.rfl
  rw [hmove]
  exact {
    input := h.input
    phase := h.phase.mono hup.mp
    running := by
      intro hrunning
      have hfinal := seen.isFinal_stage
      change seen.stage = .running at hrunning
      rw [hrunning] at hfinal
      cases hfinal
    cancel := h.cancel.trans hup
    final := fun _ => ⟨seen, rfl⟩
    stage := by
      rintro found ⟨⟩
      rfl
    found := by
      rintro found (⟨⟨⟩⟩ | hfound)
      cases hfound
      exact h.found seen (.inl hwait)
    withdrawn := by
      intro hpromise
      rcases h.withdrawn hpromise with hswept | hself
      · exact .inl hswept
      · right
        rw [hwait] at hself
        cases seen with
        | timedOut withdrawn =>
          cases withdrawn with
          | true => trivial
          | false => exact hself
        | neverRan | failed | succeeded => exact hself }

theorem advance (h : c.Sound) (now : τ) : (c.move now .advance).Sound := by
  cases hwait : c.wait with
  | looking => exact h.look hwait now
  | expired => exact h.expire hwait now
  | signalled => exact h.signal hwait now
  | settling found => exact h.settle hwait now
  | ended found =>
    have hmove : c.move now .advance = c := by
      unfold Call.move
      rw [hwait]
      dsimp only [Wait.advance]
      rw [← hwait]
    rw [hmove]
    exact h

/-- A shutdown withdraws work in the queue. -/
theorem sweep (h : c.Sound) (now : τ) : (c.move now .sweep).Sound where
  input := h.input
  phase := h.phase.withdraw
  running := h.running
  cancel := h.cancel
  final := h.final
  stage := h.stage
  found := by
    intro found hfound
    refine (h.found found hfound).mono ?_ ?_ ?_ fun hswept => ?_
    · exact Promise.isWithdrawn_withdraw
    · intro hdismissed
      change c.job.promise.withdraw = .dismissed
      rw [hdismissed]
      rfl
    · intro a hkept
      change c.job.promise.withdraw = .kept a
      rw [hkept]
      rfl
    · change (c.swept || _) = true
      rw [hswept, Bool.true_or]
  withdrawn := by
    intro hpromise
    change c.job.withdraw.promise.isWithdrawn = true at hpromise
    change (c.swept || c.job.withdraw.promise.isWithdrawn && _) = true ∨ c.wait.HasWithdrawn
    rw [hpromise]
    cases hbefore : c.job.promise.isWithdrawn with
    | false => exact .inl (Bool.or_true _)
    | true =>
      rcases h.withdrawn hbefore with hswept | hself
      · left
        rw [hswept, Bool.true_or]
      · exact .inr hself

/-- Every step keeps a call sound. -/
theorem move (h : c.Sound) (now : τ) (m : Move ρ) : (c.move now m).Sound := by
  cases m with
  | claim => exact h.of_progresses h.phase.claim c.job.handle_claim
  | enter => exact h.enter now
  | inspect =>
    exact h.of_progresses (h.phase.inspect h.input h.cancel.mp) c.job.handle_inspect
  | answer a => exact h.of_progresses (h.phase.answer a) (c.job.handle_answer a)
  | deliver => exact h.of_progresses h.phase.deliver c.job.handle_deliver
  | advance => exact h.advance now
  | sweep => exact h.sweep now

end Call.Sound

/-! ### Sessions -/

namespace Session

/-- Every call is sound, and work is swept only by a shutdown. -/
structure Sound (s : Session τ β ρ) : Prop where
  /-- Every call is sound. -/
  call : ∀ (n : ℕ) (c : Call τ β ρ), s.calls[n]? = some c → c.Sound
  /-- Work is swept only after the session was closed. -/
  swept : ∀ (n : ℕ) (c : Call τ β ρ), s.calls[n]? = some c → c.swept = true → s.isOpen = false

theorem sound_empty : ({} : Session τ β ρ).Sound where
  call := by
    intro n c hc
    cases hc
  swept := by
    intro n c hc
    cases hc

variable {s : Session τ β ρ}

/-- A step sweeps a call only when it is allowed to. -/
theorem swept_of_move {c : Call τ β ρ} {now : τ} {m : Call.Move ρ}
    (h : (c.move now m).swept = true) : c.swept = true ∨ m = .sweep := by
  cases m with
  | sweep => exact .inr rfl
  | claim | enter | inspect | answer | deliver | advance => exact .inl h

/-- Every step keeps the calls sound. -/
theorem Sound.move (h : s.Sound) (now : τ) (m : Move β ρ) : (s.move now m).Sound := by
  cases m with
  | submit bundle =>
    unfold Session.move
    dsimp only
    split
    · constructor
      · intro n c hc
        rcases List.mem_append.mp (List.mem_of_getElem? hc) with hbefore | hnew
        · obtain ⟨i, hi⟩ := List.getElem?_of_mem hbefore
          exact h.call i c hi
        · rw [List.mem_singleton.mp hnew]
          exact Call.sound_submitted bundle now
      · intro n c hc hswept
        rcases List.mem_append.mp (List.mem_of_getElem? hc) with hbefore | hnew
        · obtain ⟨i, hi⟩ := List.getElem?_of_mem hbefore
          exact h.swept i c hi hswept
        · rw [List.mem_singleton.mp hnew] at hswept
          cases hswept
    · exact h
  | close => exact ⟨h.call, fun _ _ _ _ => rfl⟩
  | act k m =>
    unfold Session.move
    dsimp only
    split
    · next hallowed =>
      have hold : ∀ (n : ℕ) (c : Call τ β ρ), (s.calls.modify k (·.move now m))[n]? = some c →
          ∃ c₀ : Call τ β ρ, s.calls[n]? = some c₀ ∧ (c = c₀ ∨ c = c₀.move now m) := by
        intro n c hc
        rw [List.getElem?_modify] at hc
        obtain ⟨c₀, hc₀, rfl⟩ := Option.map_eq_some_iff.mp hc
        refine ⟨c₀, hc₀, ?_⟩
        split
        · exact .inr rfl
        · exact .inl rfl
      constructor
      · intro n c hc
        obtain ⟨c₀, hc₀, rfl | rfl⟩ := hold n c hc
        · exact h.call n c hc₀
        · exact (h.call n c₀ hc₀).move now m
      · intro n c hc hswept
        obtain ⟨c₀, hc₀, rfl | rfl⟩ := hold n c hc
        · exact h.swept n c hc₀ hswept
        · rcases swept_of_move hswept with hbefore | rfl
          · exact h.swept n c₀ hc₀ hbefore
          · exact Bool.not_eq_true' _ |>.mp hallowed
    · exact h

theorem Sound.run (h : s.Sound) (history : List (τ × Move β ρ)) : (s.run history).Sound := by
  induction history generalizing s with
  | nil => exact h
  | cons step history ih => exact ih (h.move step.1 step.2)

/-- A call goes on in a session, and keeps what every step keeps. -/
theorem Sound.call_of_run (h : s.Sound) {P : Call τ β ρ → Prop}
    (hP : ∀ (c : Call τ β ρ) (now : τ) (m : Call.Move ρ), c.Sound → P c → P (c.move now m))
    {n : ℕ} {c : Call τ β ρ} (hc : s.calls[n]? = some c) (hPc : P c)
    (history : List (τ × Move β ρ)) : ∃ c', (s.run history).calls[n]? = some c' ∧ P c' := by
  induction history generalizing s c with
  | nil => exact ⟨c, hc, hPc⟩
  | cons step history ih =>
    obtain ⟨now, m⟩ := step
    suffices hstep : ∃ c', (s.move now m).calls[n]? = some c' ∧ P c' by
      obtain ⟨c', hc', hPc'⟩ := hstep
      exact ih (h.move now m) hc' hPc'
    cases m with
    | submit bundle =>
      unfold Session.move
      dsimp only
      split
      · refine ⟨c, ?_, hPc⟩
        obtain ⟨hlt, -⟩ := List.getElem?_eq_some_iff.mp hc
        rw [List.getElem?_append_left hlt, hc]
      · exact ⟨c, hc, hPc⟩
    | close => exact ⟨c, hc, hPc⟩
    | act k m =>
      unfold Session.move
      dsimp only
      split
      · rw [List.getElem?_modify, hc]
        refine ⟨_, rfl, ?_⟩
        split
        · exact hP c now m (h.call n c hc) hPc
        · exact hPc
      · exact ⟨c, hc, hPc⟩

end Session

/-! ### What a caller learns -/

namespace Orchestrator

variable [Sub τ] {o : Orchestrator τ β ρ} {seconds : Float} {now : τ} {handle : Handle τ}
  {found : Finding ρ}

/-- Results are the items of an answer. -/
theorem succeeded_of_classify {r : Completion τ ρ}
    (h : o.classify seconds now handle found = .ok r) : found = .succeeded r.items := by
  cases found with
  | timedOut withdrawn => cases h
  | neverRan => cases h
  | failed f =>
    unfold classify at h
    dsimp only at h
    split at h
    · cases h
    · cases h
  | succeeded items =>
    cases h
    rfl

/-- A deadline passes only for a caller that found nothing. -/
theorem timedOut_of_classify {limit : Float} {withdrawn : Bool}
    (h : o.classify seconds now handle found =
      .error (.computation (.timedOut limit withdrawn))) : found = .timedOut withdrawn := by
  cases found with
  | timedOut withdrawn' =>
    cases h
    rfl
  | neverRan => cases h
  | failed f =>
    unfold classify at h
    dsimp only at h
    split at h
    · next fault hfault =>
      cases h
      unfold ComputationFault.ofFailure at hfault
      split at hfault
      · obtain ⟨text, -, htext⟩ := Except.map_eq_ok_iff.mp hfault
        cases htext
      · split at hfault
        · cases hfault
        · cases hfault
    · cases h
  | succeeded items => cases h

/-- Any other fault is a failure, or work that was withdrawn. -/
theorem failed_of_classify {fault : ComputationFault}
    (h : o.classify seconds now handle found = .error (.computation fault))
    (hfault : (∃ message, fault = .badInput message) ∨ fault = .internal) :
    found = .neverRan ∨ ∃ f, found = .failed f := by
  cases found with
  | timedOut withdrawn =>
    cases h
    exact absurd hfault (by simp)
  | neverRan => exact .inl rfl
  | failed f => exact .inr ⟨f, rfl⟩
  | succeeded items => cases h

end Orchestrator

namespace Call

variable {c : Call τ β ρ}

namespace Phase

variable {bundle : β} {givingUp : Prop} {promise : Promise ρ} {worker : Worker ρ} {asked : List β}
  {answers : List (Answer ρ)}

/-- The engine is asked at most once, about the caller's input. -/
theorem asked_eq (h : Phase bundle givingUp promise worker asked answers) :
    asked = [] ∨ asked = [bundle] := by
  cases h with
  | asking | answered | kept => exact .inr rfl
  | queued | withdrawn | dismissed | holding | entered | skipped | excused => exact .inl rfl

/-- It is not asked about work that was withdrawn. -/
theorem asked_of_isWithdrawn (h : Phase bundle givingUp promise worker asked answers)
    (hwithdrawn : promise.isWithdrawn = true) : asked = [] := by
  cases h with
  | withdrawn | dismissed => rfl
  | queued | holding | entered | asking | answered | skipped | kept | excused => cases hwithdrawn

/-- What was delivered is the engine's only answer, unless the caller has stopped looking. -/
theorem answers_of_kept {a : Answer ρ} (h : Phase bundle givingUp (.kept a) worker asked answers) :
    asked = [bundle] ∧ answers = [a] ∨ a = .ok [] ∧ givingUp := by
  cases h with
  | kept => exact .inl ⟨rfl, rfl⟩
  | excused hup => exact .inr ⟨rfl, hup⟩

end Phase

/-- Work that was withdrawn stays so. -/
theorem Sound.isWithdrawn_move (h : c.Sound) {now : τ} {m : Move ρ}
    (hwithdrawn : c.job.promise.isWithdrawn = true) :
    (c.move now m).job.promise.isWithdrawn = true := by
  cases m with
  | claim => exact h.phase.claim.2.withdrawn.mpr hwithdrawn
  | enter => exact (h.phase.enter now h.givingUp_of_start).2.withdrawn.mpr hwithdrawn
  | inspect => exact (h.phase.inspect h.input h.cancel.mp).2.withdrawn.mpr hwithdrawn
  | answer a => exact (h.phase.answer a).2.withdrawn.mpr hwithdrawn
  | deliver => exact h.phase.deliver.2.withdrawn.mpr hwithdrawn
  | sweep => exact Promise.isWithdrawn_withdraw hwithdrawn
  | advance =>
    unfold Call.move Wait.advance
    cases c.wait with
    | looking =>
      dsimp only
      split
      · exact hwithdrawn
      · exact hwithdrawn
    | signalled => exact Promise.isWithdrawn_withdraw hwithdrawn
    | expired | settling | ended => exact hwithdrawn

end Call

namespace Session

variable [Sub τ]

/-- **What a caller learns is what the engine did on its behalf, in every order of steps.**  Results
are the engine's only answer.  After a deadline the computation was asked to stop, and the engine
never sees work that the caller withdrew.  Any other fault is the engine's only answer, or the work
was swept by a shutdown.  The engine is asked at most once in any case. -/
theorem calls_of_run (history : List (τ × Move β ρ)) {n : ℕ} {c : Call τ β ρ}
    (hc : (({} : Session τ β ρ).run history).calls[n]? = some c) :
    (c.asked = [] ∨ c.asked = [c.bundle]) ∧
    ∀ found, c.wait = .ended found → ∀ (o : Orchestrator τ β ρ) (seconds : Float) (now : τ),
      (∀ r, o.classify seconds now c.job.handle found = .ok r →
        c.asked = [c.bundle] ∧ c.answers = [.ok r.items]) ∧
      (∀ limit withdrawn, o.classify seconds now c.job.handle found =
          .error (.computation (.timedOut limit withdrawn)) →
        c.job.handle.cancelRequested = true ∧ c.job.handle.stage = .timedOut ∧
        (withdrawn = true → ∀ rest : List (τ × Move β ρ),
          ∃ c', (({} : Session τ β ρ).run (history ++ rest)).calls[n]? = some c' ∧
            c'.asked = [])) ∧
      (∀ fault, o.classify seconds now c.job.handle found = .error (.computation fault) →
        (∃ message, fault = .badInput message) ∨ fault = .internal →
        c.job.handle.stage = .failed ∧
        (c.asked = [c.bundle] ∧ (∃ f, c.answers = [.error f]) ∨
          c.asked = [] ∧ c.swept = true ∧
            (({} : Session τ β ρ).run history).isOpen = false)) := by
  have hsession : (({} : Session τ β ρ).run history).Sound := sound_empty.run history
  have hcall := hsession.call n c hc
  refine ⟨hcall.phase.asked_eq, fun found hended o seconds now => ⟨?_, ?_, ?_⟩⟩
  · intro r hr
    obtain rfl := Orchestrator.succeeded_of_classify hr
    have hkept : c.job.promise = .kept (.ok r.items) := hcall.found _ (.inr hended)
    have hphase := hcall.phase
    rw [hkept] at hphase
    rcases hphase.answers_of_kept with hanswer | ⟨-, hup⟩
    · exact hanswer
    · rw [hended] at hup
      exact hup.elim
  · intro limit withdrawn hfault
    obtain rfl := Orchestrator.timedOut_of_classify hfault
    refine ⟨hcall.cancel.mpr (by rw [hended]; trivial), hcall.stage _ hended, ?_⟩
    intro hself rest
    have hwithdrawn : c.job.promise.isWithdrawn = true := hcall.found _ (.inr hended) hself
    rw [run_append]
    -- work that was withdrawn stays so, and the engine is not asked about it
    obtain ⟨c', hc', hsound, hstill⟩ := hsession.call_of_run
      (P := fun c => c.Sound ∧ c.job.promise.isWithdrawn = true)
      (fun c now m hc h => ⟨hc.move now m, hc.isWithdrawn_move h.2⟩) hc ⟨hcall, hwithdrawn⟩ rest
    exact ⟨c', hc', hsound.phase.asked_of_isWithdrawn hstill⟩
  · intro fault hfault hkind
    have hholds := hcall.found _ (.inr hended)
    rcases Orchestrator.failed_of_classify hfault hkind with rfl | ⟨f, rfl⟩
    · have hnever : c.asked = [] := hcall.phase.asked_of_isWithdrawn (by rw [hholds.1]; rfl)
      exact ⟨hcall.stage _ hended, .inr ⟨hnever, hholds.2, hsession.swept n c hc hholds.2⟩⟩
    · have hphase := hcall.phase
      have hkept : c.job.promise = .kept (.error f) := hholds
      rw [hkept] at hphase
      rcases hphase.answers_of_kept with ⟨hasked, hanswer⟩ | ⟨⟨⟩, -⟩
      exact ⟨hcall.stage _ hended, .inl ⟨hasked, f, hanswer⟩⟩

/-- Four callers.  The engine has an empty answer for the first and fails for the second, the third
gives up before a worker comes by, and the fourth is swept by a shutdown. -/
def fourCallers : List (ℤ × Move ℕ ℕ) := [
  (0, .submit 7), (0, .submit 8), (1, .act 0 .claim), (1, .submit 9), (1, .act 1 .claim),
  (2, .act 1 .enter), (2, .act 0 .enter), (2, .submit 10), (3, .act 0 .inspect),
  (3, .act 2 .advance), (3, .act 1 .inspect), (4, .act 2 .advance), (4, .act 2 .advance),
  (5, .act 1 (.answer (.error ⟨.arithmetic, "division by zero"⟩))), (5, .act 1 .deliver),
  (6, .act 0 (.answer (.ok []))), (6, .close), (6, .act 3 .sweep), (7, .act 3 .claim),
  (7, .act 3 .advance), (7, .act 0 .deliver), (8, .act 1 .advance), (8, .act 0 .advance),
  (8, .act 3 .advance), (8, .act 1 .advance), (8, .act 0 .advance), (8, .act 2 .advance)]

/-- The first caller gets the engine's own empty answer, the second and the fourth learn of a fault
inside, and the engine never sees the work of the third. -/
theorem calls_of_run_fourCallers :
    let s := ({} : Session ℤ ℕ ℕ).run fourCallers
    ∃ answered failed withdrawn swept,
      s.calls = [answered, failed, withdrawn, swept] ∧
      answered.asked = [7] ∧ answered.answers = [.ok []] ∧
      failed.job.handle.stage = .failed ∧
      withdrawn.job.handle.cancelRequested = true ∧ withdrawn.job.handle.stage = .timedOut ∧
      (∀ rest : List (ℤ × Move ℕ ℕ), ∃ c,
        (({} : Session ℤ ℕ ℕ).run (fourCallers ++ rest)).calls[2]? = some c ∧ c.asked = []) ∧
      swept.job.handle.stage = .failed ∧ swept.asked = [] ∧ swept.swept = true ∧
      s.isOpen = false := by
  intro s
  let o : Orchestrator ℤ ℕ ℕ := { engine := {}, settings := .standard "worker" }
  obtain ⟨-, hfirst⟩ := calls_of_run fourCallers (n := 0) rfl
  obtain ⟨-, hsecond⟩ := calls_of_run fourCallers (n := 1) rfl
  obtain ⟨-, hthird⟩ := calls_of_run fourCallers (n := 2) rfl
  obtain ⟨-, hfourth⟩ := calls_of_run fourCallers (n := 3) rfl
  obtain ⟨hasked, hanswers⟩ := (hfirst (.succeeded []) rfl o 1 8).1 _ rfl
  obtain ⟨hcancel, hstage, hnever⟩ := (hthird (.timedOut true) rfl o 1 8).2.1 _ _ rfl
  obtain ⟨hfailed, -⟩ := (hsecond (.failed ⟨.arithmetic, "division by zero"⟩) rfl o 1 8).2.2
    .internal rfl (.inr rfl)
  obtain ⟨hfailed', ⟨hone, -⟩ | ⟨hnone, hswept, hclosed⟩⟩ :=
    (hfourth .neverRan rfl o 1 8).2.2 .internal rfl (.inr rfl)
  · cases hone
  · exact ⟨_, _, _, _, rfl, hasked, hanswers, hfailed, hcancel, hstage, hnever rfl, hfailed',
      hnone, hswept, hclosed⟩

end Session

end StudyPower
