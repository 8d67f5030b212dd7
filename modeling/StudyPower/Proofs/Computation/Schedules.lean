import Mathlib
import StudyPower.Proofs.Computation.Calls
import StudyPower.Proofs.Computation.Run

/-!
# Sessions of an orchestrator

An orchestrator acts on its jobs in larger strides than a session: a worker that deals with a job, a
caller that waits for it and a shutdown each take several steps with nobody acting in between.  Each
of these strides is a schedule of a session, so what holds of every session holds of the orchestrator
too.

## Main definitions

* `Session.Shows s o` — the orchestrator keeps the jobs of the session.
* `Session.acts now n steps` — one party takes these steps of the call `n` in one stride.
* `Call.IsWork a steps` — what a worker does with a call from the beginning to the end, when the engine
  answers `a`.

## Main statements

* `Session.run_acts` — steps of one call change that call only.
* `Session.shows_submit`, `Session.shows_act`, `Session.shows_wait`, `Session.shows_shutdown` — what
  callers do.
* `Session.shows_claim`, `Session.shows_beginAsking`, `Session.shows_conclude`,
  `Session.shows_deliver` — what workers do.
* `Session.shows_work` — a worker that deals with a job takes the steps of a worker.
* `Session.shows_run` — **a run is a schedule of the session, and its outcome is the class of what
  its caller has found.**
-/

namespace StudyPower

variable {τ β ρ : Type}

/-! ### Schedules -/

/-- Several steps of a call at one reading of the clock. -/
def Call.moves (c : Call τ β ρ) (now : τ) (steps : List (Call.Move ρ)) : Call τ β ρ :=
  steps.foldl (fun c m => c.move now m) c

namespace Session

/-- Several steps of the call with this number at one reading of the clock. -/
def acts (now : τ) (n : ℕ) (steps : List (Call.Move ρ)) : List (τ × Move β ρ) :=
  steps.map fun m => (now, .act n m)

variable {s : Session τ β ρ} {o : Orchestrator τ β ρ}

/-! ### Callers -/

/-- Four steps of a caller without interference are the whole wait. -/
theorem advance_four {c : Call τ β ρ} (hwait : c.wait = .looking) (now : τ) :
    let c' := (((c.move now .advance).move now .advance).move now .advance).move now .advance
    c'.wait = .ended (c.job.wait now).1 ∧ c'.job = (c.job.wait now).2 := by
  intro c'
  have hfour := Wait.advance_four now c.job
  rw [← hwait] at hfour
  exact Prod.mk.inj hfour

/-- The orchestrator keeps the jobs of the session, and accepts computations as long. -/
def Shows (s : Session τ β ρ) (o : Orchestrator τ β ρ) : Prop :=
  o.isOpen = s.isOpen ∧ o.jobs = s.calls.map (·.job)

/-- A computation that is accepted is another call. -/
theorem shows_submit (h : s.Shows o) {bundle : β} {now : τ} {o' : Orchestrator τ β ρ}
    (ho : o.submit bundle now = .ok o') : (s.move now (.submit bundle)).Shows o' := by
  obtain ⟨hopen, hjobs⟩ := h
  unfold Orchestrator.submit at ho
  unfold Session.move
  dsimp only
  rw [← hopen]
  split at ho
  · next hyes =>
    cases ho
    rw [if_pos hyes]
    refine ⟨rfl, ?_⟩
    change o.jobs ++ [Job.submitted bundle now] = _
    rw [hjobs, List.map_append]
    rfl
  · cases ho

/-- It comes after the others. -/
theorem getElem?_submit (h : s.Shows o) {bundle : β} {now : τ} {o' : Orchestrator τ β ρ}
    (ho : o.submit bundle now = .ok o') :
    (s.move now (.submit bundle)).calls[s.calls.length]? = some (.submitted bundle now) := by
  unfold Orchestrator.submit at ho
  split at ho
  · next hopen =>
    unfold Session.move
    dsimp only
    rw [← h.1, if_pos hopen]
    exact List.getElem?_concat_length
  · cases ho

/-- A change of one call is a change of its job. -/
theorem map_job_modify {calls : List (Call τ β ρ)} {n : ℕ} {f : Job τ β ρ → Job τ β ρ}
    {g : Call τ β ρ → Call τ β ρ} (h : ∀ c, calls[n]? = some c → (g c).job = f c.job) :
    (calls.map (·.job)).modify n f = (calls.modify n g).map (·.job) := by
  refine List.ext_getElem? fun i => ?_
  rw [List.getElem?_modify, List.getElem?_map, List.getElem?_map, List.getElem?_modify]
  cases hc : calls[i]? with
  | none => rfl
  | some c =>
    by_cases hi : n = i
    · subst hi
      simp [h c hc]
    · simp [hi]

/-- A step of a call is a step of its job. -/
theorem shows_act (h : s.Shows o) {n : ℕ} {m : Call.Move ρ} {now : τ}
    (hallows : s.allows m = true) {f : Job τ β ρ → Job τ β ρ}
    (hf : ∀ c, s.calls[n]? = some c → (c.move now m).job = f c.job) :
    (s.move now (.act n m)).Shows (o.update n f) := by
  obtain ⟨hopen, hjobs⟩ := h
  unfold Session.move
  dsimp only
  rw [if_pos hallows]
  refine ⟨hopen, ?_⟩
  change o.jobs.modify n f = _
  rw [hjobs]
  exact map_job_modify hf

/-- Several steps of one call change that call only. -/
theorem run_acts (now : τ) (n : ℕ) {steps : List (Call.Move ρ)}
    (hallows : ∀ m ∈ steps, s.allows m = true) :
    s.run (acts now n steps) = { s with calls := s.calls.modify n (·.moves now steps) } := by
  induction steps generalizing s with
  | nil =>
    change s = { s with calls := s.calls.modify n id }
    rw [List.modify_id]
  | cons m steps ih =>
    obtain ⟨hm, hsteps⟩ := List.forall_mem_cons.mp hallows
    have hmove : s.move now (.act n m) = { s with calls := s.calls.modify n (·.move now m) } :=
      if_pos hm
    change (s.move now (.act n m)).run (acts now n steps) = _
    have hrest := ih (s := { s with calls := s.calls.modify n (·.move now m) }) hsteps
    rw [hmove, hrest]
    dsimp only
    rw [List.modify_modify_eq]
    rfl

theorem allows_of_sweep_not_mem {steps : List (Call.Move ρ)} (hsweep : .sweep ∉ steps) :
    ∀ m ∈ steps, s.allows m = true := by
  intro m hm
  cases m with
  | sweep => exact absurd hm hsweep
  | claim | enter | inspect | answer | deliver | advance => rfl

theorem getElem?_run_acts {n : ℕ} {c : Call τ β ρ} (hc : s.calls[n]? = some c) (now : τ) {steps : List (Call.Move ρ)}
    (hsweep : .sweep ∉ steps) :
    (s.run (acts now n steps)).calls[n]? = some (c.moves now steps) := by
  rw [run_acts now n (allows_of_sweep_not_mem hsweep)]
  change (s.calls.modify n _)[n]? = _
  rw [List.getElem?_modify, hc]
  simp

/-- Several steps of a call are steps of its job. -/
theorem shows_acts (h : s.Shows o) {now : τ} {n : ℕ} {steps : List (Call.Move ρ)}
    (hsweep : .sweep ∉ steps) {f : Job τ β ρ → Job τ β ρ}
    (hf : ∀ c, s.calls[n]? = some c → (c.moves now steps).job = f c.job) :
    (s.run (acts now n steps)).Shows (o.update n f) := by
  rw [run_acts now n (allows_of_sweep_not_mem hsweep)]
  refine ⟨h.1, ?_⟩
  change o.jobs.modify n f = _
  rw [h.2]
  exact map_job_modify hf

/-- An orchestrator is shown by its jobs and by whether it is open. -/
theorem Shows.of_eq (h : s.Shows o) {o' : Orchestrator τ β ρ} (hopen : o'.isOpen = o.isOpen)
    (hjobs : o'.jobs = o.jobs) : s.Shows o' :=
  ⟨hopen.trans h.1, hjobs.trans h.2⟩

theorem Shows.job? (h : s.Shows o) (n : ℕ) : o.job? n = s.calls[n]?.map (·.job) := by
  unfold Orchestrator.job?
  rw [h.2, List.getElem?_map]

/-- A wait of the orchestrator that the clock can time is four steps of the caller, and its outcome
is the class of what the caller has found. -/
theorem shows_wait [Sub τ] (h : s.Shows o) {n : ℕ} {c : Call τ β ρ} (hc : s.calls[n]? = some c)
    (hwait : c.wait = .looking) {timeout : Option Float} {now : τ}
    (hclock : (o.wait n timeout now).1 ≠ .error .beyondClock) :
    ∃ c' found, (s.run (List.replicate 4 (now, .act n .advance))).calls[n]? = some c' ∧
      c'.wait = .ended found ∧
      (o.wait n timeout now).1 =
        o.classify (timeout.getD o.settings.timeout) now c'.job.handle found ∧
      (s.run (List.replicate 4 (now, .act n .advance))).Shows (o.wait n timeout now).2 := by
  have hlook : o.job? n = some c.job := by
    rw [h.job?, hc]
    rfl
  have hreached : (c.job.look.isNone && isBeyondClock (timeout.getD o.settings.timeout)) =
      false := by
    rw [Bool.eq_false_iff]
    intro hbeyond
    apply hclock
    unfold Orchestrator.wait
    rw [hlook]
    exact congrArg Prod.fst (if_pos hbeyond)
  let four : List (Call.Move ρ) := List.replicate 4 .advance
  have hsweep : .sweep ∉ four := by simp [four]
  obtain ⟨hended, hjob⟩ : (c.moves now four).wait = .ended (c.job.wait now).1 ∧
      (c.moves now four).job = (c.job.wait now).2 := advance_four hwait now
  have hshows : (s.run (acts now n four)).Shows (o.update n fun _ => (c.job.wait now).2) := by
    refine shows_acts h hsweep fun c₀ hc₀ => ?_
    obtain rfl := Option.some.inj (hc.symm.trans hc₀)
    exact hjob
  rw [Orchestrator.wait_eq_waitFor hlook now hreached, Orchestrator.waitFor_eq, ← hjob]
  rw [← hjob] at hshows
  exact ⟨_, _, getElem?_run_acts hc now hsweep, hended, rfl, hshows.of_eq rfl rfl⟩

/-- The first `k` calls are swept one after another. -/
theorem run_sweeps (hclosed : s.isOpen = false) (now : τ) (k : ℕ) :
    (s.run ((List.range k).map fun n => (now, .act n .sweep))).isOpen = false ∧
      ∀ i, (s.run ((List.range k).map fun n => (now, .act n .sweep))).calls[i]? =
        s.calls[i]?.map fun c => if i < k then c.move now .sweep else c := by
  induction k with
  | zero =>
    refine ⟨hclosed, fun i => ?_⟩
    simp [run]
  | succ k ih =>
    obtain ⟨hopen, hcalls⟩ := ih
    rw [List.range_succ, List.map_append, run_append]
    generalize s.run ((List.range k).map fun n => (now, .act n .sweep)) = t at hopen hcalls ⊢
    have hstep : t.run [(now, .act k .sweep)] =
        { t with calls := t.calls.modify k (·.move now .sweep) } := by
      change (if t.allows .sweep then _ else t) = _
      rw [if_pos (by simp [allows, hopen])]
    rw [show [k].map (fun n => (now, Move.act n .sweep)) = [(now, .act k .sweep)] from rfl, hstep]
    refine ⟨hopen, fun i => ?_⟩
    change (t.calls.modify k (·.move now .sweep))[i]? = _
    rw [List.getElem?_modify, hcalls i]
    cases hc : s.calls[i]? with
    | none => rfl
    | some c =>
      rcases Nat.lt_trichotomy i k with hlt | rfl | hgt
      · simp [hlt, hlt.ne', Nat.lt_succ_of_lt hlt]
      · simp
      · simp [hgt.ne, hgt.not_gt, Nat.not_lt.mpr (Nat.succ_le_of_lt hgt)]

/-- A shutdown begins and then sweeps one call after another. -/
theorem shows_shutdown (h : s.Shows o) (howns : o.ownsWorkers = true) (now : τ) :
    (s.run ((now, .close) ::
      (List.range s.calls.length).map fun n => (now, .act n .sweep))).Shows o.shutdown := by
  obtain ⟨hopen, hcalls⟩ :=
    run_sweeps (s := { s with isOpen := false }) rfl now s.calls.length
  unfold Orchestrator.shutdown
  rw [if_pos howns]
  refine ⟨hopen.symm, List.ext_getElem? fun i => ?_⟩
  change (o.jobs.map Job.withdraw)[i]? = ((({ s with isOpen := false } : Session τ β ρ).run
    ((List.range s.calls.length).map fun n => (now, .act n .sweep))).calls.map (·.job))[i]?
  rw [h.2, List.map_map, List.getElem?_map, List.getElem?_map, hcalls i]
  cases hc : s.calls[i]? with
  | none => rfl
  | some c =>
    obtain ⟨hlt, -⟩ := List.getElem?_eq_some_iff.mp hc
    simp [hlt, Call.move]

/-! ### Workers -/

/-- A worker comes by.  Where it has no work, it leaves the job as it is. -/
theorem shows_claim (h : s.Shows o) (n : ℕ) (now : τ) :
    (s.move now (.act n .claim)).Shows (o.claim n).2 := by
  have hupdate : (s.move now (.act n .claim)).Shows (o.update n Job.claim) :=
    shows_act h rfl fun c _ => rfl
  have hunchanged (hjobs : o.jobs = o.jobs.modify n Job.claim) :
      (s.move now (.act n .claim)).Shows o := hupdate.of_eq rfl hjobs
  unfold Orchestrator.claim
  cases hj : o.job? n with
  | none =>
    refine hunchanged (List.modify_eq_self ?_).symm
    exact List.getElem?_eq_none_iff.mp hj
  | some j =>
    dsimp only
    split
    · exact hupdate
    · next hqueued =>
      refine hunchanged (List.ext_getElem? fun i => ?_)
      rw [List.getElem?_modify]
      split
      · next hi =>
        subst hi
        change o.job? n = (o.job? n).map Job.claim
        rw [hj]
        obtain ⟨input, handle, promise, worker⟩ := j
        cases promise with
        | pending | withdrawn => exact absurd rfl hqueued
        | running | dismissed | kept => rfl
      · exact (id_map' _).symm

/-- A worker that is there enters and asks. -/
theorem shows_beginAsking (h : s.Shows o) {n : ℕ}
    (hattended : ∀ c, s.calls[n]? = some c → c.job.attend = c.job) (now : τ) :
    (s.run (acts now n [.enter, .inspect])).Shows (o.beginAsking n now).2 := by
  have hacts : (s.run (acts now n [.enter, .inspect])).Shows
      (o.update n fun j => (j.attend.enter now).inspect) := by
    refine shows_acts h (by simp) fun c hc => ?_
    rw [hattended c hc]
    rfl
  unfold Orchestrator.beginAsking
  dsimp only
  split
  · exact hacts.of_eq rfl rfl
  · exact hacts

/-- The worker has the engine's answer and delivers it. -/
theorem shows_conclude (h : s.Shows o) (n : ℕ) (a : Answer ρ) (now : τ) :
    (s.run (acts now n [.answer a, .deliver])).Shows (o.conclude n a) :=
  shows_acts h (by simp) fun _ _ => rfl

/-- The worker delivers what it has without the engine. -/
theorem shows_deliver (h : s.Shows o) (n : ℕ) (now : τ) :
    (s.run (acts now n [.deliver])).Shows (o.deliver n) :=
  shows_acts h (by simp) fun _ _ => rfl

end Session

/-! ### Whole computations -/

namespace Call

/-- What a worker does with a call from the beginning to the end, when `a` is what the engine answers
to it. -/
inductive IsWork (a : Answer ρ) : List (Move ρ) → Prop
  /-- There was nothing to do, or the work was passed over. -/
  | passed : IsWork a [.claim]
  /-- The engine was skipped. -/
  | skipped : IsWork a [.claim, .enter, .inspect, .deliver]
  /-- The engine was asked. -/
  | asked : IsWork a [.claim, .enter, .inspect, .answer a, .deliver]

variable {c : Call τ β ρ} {now : τ} {steps : List (Move ρ)}

theorem IsWork.sweep_not_mem {a : Answer ρ} (h : IsWork a steps) : .sweep ∉ steps := by
  cases h <;> simp

/-- A worker leaves the caller alone. -/
theorem IsWork.wait_moves {a : Answer ρ} (h : IsWork a steps) :
    (c.moves now steps).wait = c.wait := by
  cases h <;> rfl

theorem bundle_moves : (c.moves now steps).bundle = c.bundle := by
  induction steps generalizing c with
  | nil => rfl
  | cons m steps ih =>
    change ((c.move now m).moves now steps).bundle = _
    rw [ih]
    cases m <;> rfl

end Call

/-- A worker that has taken work up stays where it is. -/
theorem Job.attend_claim {j : Job τ β ρ} (h : j.claim.promise.isRunning = true)
    (hqueued : j.promise.isQueued = true) : j.claim.attend = j.claim := by
  obtain ⟨input, handle, promise, worker⟩ := j
  cases promise with
  | pending => cases worker <;> rfl
  | withdrawn => cases h
  | running | dismissed | kept => cases hqueued

theorem Orchestrator.attend_of_claim {o o' : Orchestrator τ β ρ} {n : ℕ} {j : Job τ β ρ}
    (hj : o.job? n = some j) (h : o.claim n = (.ok true, o')) : j.claim.attend = j.claim := by
  unfold claim at h
  rw [hj] at h
  dsimp only at h
  split at h
  · next hqueued =>
    obtain ⟨hrunning, -⟩ := Prod.mk.inj h
    exact Job.attend_claim (Except.ok.inj hrunning) hqueued
  · cases h

namespace Session

variable {s : Session τ β ρ} {o : Orchestrator τ β ρ} {n : ℕ} {c : Call τ β ρ}

/-- A worker that deals with a job takes the steps of a worker. -/
theorem shows_work (h : s.Shows o) (hs : s.Sound) (hc : s.calls[n]? = some c)
    (engine : β → Answer ρ) (now : τ) :
    ∃ steps, Call.IsWork (engine c.bundle) steps ∧
      (s.run (acts now n steps)).Shows (o.work engine n now) := by
  have hjob : o.job? n = some c.job := by rw [h.job?, hc]; rfl
  have hclaimed := shows_claim h n now
  unfold Orchestrator.work
  rcases hclaim : o.claim n with ⟨found, o₁⟩
  rw [hclaim] at hclaimed
  rcases found with fault | claimed
  · exact ⟨_, .passed, hclaimed⟩
  · cases claimed with
    | false => exact ⟨_, .passed, hclaimed⟩
    | true =>
      dsimp only at hclaimed ⊢
      -- the worker has taken the work up, so it is there when it enters
      have hattend : c.job.claim.attend = c.job.claim := Orchestrator.attend_of_claim hjob hclaim
      have hc₁ : (s.run (acts now n [.claim])).calls[n]? = some (c.moves now [.claim]) :=
        getElem?_run_acts hc now (by simp)
      have hbegun := shows_beginAsking hclaimed
        (fun c₁ h₁ => by obtain rfl := Option.some.inj (hc₁.symm.trans h₁); exact hattend) now
      rcases hbegin : o₁.beginAsking n now with ⟨asked, o₂⟩
      rw [hbegin] at hbegun
      have hc₂ : (s.run (acts now n [.claim, .enter, .inspect])).calls[n]? =
          some (c.moves now [.claim, .enter, .inspect]) := getElem?_run_acts hc now (by simp)
      have hjob₂ : o₂.job? n = some (c.moves now [.claim, .enter, .inspect]).job := by
        rw [hbegun.job?]
        exact congrArg (Option.map _) hc₂
      dsimp only at hbegun ⊢
      rw [hjob₂]
      cases asked with
      | false => exact ⟨_, .skipped, shows_deliver hbegun n now⟩
      | true =>
        have hinput : (c.moves now [.claim, .enter, .inspect]).job.input = c.bundle :=
          ((hs.run _).call n _ hc₂).input.trans Call.bundle_moves
        refine ⟨_, .asked, ?_⟩
        rw [← hinput]
        exact shows_conclude hbegun n _ now

/-- The caller of a call that a worker may have dealt with waits for it. -/
theorem shows_wait_acts [Sub τ] {steps : List (Call.Move ρ)} {workedAt endedAt : τ}
    (h : (s.run (acts workedAt n steps)).Shows o) (hc : s.calls[n]? = some c)
    (hsweep : .sweep ∉ steps) (hwait : (c.moves workedAt steps).wait = .looking)
    {timeout : Option Float} (hclock : (o.wait n timeout endedAt).1 ≠ .error .beyondClock) :
    ∃ c' found,
      let s' := s.run (acts workedAt n steps ++ acts endedAt n (List.replicate 4 .advance))
      s'.Shows (o.wait n timeout endedAt).2 ∧ s'.calls[n]? = some c' ∧ c'.bundle = c.bundle ∧
        c'.wait = .ended found ∧ (o.wait n timeout endedAt).1 =
          o.classify (timeout.getD o.settings.timeout) endedAt c'.job.handle found := by
  have hworked := getElem?_run_acts hc workedAt hsweep
  have hended : ((s.run (acts workedAt n steps)).run
      (acts endedAt n (List.replicate 4 .advance))).calls[n]? =
        some ((c.moves workedAt steps).moves endedAt (List.replicate 4 .advance)) :=
    getElem?_run_acts hworked endedAt (by simp)
  obtain ⟨c', found, hc', hfound, hanswer, hshows⟩ := shows_wait h hworked hwait hclock
  refine ⟨c', found, ?_⟩
  intro s'
  have hs' : s' = (s.run (acts workedAt n steps)).run
      (acts endedAt n (List.replicate 4 .advance)) := run_append ..
  rw [hs']
  refine ⟨hshows, hc', ?_, hfound, hanswer⟩
  obtain rfl := Option.some.inj (hended.symm.trans hc')
  rw [Call.bundle_moves, Call.bundle_moves]

end Session

namespace Orchestrator

variable {o : Orchestrator τ β ρ} {n : ℕ}

/-! Callers and workers leave the settings and the engine alone, so they do not change how a finding
is classified. -/

theorem office_submit {input : β} {now : τ} {o' : Orchestrator τ β ρ}
    (h : o.submit input now = .ok o') : o'.settings = o.settings ∧ o'.engine = o.engine := by
  unfold submit at h
  split at h
  · cases h
    exact ⟨rfl, rfl⟩
  · cases h

theorem office_claim : (o.claim n).2.settings = o.settings ∧ (o.claim n).2.engine = o.engine := by
  unfold claim
  cases o.job? n with
  | none => exact ⟨rfl, rfl⟩
  | some j =>
    dsimp only
    split <;> exact ⟨rfl, rfl⟩

theorem office_beginAsking {now : τ} : (o.beginAsking n now).2.settings = o.settings ∧
    (o.beginAsking n now).2.engine = o.engine := by
  unfold beginAsking
  dsimp only
  split <;> exact ⟨rfl, rfl⟩

theorem office_work {engine : β → Answer ρ} {now : τ} :
    (o.work engine n now).settings = o.settings ∧ (o.work engine n now).engine = o.engine := by
  have hclaim := office_claim (o := o) (n := n)
  unfold work
  rcases hclaimed : o.claim n with ⟨_ | taken, o₁⟩ <;> rw [hclaimed] at hclaim
  · exact hclaim
  · cases taken with
    | false => exact hclaim
    | true =>
      have hbegin : (o₁.beginAsking n now).2.settings = o₁.settings ∧
          (o₁.beginAsking n now).2.engine = o₁.engine := office_beginAsking
      rcases hbegun : o₁.beginAsking n now with ⟨asked, o₂⟩
      rw [hbegun] at hbegin
      dsimp only at hclaim hbegin ⊢
      rw [hbegun]
      have hboth := And.intro (hbegin.1.trans hclaim.1) (hbegin.2.trans hclaim.2)
      dsimp only
      split <;> exact hboth

theorem classify_congr [Sub τ] {o' : Orchestrator τ β ρ} (hsettings : o'.settings = o.settings)
    (hengine : o'.engine = o.engine) (seconds : Float) (now : τ) (handle : Handle τ)
    (found : Finding ρ) :
    o'.classify seconds now handle found = o.classify seconds now handle found := by
  unfold classify
  rw [hsettings, hengine]

end Orchestrator

namespace Session

variable {s : Session τ β ρ} {o : Orchestrator τ β ρ}

/-- **A run is a schedule of the session**: the computation is submitted, a worker deals with it if
there is one, and the caller waits.  Its outcome is the class of what the caller has found. -/
theorem shows_run [Sub τ] (h : s.Shows o) (hs : s.Sound) {engine : β → Answer ρ} {staffed : Bool}
    {input : β} {timeout : Option Float} {submittedAt workedAt endedAt : τ}
    {answer : Except WaitFault (Completion τ ρ)} {o' : Orchestrator τ β ρ}
    (hrun : o.run engine staffed input timeout submittedAt workedAt endedAt = .ok (answer, o'))
    (hclock : answer ≠ .error .beyondClock) :
    ∃ steps c found, (if staffed then Call.IsWork (engine input) steps else steps = []) ∧
      let n := s.calls.length
      let s' := s.run ((submittedAt, .submit input) ::
        (acts workedAt n steps ++ acts endedAt n (List.replicate 4 .advance)))
      s'.Shows o' ∧ s'.calls[n]? = some c ∧ c.bundle = input ∧ c.wait = .ended found ∧
        answer = o.classify (timeout.getD o.settings.timeout) endedAt c.job.handle found := by
  unfold Orchestrator.run at hrun
  rw [h.2, List.length_map] at hrun
  obtain ⟨o₁, hsubmit, hrun⟩ := Except.bind_eq_ok_iff.mp hrun
  have hshows := shows_submit h hsubmit
  have hsound := hs.move submittedAt (.submit input)
  have hc := getElem?_submit h hsubmit
  have hoffice := Orchestrator.office_submit hsubmit
  let o₂ := if staffed then o₁.work engine s.calls.length workedAt else o₁
  have hwait : o₂.wait s.calls.length timeout endedAt = (answer, o') := Except.ok.inj hrun
  obtain ⟨steps, hsteps, hsweep, hlooking, hworked, hoffice'⟩ : ∃ steps,
      (if staffed then Call.IsWork (engine input) steps else steps = []) ∧ .sweep ∉ steps ∧
      ((Call.submitted input submittedAt).moves workedAt steps).wait = .looking ∧
      ((s.move submittedAt (.submit input)).run (acts workedAt s.calls.length steps)).Shows o₂ ∧
      o₂.settings = o₁.settings ∧ o₂.engine = o₁.engine := by
    cases staffed with
    | true =>
      obtain ⟨steps, hsteps, hworked⟩ := shows_work hshows hsound hc engine workedAt
      exact ⟨steps, hsteps, hsteps.sweep_not_mem, hsteps.wait_moves, hworked,
        Orchestrator.office_work⟩
    | false => exact ⟨[], rfl, List.not_mem_nil, rfl, hshows, rfl, rfl⟩
  have hends : (o₂.wait s.calls.length timeout endedAt).1 ≠ .error .beyondClock := by rwa [hwait]
  obtain ⟨c, found, hwaited⟩ := shows_wait_acts hworked hc hsweep hlooking hends
  rw [hwait] at hwaited
  obtain ⟨hshows', hc', hbundle, hended, hclass⟩ := hwaited
  refine ⟨steps, c, found, hsteps, hshows', hc', hbundle, hended, hclass.trans ?_⟩
  rw [hoffice'.1, hoffice.1]
  exact Orchestrator.classify_congr (hoffice'.1.trans hoffice.1) (hoffice'.2.trans hoffice.2) ..

end Session

end StudyPower
