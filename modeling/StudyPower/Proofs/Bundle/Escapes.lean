import Mathlib
import StudyPower.Proofs.Bundle.Preview
import StudyPower.Proofs.Contrast.Faults

/-!
# Faults that do not say that a design is invalid

Assembling a design and previewing it promise to refuse an invalid design as such.  Some faults get
past that promise.  A few come from declared values that no rule looks at, and both sequences have
them.  One kind comes from the order of assembly: the parts for the covariate are joined to the
fixed parts before their sizes are compared, so parts that do not fit end in a failed join and the
comparison that was meant for them is never made.

## Main definitions

* `StudyDesign.Typed d` — the declared values of `d` have the types that they should have.
* `StudyDesign.Hazard d f` — a declared value of `d` can cause `f`.
* `StudyDesign.Reaches d limits x β random` — assembly of `d` gets as far as joining the means.
* `StudyDesign.JoinsTooEarly d limits f` — parts that do not fit are joined, which causes `f`.

## Main statements

* `StudyDesign.preview_failsWith`, `StudyDesign.assemble_failsWith` — what the faults of either
  sequence are.
* `StudyDesign.outcome_assemble_of_joinsTooEarly` — a join that comes too early ends the assembly.
* `StudyDesign.escapes_iff_of_typed` — **a fault without a hazard escapes exactly when parts are
  joined too early.**
-/

namespace StudyPower

open Except Contrast

variable {α : Type} [Scalar α]

/-! ### Declared values -/

/-- A parameter is absent or a number. -/
def Datum.IsParameter (d : Datum α) : Prop := d = .null ∨ d.real?.isSome

namespace StudyDesign

/-- The declared values have the types that they should have. -/
structure Typed (d : StudyDesign α) : Prop where
  /-- Dimensions declare integers and numbers. -/
  measures : ∀ m ∈ d.measures, m.Typed
  /-- The correlations within clusters are numbers. -/
  correlations : ∀ c ∈ d.clusters, c.correlation.real?.isSome
  /-- The parameters of a decaying correlation are numbers where they are given. -/
  parameters : ∀ c ∈ d.covariances, c.base.IsParameter ∧ c.decay.IsParameter
  /-- The comparisons among the levels are known. -/
  trends : ∀ h, d.primaryHypothesis = some h →
    ∀ m ∈ h.between ++ h.within, ∃ t, m.trend = .known t

/-- A declared value can cause a fault that does not say that the design is invalid. -/
inductive Hazard (d : StudyDesign α) : Fault α → Prop
  /-- A number or an array is too large for the scalars. -/
  | oversize {f : Fault α} (hf : f.IsOversize) (hbounded : Scalar.Bounded α) : Hazard d f
  /-- The tested levels lie at points whose polynomials are no real numbers. -/
  | levels {h : Hypothesis α} (hguided : d.isMatrixMode = false)
      (hprimary : d.primaryHypothesis = some h)
      (hoverflow : OverflowsAt (factorLevels d.factors) h.between ∨
        OverflowsAt (measureLevels d.measures) h.within) : Hazard d .nonFiniteLevels
  /-- All outcomes are under test, of a negative number of measurements. -/
  | negative {h : Hypothesis α} {m : RepeatedMeasure α} {n : ℤ} (hguided : d.isMatrixMode = false)
      (hprimary : d.primaryHypothesis = some h) (hkind : h.kind = .manova) (hm : m ∈ d.measures)
      (hn : n < 0) (hcount : m.count = .int n) : Hazard d .negativeSize
  /-- A correlation decays with the distance of no measurements. -/
  | unmeasured {m : RepeatedMeasure α} {c : Covariance α} (hguided : d.isMatrixMode = false)
      (hm : m ∈ d.measures) (hcount : m.count = .int 0)
      (hc : d.covariance m.dimension = some c) (hkind : c.kind = .decaying) : Hazard d .noDistances
  /-- There is no column of correlations with the covariate. -/
  | columnless {m : Mat α} (hguided : d.isMatrixMode = false)
      (hgaussian : d.gaussianCovariate = true) (hm : d.matrix .sigmaOutcomeGaussian = some m)
      (hcols : m.cols = 0) : Hazard d .noFirstColumn

/-- The fault says that the design is invalid, or has a cause among its declared values. -/
def Answers (d : StudyDesign α) (f : Fault α) : Prop := f.isInvalidDesign = true ∨ d.Hazard f

variable {d : StudyDesign α} {limits : Limits}

theorem Answers.of_isRefusal {f : Fault α} (h : f.IsRefusal) : d.Answers f := by
  rcases h with h | ⟨hf, hbounded⟩
  · exact .inl h
  · exact .inr (.oversize hf hbounded)

/-! ### Rules and requirements -/

theorem checkAdmissible_failsWith : FailsWith d.Answers (d.checkAdmissible limits) :=
  checkAdmissible_failsWith_refusedFor.mono fun _ h => .inl h.isInvalidDesign

theorem requireMat_failsWith (m : Option (Mat α)) (role : MatrixRole) :
    FailsWith d.Answers (requireMat m role) := by
  unfold requireMat
  cases m with
  | none => exact FailsWith.throw (.inl rfl)
  | some m =>
    refine FailsWith.bind ?_ fun _ _ => FailsWith.pure _
    unfold checkNonempty
    split
    · exact FailsWith.error (.inl rfl)
    · exact FailsWith.ok _

omit [Scalar α] in
theorem checkConformable_failsWith (m n : ℤ) (left right : String) :
    FailsWith (fun f => f.isInvalidDesign = true)
      (checkConformable m n left right : Except (Fault α) Unit) := by
  unfold checkConformable
  split
  · exact FailsWith.ok _
  · exact FailsWith.error rfl

omit [Scalar α] in
/-- Every comparison of sizes says that the design is invalid. -/
theorem checkConformance_failsWith (b : Bundle α) :
    FailsWith (fun f => f.isInvalidDesign = true) b.checkConformance := by
  unfold Bundle.checkConformance
  refine FailsWith.bind ?_ fun _ _ => FailsWith.bind ?_ fun _ _ => FailsWith.bind ?_ fun _ _ =>
    FailsWith.bind ?_ fun _ _ => checkConformable_failsWith _ _ _ _
  · refine FailsWith.bind (checkConformable_failsWith _ _ _ _) fun _ _ => ?_
    split
    · exact checkConformable_failsWith _ _ _ _
    · exact FailsWith.pure _
  · unfold Bundle.checkBetween
    split
    · refine FailsWith.bind (checkConformable_failsWith _ _ _ _) fun _ _ => ?_
      split
      · refine FailsWith.bind (checkConformable_failsWith _ _ _ _) fun _ _ => ?_
        split
        · exact checkConformable_failsWith _ _ _ _
        · exact FailsWith.pure _
      · exact FailsWith.pure _
    · exact FailsWith.pure _
  · unfold Bundle.checkWithin
    split
    · exact checkConformable_failsWith _ _ _ _
    · exact FailsWith.pure _
  · unfold Bundle.checkNull
    split
    · split
      · exact FailsWith.ok _
      · exact FailsWith.error rfl
    · exact FailsWith.ok _

/-! ### Builders -/

omit [Scalar α] in
theorem members_failsWith (c : Cluster α) :
    FailsWith (fun f => f.isInvalidDesign = true) c.members := by
  unfold Cluster.members checkPositive
  split
  · split
    · exact FailsWith.error rfl
    · exact FailsWith.ok _
  · exact FailsWith.error rfl

omit [Scalar α] in
theorem checkNatural_failsWith (value : Datum α) (name : String) :
    FailsWith (fun f => f.isInvalidDesign = true) (checkNatural value name) := by
  unfold checkNatural
  split
  · split
    · exact FailsWith.error rfl
    · exact FailsWith.ok _
  · exact FailsWith.error rfl

theorem clusterSize_failsWith : FailsWith d.Answers d.clusterSize := by
  unfold clusterSize
  split
  · exact FailsWith.pure _
  · refine FailsWith.bind (FailsWith.mapM fun c _ => ?_) fun sizes _ => FailsWith.pure _
    exact (members_failsWith c).mono fun f hf => .inl hf

theorem repeatAcross_failsWith (n : Option ℕ) (m : Mat α) :
    FailsWith Fault.IsRefusal (repeatAcross n m) := by
  unfold repeatAcross
  cases n with
  | none => exact FailsWith.pure _
  | some n =>
    exact FailsWith.bind (checkShape_failsWith_of_nonneg (by omega) (by omega)) fun _ _ =>
      FailsWith.pure _

theorem repeatDown_failsWith (n : Option ℕ) (m : Mat α) :
    FailsWith Fault.IsRefusal (repeatDown n m) := by
  unfold repeatDown
  cases n with
  | none => exact FailsWith.pure _
  | some n =>
    exact FailsWith.bind (checkShape_failsWith_of_nonneg (by omega) (by omega)) fun _ _ =>
      FailsWith.pure _

theorem cellMeans_failsWith : FailsWith Fault.IsRefusal d.cellMeans := by
  unfold cellMeans
  dsimp only
  split
  · exact FailsWith.throw (.inl rfl)
  · split
    · exact FailsWith.pure _
    · split
      · exact FailsWith.bind (checkShape_failsWith_of_nonneg (by omega) (by omega)) fun _ _ =>
          FailsWith.pure _
      · split
        · exact FailsWith.throw (.inl rfl)
        · refine FailsWith.bind (FailsWith.mapM fun entry _ => ?_) fun counts _ => ?_
          · exact (checkNatural_failsWith entry.1 _).mono fun f hf => .inl hf
          · refine FailsWith.bind ?_ fun _ _ => FailsWith.pure _
            exact (checkShape_failsWith_of_nonneg (by omega) (by omega)).map

theorem designMatrix_failsWith : FailsWith d.Answers d.designMatrix := by
  unfold designMatrix
  split
  · exact FailsWith.pure _
  · exact FailsWith.bind (cellMeans_failsWith.mono fun f hf => .of_isRefusal hf) fun x _ =>
      FailsWith.pure _

theorem betaEffects_failsWith : FailsWith d.Answers d.betaEffects := by
  have hrepeat : ∀ (n : Option ℕ) (m : Option (Mat α)),
      FailsWith d.Answers (m.mapM (repeatAcross n)) := fun n m =>
    FailsWith.optionMapM fun m' _ =>
      (repeatAcross_failsWith n m').mono fun f hf => .of_isRefusal hf
  unfold betaEffects
  dsimp only
  split
  · exact FailsWith.pure _
  · refine FailsWith.bind clusterSize_failsWith fun n _ => ?_
    exact FailsWith.bind (hrepeat n _) fun _ _ => FailsWith.bind (hrepeat n _) fun _ _ =>
      FailsWith.pure _

theorem betweenContrast_failsWith (htyped : d.Typed) :
    FailsWith d.Answers d.betweenContrast := by
  unfold betweenContrast
  split
  · split
    · exact FailsWith.pure _
    · exact FailsWith.pure _
  · next hguided =>
    split
    · exact FailsWith.pure _
    · next h hprimary =>
      refine FailsWith.bind ?_ fun fixed _ => FailsWith.pure _
      have hknown : ∀ m ∈ h.between, ∃ t, m.trend = .known t := fun m hm =>
        htyped.trends h hprimary m (List.mem_append_left _ hm)
      rw [guidedBetween_eq]
      refine FailsWith.bind
        ((testedBlocks_failsWith (regular_factorLevels d.factors) hknown).mono ?_)
        fun tested _ => (between_failsWith tested d.factors).mono fun f hf => .of_isRefusal hf
      rintro f (hf | ⟨rfl, hoverflow⟩)
      · exact .of_isRefusal hf
      · exact .inr (.levels (Bool.eq_false_iff.mpr hguided) hprimary (.inl hoverflow))

theorem guidedWithin_failsWith (htyped : d.Typed) (hguided : d.isMatrixMode = false)
    {h : Hypothesis α} (hprimary : d.primaryHypothesis = some h) :
    FailsWith d.Answers (d.guidedWithin h) := by
  by_cases hkind : h.kind = .manova
  · unfold guidedWithin
    rw [hkind]
    refine (withinManova_failsWith htyped.measures d.responses).mono ?_
    rintro f (hf | ⟨rfl, m, hm, n, hn, hcount⟩)
    · exact .of_isRefusal hf
    · exact .inr (.negative hguided hprimary hkind hm hn hcount)
  · have hknown : ∀ m ∈ h.within, ∃ t, m.trend = .known t := fun m hm =>
      htyped.trends h hprimary m (List.mem_append_right _ hm)
    rw [guidedWithin_eq d hkind]
    refine FailsWith.bind
      ((testedBlocks_failsWith (regular_measureLevels htyped.measures) hknown).mono ?_)
      fun tested _ => (within_failsWith htyped.measures tested d.responses).mono
        fun f hf => .of_isRefusal hf
    rintro f (hf | ⟨rfl, hoverflow⟩)
    · exact .of_isRefusal hf
    · exact .inr (.levels hguided hprimary (.inr hoverflow))

theorem withinContrast_failsWith (htyped : d.Typed) :
    FailsWith d.Answers d.withinContrast.outcome := by
  unfold withinContrast
  split
  · exact FailsWith.pure _
  · next hguided =>
    split
    · exact FailsWith.pure _
    · next h hprimary =>
      refine Journal.failsWith_bind
        (guidedWithin_failsWith htyped (Bool.eq_false_iff.mpr hguided) hprimary) fun W _ => ?_
      refine Journal.failsWith_bind (FailsWith.ok _) fun _ _ => ?_
      refine Journal.failsWith_bind clusterSize_failsWith fun n _ => ?_
      refine Journal.failsWith_bind ?_ fun _ _ => FailsWith.pure _
      exact (repeatDown_failsWith n W).mono fun f hf => .of_isRefusal hf

/-! ### Covariances -/

theorem clusterBlock_failsWith {c : Cluster α} (h : c.correlation.real?.isSome) :
    FailsWith d.Answers (clusterBlock c) := by
  refine FailsWith.bind ((members_failsWith c).mono fun f hf => .inl hf) fun n _ => ?_
  refine FailsWith.bind ?_ fun x _ => ?_
  · cases hc : c.correlation with
    | bool b => exact FailsWith.ok _
    | int n => exact (realOfInt_failsWith n).mono fun f hf => .of_isRefusal hf
    | real x => exact FailsWith.ok x
    | null | text | list | record =>
      rw [hc] at h
      cases h
  · refine FailsWith.bind ?_ fun _ _ => FailsWith.pure _
    exact (checkShape_failsWith_of_nonneg (by omega) (by omega)).mono fun f hf => .of_isRefusal hf

theorem ofSize_failsWith {P : Fault α → Prop} (name : String) (size : Datum α)
    (m : Option (Mat α)) : FailsWith P (Covariance.ofSize name size m).outcome := by
  unfold Covariance.ofSize
  split
  · exact FailsWith.pure _
  · exact FailsWith.ok _

theorem operand_failsWith {P : Fault α → Prop} {operator : String} {parameter : Datum α}
    (h : parameter.real?.isSome) : FailsWith P (Covariance.operand operator parameter) := by
  unfold Covariance.operand
  obtain ⟨x, hx⟩ := Option.isSome_iff_exists.mp h
  rw [hx]
  exact FailsWith.ok x

/-- Two measurements have a distance. -/
theorem pairDistances_ne_nil {points : Array α} (h : 2 ≤ points.size) :
    Covariance.pairDistances points ≠ [] := by
  refine List.ne_nil_of_mem (a := Scalar.abs (points[0]?.getD 0 - points[1]?.getD 0)) ?_
  unfold Covariance.pairDistances
  refine List.mem_flatMap.mpr ⟨0, List.mem_range.mpr (by omega), ?_⟩
  refine List.mem_map.mpr ⟨1, List.mem_filter.mpr ⟨List.mem_range.mpr (by omega), ?_⟩, rfl⟩
  decide

/-- Correlations with numbers as parameters decay with the distances of measurements, unless there
is no measurement. -/
theorem decaying_failsWith {base decay : Datum α} (hbase : base.real?.isSome)
    (hdecay : decay.real?.isSome) (xs : List α) :
    FailsWith (fun f => f = .noDistances ∧ xs = []) (Covariance.decaying base decay xs) := by
  unfold Covariance.decaying
  split
  · exact FailsWith.pure _
  · next hlength =>
    dsimp only
    split
    · split
      · exact FailsWith.bind (operand_failsWith hdecay) fun _ _ =>
          FailsWith.bind (operand_failsWith hbase) fun _ _ => FailsWith.pure _
      · exact FailsWith.bind (FailsWith.pure _) fun _ _ =>
          FailsWith.bind (operand_failsWith hbase) fun _ _ => FailsWith.pure _
    · next hends =>
      refine FailsWith.throw ⟨rfl, ?_⟩
      -- one measurement was dealt with above, so any other number but none has a distance
      by_contra hne
      have hpos := List.length_pos_iff.mpr hne
      have hdistances : Covariance.pairDistances xs.toArray ≠ [] :=
        pairDistances_ne_nil (by rw [List.size_toArray]; omega)
      obtain ⟨x, rest, hx⟩ := List.exists_cons_of_ne_nil hdistances
      rw [hx] at hends
      exact hends _ _ rfl rfl

theorem decayingMat_failsWith {c : Covariance α} (hbase : c.base.real?.isSome)
    (hdecay : c.decay.real?.isSome) (n : ℤ) {p : Points α} (hregular : p.Regular)
    (haligned : p.Aligned) :
    FailsWith (fun f => f.IsRefusal ∨ f = .noDistances ∧ n = 0)
      (Covariance.decayingMat c (.int n) p).outcome := by
  obtain ⟨k, hk⟩ := hregular.count
  unfold Covariance.decayingMat
  refine Journal.failsWith_bind (by rw [hk]; exact FailsWith.ok k) fun k' hk' => ?_
  obtain rfl : k = k' := Except.ok.inj (hk.symm.trans hk')
  split
  · next hequals =>
    have hn : n = k := by simpa [Datum.equals, Datum.int?] using hequals
    refine Journal.failsWith_bind ?_ fun correlation _ => ofSize_failsWith _ _ _
    refine FailsWith.bind (hregular.values.mono fun f hf => .inl hf) fun xs hxs => ?_
    refine (decaying_failsWith hbase hdecay xs).mono ?_
    rintro f ⟨rfl, rfl⟩
    refine .inr ⟨rfl, ?_⟩
    rw [hn, ← haligned k [] hk hxs]
    rfl
  · exact FailsWith.pure _

/-- A declared structure is refused, unless its correlations decay with the distance of no
measurements. -/
theorem toMat_failsWith {c : Covariance α} (hbase : c.base.IsParameter)
    (hdecay : c.decay.IsParameter) (n : ℤ) {points : Option (Points α)}
    (hpoints : ∀ p, points = some p → p.Regular ∧ p.Aligned) :
    FailsWith (fun f => f.IsRefusal ∨ f = .noDistances ∧ c.kind = .decaying ∧ n = 0)
      (c.toMat (.int n) points).outcome := by
  unfold Covariance.toMat
  cases hkind : c.kind with
  | covariance => exact ofSize_failsWith _ _ _
  | correlation =>
    dsimp only
    split
    · exact ofSize_failsWith _ _ _
    · exact FailsWith.ok _
  | decaying =>
    dsimp only
    split
    · exact FailsWith.ok _
    · exact FailsWith.ok _
    · next hbasenull hdecaynull =>
      have hmat : ∀ p : Points α, p.Regular → p.Aligned →
          FailsWith (fun f => f.IsRefusal ∨ f = .noDistances ∧ True ∧ n = 0)
            (Covariance.decayingMat c (.int n) p).outcome := by
        intro p hregular haligned
        refine (decayingMat_failsWith (hbase.resolve_left hbasenull)
          (hdecay.resolve_left hdecaynull) n hregular haligned).mono ?_
        rintro f (hf | ⟨hf, hn⟩)
        · exact .inl hf
        · exact .inr ⟨hf, trivial, hn⟩
      cases hp : points with
      | some p => simpa using hmat p (hpoints p hp).1 (hpoints p hp).2
      | none =>
        refine Journal.failsWith_bind (FailsWith.ok n) fun n' _ => ?_
        simpa using hmat _ (Points.regular_equallySpaced n') (Points.aligned_equallySpaced n')

theorem measureBlock_failsWith (htyped : d.Typed) (hguided : d.isMatrixMode = false)
    {m : RepeatedMeasure α} (hm : m ∈ d.measures) :
    FailsWith d.Answers (d.measureBlock m).outcome := by
  obtain ⟨n, hn⟩ := (htyped.measures m hm).count
  obtain ⟨p, hp, hregular⟩ := (htyped.measures m hm).points
  unfold measureBlock
  split
  · exact FailsWith.error (.inl rfl)
  · next c hc =>
    obtain ⟨hbase, hdecay⟩ := htyped.parameters c (List.mem_of_find?_eq_some hc)
    rw [hp, hn]
    refine Journal.failsWith_bind (FailsWith.ok p) fun p' hp' => ?_
    obtain rfl : p = p' := Except.ok.inj hp'
    refine Journal.failsWith_bind ((toMat_failsWith hbase hdecay n ?_).mono ?_) fun block _ => ?_
    · rintro q ⟨⟩
      exact ⟨hregular, RepeatedMeasure.aligned_of_points hp⟩
    · rintro f (hf | ⟨rfl, hkind, rfl⟩)
      · exact .of_isRefusal hf
      · exact .inr (.unmeasured hguided hm hn hc hkind)
    · split
      · exact FailsWith.pure _
      · exact FailsWith.error (.inl rfl)

theorem responseBlock_failsWith (htyped : d.Typed) :
    FailsWith d.Answers d.responseBlock.outcome := by
  -- outcomes are counted from one, so the remaining fault of `toMat_failsWith` cannot occur
  have hcount : (responseCount d.responses : ℤ) ≠ 0 := by
    unfold responseCount
    split
    · decide
    · next h => exact_mod_cast h
  unfold responseBlock
  refine Journal.failsWith_bind ?_ fun block _ => ?_
  · unfold Covariance.toMat?
    split
    · exact FailsWith.pure _
    · next c hc =>
      obtain ⟨hbase, hdecay⟩ := htyped.parameters c (List.mem_of_find?_eq_some hc)
      refine (toMat_failsWith hbase hdecay _ fun p hp => by cases hp).mono ?_
      rintro f (hf | ⟨-, -, hzero⟩)
      · exact .of_isRefusal hf
      · exact absurd hzero hcount
  · split
    · exact FailsWith.pure _
    · exact FailsWith.error (.inl rfl)

theorem symmetric_failsWith (role : MatrixRole) (m : Option (Mat α)) :
    FailsWith d.Answers (symmetric role m) := by
  unfold symmetric
  split
  · exact FailsWith.pure _
  · refine FailsWith.bind ?_ fun _ _ => FailsWith.pure _
    unfold checkSquare
    split
    · exact FailsWith.ok _
    · exact FailsWith.error (.inl rfl)

theorem sigmaError_failsWith (htyped : d.Typed) : FailsWith d.Answers d.sigmaError.outcome := by
  unfold sigmaError
  split
  · exact symmetric_failsWith _ _
  · next hguided =>
    refine Journal.failsWith_bind ?_ fun sigma _ =>
      symmetric_failsWith (d := d) .sigmaError (some sigma)
    refine Journal.failsWith_bind (FailsWith.mapM fun c hc => ?_) fun clusters _ => ?_
    · exact clusterBlock_failsWith (htyped.correlations c hc)
    · refine Journal.failsWith_bind (Journal.failsWith_mapM fun m hm => ?_) fun measures _ => ?_
      · exact measureBlock_failsWith htyped (Bool.eq_false_iff.mpr hguided) hm
      · exact Journal.failsWith_bind (responseBlock_failsWith htyped) fun _ _ => FailsWith.pure _

theorem sigmaOutcome_failsWith (htyped : d.Typed) :
    FailsWith d.Answers d.sigmaOutcome.outcome := by
  unfold sigmaOutcome
  split
  · exact symmetric_failsWith _ _
  · exact sigmaError_failsWith htyped

theorem sigmaOutcomeCovariate_failsWith (hgaussian : d.gaussianCovariate = true)
    (covariate outcome : Option (Mat α)) :
    FailsWith d.Answers (d.sigmaOutcomeCovariate covariate outcome).outcome := by
  unfold sigmaOutcomeCovariate
  split
  · exact FailsWith.pure _
  · next cross hcross =>
    split
    · exact FailsWith.pure _
    · next hguided =>
      split
      · exact FailsWith.error (.inl rfl)
      · exact FailsWith.error (.inl rfl)
      · split
        · exact FailsWith.error (.inl rfl)
        · split
          · next hcols =>
            exact FailsWith.error
              (.inr (.columnless (Bool.eq_false_iff.mpr hguided) hgaussian hcross hcols))
          · dsimp only
            refine Journal.failsWith_bind (FailsWith.ok _) fun _ _ => ?_
            refine Journal.failsWith_bind clusterSize_failsWith fun n _ => ?_
            refine Journal.failsWith_bind ?_ fun _ _ => FailsWith.pure _
            exact (repeatDown_failsWith n _).mono fun f hf => .of_isRefusal hf

theorem previewCovariances_failsWith (htyped : d.Typed) :
    FailsWith d.Answers d.previewCovariances.outcome := by
  unfold previewCovariances
  split
  · next hgaussian =>
    refine Journal.failsWith_bind (sigmaOutcome_failsWith htyped) fun outcome _ => ?_
    exact Journal.failsWith_bind (sigmaOutcomeCovariate_failsWith hgaussian _ _) fun cross _ =>
      FailsWith.pure _
  · exact Journal.failsWith_bind (sigmaError_failsWith htyped) fun sigma _ => FailsWith.pure _

theorem outcomeCovariance_failsWith (htyped : d.Typed) :
    FailsWith d.Answers d.outcomeCovariance.outcome := by
  have hrequire := requireMat_failsWith (d := d)
  unfold outcomeCovariance
  split
  · next hgaussian =>
    refine Journal.failsWith_bind (sigmaOutcome_failsWith htyped) fun y? _ => ?_
    refine Journal.failsWith_bind (hrequire y? .sigmaOutcome) fun y _ => ?_
    refine Journal.failsWith_bind (hrequire d.sigmaCovariate .sigmaGaussian) fun g _ => ?_
    refine Journal.failsWith_bind (sigmaOutcomeCovariate_failsWith hgaussian _ _) fun yg? _ => ?_
    exact Journal.failsWith_bind (hrequire yg? .sigmaOutcomeGaussian) fun yg _ => FailsWith.pure _
  · refine Journal.failsWith_bind (sigmaError_failsWith htyped) fun s? _ => ?_
    refine Journal.failsWith_bind (hrequire s? .sigmaError) fun s _ => ?_
    exact Journal.failsWith_bind (FailsWith.ok _) fun _ _ => FailsWith.pure _

/-! ### The preview -/

/-- The preview joins nothing. -/
theorem preview_failsWith (htyped : d.Typed) :
    FailsWith d.Answers (d.preview limits).outcome := by
  unfold preview
  refine Journal.failsWith_bind ?_ fun _ _ => ?_
  · rw [outcome_screen]
    exact checkAdmissible_failsWith
  · refine Journal.failsWith_bind designMatrix_failsWith fun design _ => ?_
    refine Journal.failsWith_bind betaEffects_failsWith fun effects _ => ?_
    refine Journal.failsWith_bind (betweenContrast_failsWith htyped) fun between _ => ?_
    refine Journal.failsWith_bind (withinContrast_failsWith htyped) fun within _ => ?_
    exact Journal.failsWith_bind (previewCovariances_failsWith htyped) fun covariances _ =>
      FailsWith.pure _

/-! ### Joins -/

/-- The assembly gets as far as joining the means `β` and the coefficients `random` of the
covariate. -/
structure Reaches (d : StudyDesign α) (limits : Limits) (x β : Mat α) (random : Option (Mat α)) :
    Prop where
  /-- The design is within the limits. -/
  admissible : d.checkAdmissible limits = .ok ()
  /-- The design matrix was built. -/
  design : d.designMatrix = .ok (some x)
  /-- It has a row and a column. -/
  design_pos : 0 < x.rows ∧ 0 < x.cols
  /-- The means were built. -/
  means : d.betaEffects = .ok ⟨some β, random, .below⟩
  /-- They have a row and a column. -/
  means_pos : 0 < β.rows ∧ 0 < β.cols

/-- Parts that do not fit are joined before their sizes are compared. -/
inductive JoinsTooEarly (d : StudyDesign α) (limits : Limits) : Fault α → Prop
  /-- The means and the coefficients of the covariate have different numbers of columns. -/
  | means {x β r : Mat α} (h : d.Reaches limits x β (some r)) (hne : β.cols ≠ r.cols) :
      JoinsTooEarly d limits (.joinMismatch 1 β.cols r.cols)
  /-- The contrast between participants and its part for the covariate have different numbers of
  rows. -/
  | contrast {x β c r : Mat α} {random : Option (Mat α)} (h : d.Reaches limits x β random)
      (hagree : ∀ m, random = some m → β.cols = m.cols)
      (hbetween : d.betweenContrast = .ok (some ⟨some c, some r, .beside⟩))
      (hne : c.rows ≠ r.rows) : JoinsTooEarly d limits (.joinMismatch 0 c.rows r.rows)

/-- Parts with different numbers of columns are not joined. -/
theorem combined_below_of_ne {β r : Mat α} (h : β.cols ≠ r.cols) :
    (Effects.mk (some β) (some r) .below).combined = .error (.joinMismatch 1 β.cols r.cols) := by
  unfold Effects.combined Joining.join Mat.above?
  dsimp only
  rw [if_neg h]
  rfl

/-- Parts with different numbers of rows are not joined. -/
theorem combined_beside_of_ne {c r : Mat α} (h : c.rows ≠ r.rows) :
    (Effects.mk (some c) (some r) .beside).combined = .error (.joinMismatch 0 c.rows r.rows) := by
  unfold Effects.combined Joining.join Mat.beside?
  dsimp only
  rw [if_neg h]
  rfl

/-- Means that were joined fit. -/
theorem cols_of_combined_below {β : Mat α} {random B : Option (Mat α)}
    (h : (Effects.mk (some β) random .below).combined = .ok B) :
    ∀ r, random = some r → β.cols = r.cols := by
  rintro r rfl
  by_contra hne
  rw [combined_below_of_ne hne] at h
  cases h

theorem means_failsWith {x β : Mat α} {random : Option (Mat α)} (h : d.Reaches limits x β random) :
    FailsWith (d.JoinsTooEarly limits) (Effects.mk (some β) random .below).combined := by
  cases random with
  | none => exact FailsWith.ok _
  | some r =>
    by_cases hcols : β.cols = r.cols
    · obtain ⟨B, hB, -⟩ := combined_below (show ∀ m, some r = some m → m.cols = β.cols by
        rintro m ⟨⟩
        exact hcols.symm)
      rw [hB]
      exact FailsWith.ok _
    · rw [combined_below_of_ne hcols]
      exact FailsWith.error (.means h hcols)

theorem contrast_failsWith {x β : Mat α} {random : Option (Mat α)}
    (h : d.Reaches limits x β random) (hagree : ∀ m, random = some m → β.cols = m.cols)
    {between : Option (Effects α)} (hbetween : d.betweenContrast = .ok between) :
    FailsWith (d.JoinsTooEarly limits) (combinedContrast between) := by
  cases between with
  | none => exact FailsWith.ok _
  | some e =>
    obtain ⟨fixed, part, joining⟩ := e
    obtain rfl : joining = .beside := joining_betweenContrast hbetween
    cases fixed with
    | none => exact FailsWith.ok _
    | some c =>
      cases part with
      | none => exact FailsWith.ok _
      | some r =>
        change FailsWith _ (Effects.mk (some c) (some r) .beside).combined
        by_cases hrows : c.rows = r.rows
        · obtain ⟨C, hC, -⟩ := combined_beside (show ∀ m, some r = some m → m.rows = c.rows by
            rintro m ⟨⟩
            exact hrows.symm)
          rw [hC]
          exact FailsWith.ok _
        · rw [combined_beside_of_ne hrows]
          exact FailsWith.error (.contrast h hagree hbetween hrows)

/-! ### Assembly -/

/-- Every fault of an assembly says that the design is invalid, has a cause among its declared
values, or comes from a join that is made too early. -/
theorem assemble_failsWith (htyped : d.Typed) :
    FailsWith (fun f => d.Answers f ∨ d.JoinsTooEarly limits f) (d.assemble limits).outcome := by
  have hanswers : ∀ {β : Type} {x : Except (Fault α) β}, FailsWith d.Answers x →
      FailsWith (fun f => d.Answers f ∨ d.JoinsTooEarly limits f) x :=
    fun h => h.mono fun f hf => .inl hf
  have hnote : ∀ label (m : Option (Mat α)),
      FailsWith (fun f => d.Answers f ∨ d.JoinsTooEarly limits f)
        (Journal.noteMat label m).outcome := fun _ _ => FailsWith.ok _
  unfold assemble
  refine Journal.failsWith_bind ?_ fun _ hscreen => ?_
  · rw [outcome_screen]
    exact hanswers checkAdmissible_failsWith
  rw [outcome_screen] at hscreen
  refine Journal.failsWith_bind (hanswers designMatrix_failsWith) fun x? hx? => ?_
  refine Journal.failsWith_bind (hanswers (requireMat_failsWith x? .design)) fun x hx => ?_
  refine Journal.failsWith_bind (hnote _ _) fun _ _ => ?_
  refine Journal.failsWith_bind (hanswers betaEffects_failsWith) fun effects heffects => ?_
  refine Journal.failsWith_bind (hanswers (requireMat_failsWith effects.fixed .beta))
    fun β hβ => ?_
  -- the first join comes next, and everything up to it has succeeded
  obtain ⟨rfl, hxpos⟩ := requireMat_eq_ok_iff.mp hx
  obtain ⟨hfixed, hβpos⟩ := requireMat_eq_ok_iff.mp hβ
  have hmeans : effects = ⟨some β, effects.random, .below⟩ := by
    rw [← hfixed, ← joining_betaEffects heffects]
  have hreaches : d.Reaches limits x β effects.random :=
    ⟨hscreen, hx?, hxpos, hmeans ▸ heffects, hβpos⟩
  refine Journal.failsWith_bind ?_ fun B hB => ?_
  · rw [hmeans]
    exact (means_failsWith hreaches).mono fun f hf => .inr hf
  rw [hmeans] at hB
  refine Journal.failsWith_bind (hnote _ _) fun _ _ => ?_
  refine Journal.failsWith_bind (hanswers (betweenContrast_failsWith htyped))
    fun between hbetween => ?_
  refine Journal.failsWith_bind ?_ fun C _ => ?_
  · exact (contrast_failsWith hreaches (cols_of_combined_below hB) hbetween).mono
      fun f hf => .inr hf
  refine Journal.failsWith_bind (hnote _ _) fun _ _ => ?_
  refine Journal.failsWith_bind (hanswers (withinContrast_failsWith htyped)) fun within _ => ?_
  refine Journal.failsWith_bind (hnote _ _) fun _ _ => ?_
  refine Journal.failsWith_bind (hnote _ _) fun _ _ => ?_
  refine Journal.failsWith_bind (hanswers (outcomeCovariance_failsWith htyped)) fun c _ => ?_
  -- the comparisons that would refuse such parts as invalid stand here, behind both joins
  refine Journal.failsWith_bind ?_ fun _ _ => FailsWith.pure _
  exact (checkConformance_failsWith _).mono fun f hf => .inl (.inl hf)

/-- A join that comes too early ends the assembly. -/
theorem outcome_assemble_of_joinsTooEarly {f : Fault α} (h : d.JoinsTooEarly limits f) :
    (d.assemble limits).outcome = .error f := by
  have hbind : ∀ {β γ : Type} (b : β) (k : β → Except (Fault α) γ), (.ok b >>= k) = k b :=
    fun _ _ => rfl
  unfold assemble
  simp only [Journal.outcome_bind, Journal.outcome_monadLift, Journal.outcome_noteMat,
    outcome_screen]
  cases h with
  | means h hne =>
    rw [h.admissible, hbind, h.design, hbind, requireMat_eq_ok_iff.mpr ⟨rfl, h.design_pos⟩]
    simp only [hbind]
    rw [h.means]
    simp only [hbind]
    rw [requireMat_eq_ok_iff.mpr ⟨rfl, h.means_pos⟩, hbind, combined_below_of_ne hne]
    rfl
  | contrast h hagree hbetween hne =>
    obtain ⟨B, hB, -⟩ := combined_below fun m hm => (hagree m hm).symm
    rw [h.admissible, hbind, h.design, hbind, requireMat_eq_ok_iff.mpr ⟨rfl, h.design_pos⟩]
    simp only [hbind]
    rw [h.means]
    simp only [hbind]
    rw [requireMat_eq_ok_iff.mpr ⟨rfl, h.means_pos⟩, hbind, hB]
    simp only [hbind]
    rw [hbetween]
    simp only [hbind, combinedContrast]
    rw [combined_beside_of_ne hne]
    rfl

/-- A failed join does not say that the design is invalid, and no declared value causes it. -/
theorem JoinsTooEarly.not_answers {f : Fault α} (h : d.JoinsTooEarly limits f) :
    f.isInvalidDesign = false ∧ ¬ d.Hazard f := by
  have hmismatch : ∀ side m n, ¬ d.Hazard (.joinMismatch side m n) := by
    intro side m n hhazard
    cases hhazard with
    | oversize hf _ => exact hf
  cases h with
  | means h hne => exact ⟨rfl, hmismatch _ _ _⟩
  | contrast h hagree hbetween hne => exact ⟨rfl, hmismatch _ _ _⟩

/-- **A fault without a hazard escapes exactly when parts are joined too early.**  The preview,
which joins nothing, has no such fault. -/
theorem escapes_iff_of_typed (htyped : d.Typed) (limits : Limits) :
    (∀ f, (d.preview limits).outcome = .error f → f.isInvalidDesign = true ∨ d.Hazard f) ∧
      ∀ f, ((d.assemble limits).outcome = .error f ∧ f.isInvalidDesign = false ∧ ¬ d.Hazard f) ↔
        d.JoinsTooEarly limits f := by
  refine ⟨preview_failsWith htyped, fun f => ⟨?_, fun h => ?_⟩⟩
  · rintro ⟨herror, hvalid, hhazard⟩
    rcases assemble_failsWith htyped f herror with (hinvalid | hcaused) | h
    · rw [hvalid] at hinvalid
      cases hinvalid
    · exact absurd hcaused hhazard
    · exact h
  · exact ⟨outcome_assemble_of_joinsTooEarly h, h.not_answers⟩

/-- A trial with one group and one outcome, whose coefficients of the covariate have two columns. -/
def raggedTrial : StudyDesign ℚ := { schoolTrial with
  view := .matrix
  covariateFlag := .bool false
  factors := []
  measures := []
  clusters := []
  covariances := []
  hypotheses := []
  matrices := [
    ("design", .ofArray 1 1 #[1]),
    ("beta", .ofArray 1 1 #[1]),
    ("betaRandom", .ofArray 1 2 #[1, 2]),
    ("sigmaError", .ofArray 1 1 #[1])] }

theorem typed_raggedTrial : raggedTrial.Typed where
  measures := by simp [raggedTrial]
  correlations := by simp [raggedTrial]
  parameters := by simp [raggedTrial]
  trends := by simp [raggedTrial, primaryHypothesis]

/-- The trial ends in a failed join, which is made too early. -/
theorem escapes_iff_of_typed_raggedTrial :
    raggedTrial.Typed ∧ ∃ f, (raggedTrial.assemble {}).outcome = .error f ∧
      f.isInvalidDesign = false ∧ raggedTrial.JoinsTooEarly {} f := by
  have hfault : (raggedTrial.assemble {}).outcome.fault?.map
      (fun f => match f with | .joinMismatch 1 1 2 => true | _ => false) = some true := by
    decide +kernel
  obtain ⟨f, hf, hmatch⟩ := Option.map_eq_some_iff.mp hfault
  have herror := eq_error_of_fault? hf
  split at hmatch
  · refine ⟨typed_raggedTrial, _, herror, rfl, ?_⟩
    refine ((escapes_iff_of_typed typed_raggedTrial {}).2 _).mp ⟨herror, rfl, ?_⟩
    intro hhazard
    cases hhazard with
    | oversize hoversize _ => exact hoversize
  · cases hmatch

/-- A trial with one group and one outcome, whose contrast for the covariate has two rows. -/
def skewedTrial : StudyDesign ℚ := { raggedTrial with
  matrices := [
    ("design", .ofArray 1 1 #[1]),
    ("beta", .ofArray 1 1 #[1]),
    ("betweenSubjectContrast", .ofArray 1 1 #[1]),
    ("betweenSubjectContrastRandom", .ofArray 2 1 #[1, 1]),
    ("sigmaError", .ofArray 1 1 #[1])] }

theorem typed_skewedTrial : skewedTrial.Typed where
  measures := typed_raggedTrial.measures
  correlations := typed_raggedTrial.correlations
  parameters := typed_raggedTrial.parameters
  trends := typed_raggedTrial.trends

/-- A guided trial without a measurement, whose correlation decays with the distance of
measurements. -/
def unmeasuredTrial : StudyDesign ℚ := { raggedTrial with
  view := .guided
  measures := [⟨"time", .int 0, none⟩]
  covariances := [
    ⟨"time", .decaying, .real (1 / 2), .real 1, none, none⟩,
    ⟨responseCovarianceName, .covariance, .null, .null, none, some (.ofArray 1 1 #[4])⟩]
  matrices := [("beta", .ofArray 1 1 #[1])] }

/-- A guided trial without a column of correlations with its covariate. -/
def columnlessTrial : StudyDesign ℚ := { covariateTrial with
  matrices := [
    ("beta", .ofArray 2 1 #[0, 1]),
    ("sigmaGaussianRandom", .ofArray 1 1 #[2]),
    ("sigmaOutcomeGaussianRandom", .ofArray 1 0 #[])] }

theorem typed_unmeasuredTrial : unmeasuredTrial.Typed where
  measures := by
    intro m hm
    obtain rfl := List.mem_singleton.mp hm
    exact ⟨⟨0, rfl⟩, by simp⟩
  correlations := by simp [unmeasuredTrial, raggedTrial]
  parameters := by
    intro c hc
    rcases List.mem_pair.mp hc with rfl | rfl
    · exact ⟨.inr rfl, .inr rfl⟩
    · exact ⟨.inl rfl, .inl rfl⟩
  trends := by simp [unmeasuredTrial, raggedTrial, primaryHypothesis]

theorem typed_columnlessTrial : columnlessTrial.Typed where
  measures := by simp [columnlessTrial, covariateTrial]
  correlations := by simp [columnlessTrial, covariateTrial]
  parameters := by
    intro c hc
    obtain rfl := List.mem_singleton.mp hc
    exact ⟨.inl rfl, .inl rfl⟩
  trends := by
    intro h hh m hm
    obtain rfl := Option.some.inj hh
    obtain rfl := List.mem_singleton.mp hm
    exact ⟨_, rfl⟩

/-- The family of the fault that a computation ends with. -/
def faultKind {β : Type} (j : Journal ℚ β) : Option Fault.Kind := j.outcome.fault?.map Fault.kind

/-- All four trials declare values of the right types.  Parts that do not fit end in a value that
cannot be used instead of a wrong shape, and the previews of the last two fail with a value that
cannot be used and a position that does not exist. -/
theorem escapes_raggedTrial :
    (raggedTrial.Typed ∧ faultKind (raggedTrial.assemble {}) = some .value) ∧
    (skewedTrial.Typed ∧ faultKind (skewedTrial.assemble {}) = some .value) ∧
    (unmeasuredTrial.Typed ∧ faultKind (unmeasuredTrial.preview {}) = some .value) ∧
    columnlessTrial.Typed ∧ faultKind (columnlessTrial.preview {}) = some .index := by
  refine ⟨⟨typed_raggedTrial, ?_⟩, ⟨typed_skewedTrial, ?_⟩, ⟨typed_unmeasuredTrial, ?_⟩,
    typed_columnlessTrial, ?_⟩
  · decide +kernel
  · decide +kernel
  · decide +kernel
  · decide +kernel

end StudyDesign

end StudyPower
