import Mathlib
import StudyPower.Proofs.Bundle.Replacement
import StudyPower.Proofs.Design.Draft
import StudyPower.Proofs.Scalar.Propagation

/-!
# Which numbers of an accepted design are real

Numbers enter the matrices of a bundle through many doors, and two of them are guarded.  A literal
matrix is refused unless its entries are real numbers, when the design is constructed.  The points
of a dimension that is compared by polynomials have real numbers as their powers, or else there is
no contrast.  The covariance of a guided design comes in unguarded: the matrices, standard
deviations and parameters of covariance structures, the points that correlations decay by, and the
correlations within clusters are used as they are declared, and what is not a real number there
does not make an accepted design refused.

## Main definitions

* `StudyDesign.Uses d c size points` — the design `d` needs the matrix of the structure `c`.
* `Door`, `Door.isGuarded`, `Door.isCarried` — where numbers enter, whether they are looked at, and
  whether all that enters there is a factor of an entry of the covariance.
* `StudyDesign.Enters d door x` — the number `x` enters a matrix of the bundle of `d` there.

## Main statements

* `Polynomial.finite_of_block` — polynomials are built at real numbers only.
* `Covariance.finite_of_toMat` — a covariance of real numbers is built from real numbers only.
* `StudyDesign.finite_of_accepted` — **in an accepted design, what enters by a guarded door is a
  real number; what enters by an unguarded one need not be, and shows in the covariance of the
  bundle when its door is a carried one.**
-/

namespace StudyPower

open Mat Contrast

variable {α : Type} [Scalar α]

/-! ### Polynomials -/

namespace Polynomial

variable [Scalar.Propagates α]

theorem finite_of_standardize {xs : List α}
    (h : ∀ z ∈ standardize xs, Scalar.isFinite z = true) : ∀ x ∈ xs, Scalar.isFinite x = true := by
  have hcenter : ∀ y ∈ center xs, Scalar.isFinite y = true := by
    unfold standardize rescale at h
    dsimp only at h
    split at h
    · exact fun y hy => Scalar.Propagates.finite_of_div (h _ (List.mem_map_of_mem hy))
    · exact h
  intro x hx
  exact (Scalar.Propagates.finite_of_sub (hcenter _ (List.mem_map_of_mem hx))).1

/-- The powers of two points or more are real only when the points are, which are among them. -/
theorem finite_of_powers {zs : List α} (h : (powers zs).AllFinite) (htwo : 2 ≤ zs.length) :
    ∀ z ∈ zs, Scalar.isFinite z = true := by
  intro z hz
  obtain ⟨i, hi, rfl⟩ := List.mem_iff_getElem.mp hz
  have hentry := h i hi 1 htwo
  rw [powers, get_ofFn _ hi htwo, List.getElem?_toArray, List.getElem?_eq_getElem hi] at hentry
  exact (Scalar.Propagates.finite_of_mul hentry).2

/-- Polynomials are built at real numbers only.  A single point has no power but one. -/
theorem finite_of_block {xs : List α} {degrees : List (Datum α)} {b : Mat α}
    (h : block xs degrees = .ok b) (htwo : 2 ≤ xs.length) :
    ∀ x ∈ xs, Scalar.isFinite x = true := by
  unfold block at h
  obtain ⟨⟨⟩, -, h⟩ := Except.bind_eq_ok_iff.mp h
  split at h
  · obtain ⟨values, hvalues, -⟩ := Except.bind_eq_ok_iff.mp h
    unfold basis at hvalues
    dsimp only at hvalues
    split at hvalues
    · next hall =>
      refine finite_of_standardize (finite_of_powers (allFinite_iff.mpr ?_) ?_)
      · exact List.all_eq_true.mp hall
      · rw [length_standardize]
        exact htwo
    · cases hvalues
  · cases h

end Polynomial

/-- A comparison by polynomials is built at real numbers only. -/
theorem Contrast.finite_of_trend [Scalar.Propagates α] {t : Trend} (ht : t.isPolynomial = true)
    {points : Points α} {b : Mat α} (h : trend t points = .ok b) {xs : List α}
    (hxs : points.values = .ok xs) (htwo : 2 ≤ xs.length) :
    ∀ x ∈ xs, Scalar.isFinite x = true := by
  unfold trend at h
  obtain ⟨k, -, h⟩ := Except.bind_eq_ok_iff.mp h
  rw [hxs] at h
  cases t with
  | none | changeFromBaseline => cases ht
  | allPolynomial | linear | quadratic | cubic => exact Polynomial.finite_of_block h htwo

/-- The comparison that a name is mapped to was built. -/
theorem exists_comparison_of_testedBlocks {levels : Levels α} {kind : HypothesisKind}
    {mappings : List (EffectMapping α)} {tested : Blocks α}
    (h : testedBlocks levels kind mappings = .ok tested) {name : String} {m : EffectMapping α}
    (hm : comparedMapping? kind mappings name = some m) :
    ∃ b, comparison levels m = .ok b := by
  have hbuilt : ∀ {compared : List (EffectMapping α)}, lastMapping? compared name = some m →
      compared.foldlM
        (fun tested m => do return (m.target, ← comparison levels m) :: tested) [] = .ok tested →
      ∃ b, comparison levels m = .ok b := by
    intro compared hm h
    rcases lookup_of_foldlM h name with ⟨hnone, -⟩ | ⟨m', b, hm', hb, -⟩
    · rw [hm] at hnone
      cases hnone
    · rw [hm] at hm'
      obtain rfl := Option.some.inj hm'
      exact ⟨b, hb⟩
  cases mappings with
  | nil => cases kind <;> cases hm
  | cons first rest =>
    cases kind with
    | mainEffect | manova => cases hm
    | trend => exact hbuilt hm (by simpa [testedBlocks] using h)
    | interaction => exact hbuilt hm h

/-! ### Covariances -/

namespace Covariance

variable {c : Covariance α}

/-- The matrix of a structure is the declared one, or correlations scaled by the deviations: the
declared ones, or decaying ones. -/
theorem toMat_of_ok {size : Datum α} {points : Option (Points α)} {B : Mat α}
    (h : (c.toMat size points).outcome = .ok (some B)) :
    (c.kind = .covariance ∧ c.matrix = some B) ∨
      ∃ C, withDeviations C c.deviations = some B ∧
        (c.kind = .correlation ∧ c.matrix = some C ∨ c.kind = .decaying) := by
  have hdecaying : ∀ {p : Points α}, (c.decayingMat size p).outcome = .ok (some B) →
      ∃ C, withDeviations C c.deviations = some B := by
    intro p h
    unfold decayingMat at h
    obtain ⟨n, -, h⟩ := Journal.outcome_bind_eq_ok_iff.mp h
    split at h
    · obtain ⟨C, -, h⟩ := Journal.outcome_bind_eq_ok_iff.mp h
      rw [outcome_ofSize, Except.ok.injEq] at h
      exact ⟨C, (Option.filter_eq_some_iff.mp h).1⟩
    · cases h
  cases hkind : c.kind with
  | covariance =>
    rw [outcome_toMat_of_covariance hkind, Except.ok.injEq] at h
    exact .inl ⟨rfl, (Option.filter_eq_some_iff.mp h).1⟩
  | correlation =>
    rw [outcome_toMat_of_correlation hkind, Except.ok.injEq] at h
    obtain ⟨C, hC, hscaled⟩ := Option.bind_eq_some_iff.mp h
    exact .inr ⟨C, (Option.filter_eq_some_iff.mp hscaled).1,
      .inl ⟨rfl, (Option.filter_eq_some_iff.mp hC).1⟩⟩
  | decaying =>
    by_cases hnull : c.base = .null ∨ c.decay = .null
    · rw [outcome_toMat_of_incomplete hkind hnull] at h
      cases h
    · obtain ⟨hbase, hdecay⟩ := not_or.mp hnull
      rw [outcome_toMat_of_complete hkind hbase hdecay] at h
      cases points with
      | some p =>
        obtain ⟨C, hC⟩ := hdecaying h
        exact .inr ⟨C, hC, .inr rfl⟩
      | none =>
        obtain ⟨n, -, h⟩ := Except.bind_eq_ok_iff.mp h
        obtain ⟨C, hC⟩ := hdecaying h
        exact .inr ⟨C, hC, .inr rfl⟩

variable [Scalar.Propagates α]

/-- Scaled correlations are real only when the correlations and the deviations are. -/
theorem finite_of_withDeviations {C B : Mat α} {s : Option (List α)}
    (h : withDeviations C s = some B) (hB : B.AllFinite) (hcols : 0 < B.cols) :
    C.AllFinite ∧ ∀ xs, s = some xs → ∀ x ∈ xs, Scalar.isFinite x = true := by
  unfold withDeviations at h
  cases s with
  | none =>
    obtain rfl := Option.some.inj h
    exact ⟨hB, nofun⟩
  | some xs =>
    dsimp only at h
    split at h
    · next hlength =>
      obtain rfl := Option.some.inj h
      -- an entry is a correlation times two deviations, the first of which belongs to its row
      have hfactors : ∀ i < C.rows, ∀ j < C.cols, Scalar.isFinite (C.get i j) = true ∧
          Scalar.isFinite (xs.toArray[i]?.getD 0) = true := by
        intro i hi j hj
        have hentry := hB i hi j hj
        rw [get_ofFn _ hi hj] at hentry
        obtain ⟨hcorrelation, hscale⟩ := Scalar.Propagates.finite_of_mul hentry
        exact ⟨hcorrelation, (Scalar.Propagates.finite_of_mul hscale).1⟩
      refine ⟨fun i hi j hj => (hfactors i hi j hj).1, ?_⟩
      rintro _ ⟨⟩ x hx
      obtain ⟨i, hi, rfl⟩ := List.mem_iff_getElem.mp hx
      have hrow := (hfactors i (by omega) 0 hcols).2
      rwa [List.getElem?_toArray, List.getElem?_eq_getElem hi] at hrow
    · cases h

/-- A covariance of real numbers is built from real numbers only, as far as they are factors of its
entries. -/
theorem finite_of_toMat {size : Datum α} {points : Option (Points α)} {B : Mat α}
    (h : (c.toMat size points).outcome = .ok (some B)) (hB : B.AllFinite) (hcols : 0 < B.cols) :
    (c.kind ≠ .decaying → ∀ m, c.matrix = some m → m.AllFinite) ∧
      (c.kind ≠ .covariance → ∀ xs, c.deviations = some xs →
        ∀ x ∈ xs, Scalar.isFinite x = true) := by
  rcases toMat_of_ok h with ⟨hkind, hmatrix⟩ | ⟨C, hscaled, hC⟩
  · refine ⟨fun _ m hm => ?_, fun hne => absurd hkind hne⟩
    rw [hmatrix] at hm
    exact Option.some.inj hm ▸ hB
  · obtain ⟨hfinite, hdeviations⟩ := finite_of_withDeviations hscaled hB hcols
    refine ⟨fun hne m hm => ?_, fun _ => hdeviations⟩
    rcases hC with ⟨-, hmatrix⟩ | hkind
    · rw [hmatrix] at hm
      exact Option.some.inj hm ▸ hfinite
    · exact absurd hkind hne

end Covariance

/-- Two members of a cluster level have its correlation. -/
theorem finite_of_clusterBlock {c : Cluster α} {B : Mat α}
    (h : StudyDesign.clusterBlock c = .ok B) (hB : B.AllFinite) {n : ℕ} (hn : c.members = .ok n)
    (htwo : 2 ≤ n) {x : α} (hx : c.correlation.toReal = .ok x) : Scalar.isFinite x = true := by
  obtain ⟨hrows, hcols⟩ := shape_of_clusterBlock h hn
  have hentry := hB 0 (by omega) 1 (by omega)
  unfold StudyDesign.clusterBlock at h
  simp only [Except.bind_eq_ok_iff, Except.pure_eq_ok_iff, hx, Except.ok.injEq,
    exists_eq_left'] at h
  obtain ⟨k, -, shape, -, rfl⟩ := h
  have hshape : 1 < shape.1 := by
    change shape.1 = n at hrows
    omega
  rw [Covariance.compoundSymmetric, Mat.diagonal, get_ofFn _ (by omega) hshape,
    if_neg Nat.zero_ne_one] at hentry
  exact hentry

/-! ### Literal matrices -/

/-- The first matrix with an entry that is no real number is refused. -/
theorem Literals.check_ofMats_of_not_finite {ms : List (String × Mat α)}
    (h : ∃ p ∈ ms, ¬ p.2.AllFinite) : ∃ p ∈ ms, ¬ p.2.AllFinite ∧
      (Literals.ofMats ms).check = .error (.nonFinite p.1
        (p.2.toList.countP Scalar.isUndefined) (p.2.toList.countP Scalar.isInfinite)) := by
  rw [check_ofMats]
  induction ms with
  | nil =>
    obtain ⟨p, hp, -⟩ := h
    exact absurd hp List.not_mem_nil
  | cons p ms ih =>
    rw [List.mapM_cons]
    by_cases hp : p.2.AllFinite
    · obtain ⟨q, hq, hfinite⟩ := h
      have hq : q ∈ ms := by
        refine (List.mem_cons.mp hq).resolve_left ?_
        rintro rfl
        exact hfinite hp
      obtain ⟨r, hr, hrfinite, herror⟩ := ih ⟨q, hq, hfinite⟩
      refine ⟨r, List.mem_cons_of_mem _ hr, hrfinite, ?_⟩
      rw [checkFinite_eq_ok_iff.mpr hp, herror]
      rfl
    · refine ⟨p, List.mem_cons_self, hp, ?_⟩
      rw [checkFinite, if_neg]
      · rfl
      · rwa [List.all_eq_true, ← allFinite_iff]

namespace StudyDesign

/-! ### Doors -/

/-- The covariance structure `c` is turned into a matrix with `size` levels at the given points: for
a dimension, or for the responses. -/
inductive Uses (d : StudyDesign α) : Covariance α → Datum α → Option (Points α) → Prop
  /-- It describes a dimension. -/
  | measure {m : RepeatedMeasure α} {c : Covariance α} {points : Points α} (hm : m ∈ d.measures)
      (hc : d.covariance m.dimension = some c) (hpoints : m.points = .ok points) :
      Uses d c m.count (some points)
  /-- It describes the responses. -/
  | responses {c : Covariance α} (hc : d.covariance responseCovarianceName = some c) :
      Uses d c (.int (responseCount d.responses)) none

end StudyDesign

/-- The places at which a design declares numbers that the matrices of its bundle are made of. -/
inductive Door where
  /-- A literal matrix. -/
  | literal
  /-- The points of a dimension that is compared by polynomials. -/
  | comparedPoint
  /-- The matrix of a covariance structure. -/
  | covariance
  /-- The standard deviations of a covariance structure. -/
  | deviation
  /-- The correlation of two members of a cluster level. -/
  | clusterCorrelation
  /-- The base of a decaying correlation. -/
  | base
  /-- The decay of a decaying correlation. -/
  | decay
  /-- The points that a correlation decays by. -/
  | decayPoint
  deriving DecidableEq, Repr

/-- Are the numbers that enter by this door looked at? -/
def Door.isGuarded : Door → Bool
  | literal | comparedPoint => true
  | covariance | deviation | clusterCorrelation | base | decay | decayPoint => false

/-- Is every number that enters by this door a factor of an entry of the covariance?  Of a decaying
correlation it may be a base or an exponent instead. -/
def Door.isCarried : Door → Bool
  | covariance | deviation | clusterCorrelation => true
  | literal | comparedPoint | base | decay | decayPoint => false

namespace StudyDesign

/-- The values of declared points, or of the points `1, 2, …` that take their place. -/
def pointValues (size : Datum α) : Option (Points α) → Except (Fault α) (List α)
  | some points => points.values
  | none => do (Points.equallySpaced (← size.toRangeEnd)).values

/-- The number `x` enters a matrix of the bundle of `d` by this door. -/
inductive Enters (d : StudyDesign α) : Door → α → Prop
  /-- It is an entry of a literal matrix. -/
  | literal {name : String} {m : Mat α} {x : α} (hm : (name, m) ∈ d.matrices)
      (hx : x ∈ m.toList) : Enters d .literal x
  /-- It is one of several points of a dimension that the hypothesis compares by polynomials. -/
  | comparedPoint {g : Hypothesis α} {name : String} {m : EffectMapping α} {t : Trend}
      {points : Points α} {xs : List α} {x : α} (hguided : d.isMatrixMode = false)
      (hprimary : d.primaryHypothesis = some g)
      (hm : comparedMapping? g.kind g.within name = some m) (ht : m.trend.resolve = .ok t)
      (hpolynomial : t.isPolynomial = true)
      (hpoints : (measureLevels d.measures).points name = .ok points)
      (hxs : points.values = .ok xs) (htwo : 2 ≤ xs.length) (hx : x ∈ xs) :
      Enters d .comparedPoint x
  /-- It is an entry of the matrix of a structure that is used. -/
  | covariance {c : Covariance α} {size : Datum α} {points : Option (Points α)} {m : Mat α} {x : α}
      (hguided : d.isMatrixMode = false) (hc : d.Uses c size points) (hkind : c.kind ≠ .decaying)
      (hm : c.matrix = some m) (hx : x ∈ m.toList) : Enters d .covariance x
  /-- It is a deviation by which correlations are scaled. -/
  | deviation {c : Covariance α} {size : Datum α} {points : Option (Points α)} {xs : List α} {x : α}
      (hguided : d.isMatrixMode = false) (hc : d.Uses c size points) (hkind : c.kind ≠ .covariance)
      (hxs : c.deviations = some xs) (hx : x ∈ xs) : Enters d .deviation x
  /-- It is the correlation within a cluster level of several members. -/
  | clusterCorrelation {c : Cluster α} {n : ℕ} {x : α} (hguided : d.isMatrixMode = false)
      (hc : c ∈ d.clusters) (hn : c.members = .ok n) (htwo : 2 ≤ n)
      (hx : c.correlation.toReal = .ok x) : Enters d .clusterCorrelation x
  /-- It is the base of correlations that decay with the distance of several measurements. -/
  | base {c : Covariance α} {size : Datum α} {points : Option (Points α)} {xs : List α} {x : α}
      (hguided : d.isMatrixMode = false) (hc : d.Uses c size points) (hkind : c.kind = .decaying)
      (hxs : pointValues size points = .ok xs) (htwo : 2 ≤ xs.length)
      (hx : c.base.real? = some x) : Enters d .base x
  /-- It is the decay of such correlations, and the distances differ. -/
  | decay {c : Covariance α} {size : Datum α} {points : Option (Points α)} {xs : List α}
      {near far x : α} (hguided : d.isMatrixMode = false) (hc : d.Uses c size points)
      (hkind : c.kind = .decaying) (hxs : pointValues size points = .ok xs)
      (hnear : Scalar.least? (Covariance.pairDistances xs.toArray) = some near)
      (hfar : Scalar.greatest? (Covariance.pairDistances xs.toArray) = some far)
      (hdiffer : Scalar.lt near far = true) (hx : c.decay.real? = some x) : Enters d .decay x
  /-- It is one of several points that a correlation decays by. -/
  | decayPoint {m : RepeatedMeasure α} {c : Covariance α} {points : Points α} {xs : List α} {x : α}
      (hguided : d.isMatrixMode = false) (hm : m ∈ d.measures)
      (hc : d.covariance m.dimension = some c) (hkind : c.kind = .decaying)
      (hpoints : m.points = .ok points) (hxs : points.values = .ok xs) (htwo : 2 ≤ xs.length)
      (hx : x ∈ xs) : Enters d .decayPoint x

variable {d : StudyDesign α} {limits : Limits} {b : Bundle α}

/-! ### Guarded doors -/

/-- A literal matrix with an entry that is no real number is refused as such. -/
theorem edit_matrices_of_not_finite {ms : List (String × Mat α)}
    (h : ∃ p ∈ ms, ¬ p.2.AllFinite) : ∃ p ∈ ms, ¬ p.2.AllFinite ∧
      d.edit [.matrices (.ofMats ms)] = .error (.nonFinite p.1
        (p.2.toList.countP Scalar.isUndefined) (p.2.toList.countP Scalar.isInfinite)) := by
  have hedit : d.edit [.matrices (.ofMats ms)] =
      (Literals.ofMats ms).check >>= fun ms => .ok { d with matrices := ms } :=
    check_draft_with d.goal (.ofMats ms)
  obtain ⟨p, hp, hfinite, herror⟩ := Literals.check_ofMats_of_not_finite h
  exact ⟨p, hp, hfinite, by rw [hedit, herror]; rfl⟩

variable [Scalar.Propagates α]

theorem finite_of_comparedPoint (h : (d.assemble limits).outcome = .ok b)
    (hguided : d.isMatrixMode = false) {g : Hypothesis α} (hprimary : d.primaryHypothesis = some g)
    {name : String} {m : EffectMapping α} (hm : comparedMapping? g.kind g.within name = some m)
    {t : Trend} (ht : m.trend.resolve = .ok t) (hpolynomial : t.isPolynomial = true)
    {points : Points α} (hpoints : (measureLevels d.measures).points name = .ok points)
    {xs : List α} (hxs : points.values = .ok xs) (htwo : 2 ≤ xs.length) :
    ∀ x ∈ xs, Scalar.isFinite x = true := by
  obtain ⟨W, n, U, hW, -⟩ :=
    withinContrast_of_guided hguided hprimary (assembled_of_ok h).within
  have hkind : g.kind ≠ .manova := by
    intro hkind
    rw [hkind] at hm
    cases hm
  rw [guidedWithin_eq d hkind] at hW
  obtain ⟨tested, htested, -⟩ := Except.bind_eq_ok_iff.mp hW
  obtain ⟨B, hB⟩ := exists_comparison_of_testedBlocks htested hm
  have htarget : m.target = name := by
    unfold comparedMapping? at hm
    split at hm
    · cases hm
    · cases hm
    · exact target_of_lastMapping? hm
    · exact target_of_lastMapping? hm
  unfold comparison at hB
  rw [htarget, hpoints, ht] at hB
  exact finite_of_trend hpolynomial hB hxs htwo

/-! ### Carried doors -/

omit [Scalar.Propagates α] in
/-- The covariance of the outcomes of a guided design is a product of blocks made symmetric, among
them one for each cluster level and one for each structure that is used. -/
theorem exists_blocks (h : (d.assemble limits).outcome = .ok b) (hguided : d.isMatrixMode = false) :
    ∃ blocks, b.covariance.outcome = (kronAll blocks).symmetricPart ∧
      0 < (kronAll blocks).rows ∧ 0 < (kronAll blocks).cols ∧
      (∀ c ∈ d.clusters, ∃ B ∈ blocks, clusterBlock c = .ok B) ∧
      ∀ c size points, d.Uses c size points →
        ∃ B ∈ blocks, (c.toMat size points).outcome = .ok (some B) := by
  have hassembled := assembled_of_ok h
  have hcoherent := hassembled.coherent
  obtain ⟨S, hS, -, hsymmetric⟩ := sigmaError_of_guided hguided
    (sigmaError_of_outcomeCovariance hguided hassembled.covariance)
  have houtcome := Option.some.inj hsymmetric
  have hshape := hcoherent.outcome_shape
  rw [houtcome] at hshape
  obtain ⟨hrows, hcols⟩ := Prod.mk.inj hshape
  have hpos := hcoherent.beta_cols
  unfold guidedSigma at hS
  simp only [Journal.outcome_bind_eq_ok_iff, Journal.outcome_monadLift, Journal.outcome_pure,
    Journal.outcome_mapM_eq_ok_iff, List.mapM_eq_ok_iff, Except.ok.injEq] at hS
  obtain ⟨clusters, hclusters, measures, hmeasures, responses, hresponses, rfl⟩ := hS
  refine ⟨_, houtcome, hrows ▸ hpos, hcols ▸ hpos, fun c hc => ?_, ?_⟩
  · obtain ⟨B, hB, hblock⟩ := List.exists_mem_of_forall₂ hclusters hc
    exact ⟨B, List.mem_append_left _ (List.mem_append_left _ hB), hblock⟩
  · rintro c size points (⟨hm, hc, hpoints⟩ | hc)
    · obtain ⟨B, hB, hblock⟩ := List.exists_mem_of_forall₂ hmeasures hm
      obtain ⟨c', points', hc', hpoints', hmat⟩ := outcome_measureBlock_eq_ok_iff.mp hblock
      obtain rfl := Option.some.inj (hc.symm.trans hc')
      obtain rfl := Except.ok.inj (hpoints.symm.trans hpoints')
      exact ⟨B, List.mem_append_left _ (List.mem_append_right _ hB), hmat⟩
    · obtain ⟨c', hc', hmat⟩ := outcome_responseBlock_eq_ok_iff.mp hresponses
      obtain rfl := Option.some.inj (hc.symm.trans hc')
      exact ⟨responses, List.mem_append_right _ List.mem_cons_self, hmat⟩

/-- When the covariance has real numbers only, so has each block that it is made of. -/
theorem finite_of_use (h : (d.assemble limits).outcome = .ok b) (hguided : d.isMatrixMode = false)
    (hfinite : b.covariance.outcome.AllFinite) {c : Covariance α} {size : Datum α}
    {points : Option (Points α)} (hc : d.Uses c size points) :
    (c.kind ≠ .decaying → ∀ m, c.matrix = some m → m.AllFinite) ∧
      (c.kind ≠ .covariance → ∀ xs, c.deviations = some xs →
        ∀ x ∈ xs, Scalar.isFinite x = true) := by
  obtain ⟨blocks, houtcome, hrows, hcols, -, huses⟩ := exists_blocks h hguided
  obtain ⟨B, hB, hmat⟩ := huses c size points hc
  rw [houtcome] at hfinite
  obtain ⟨hBfinite, -, hBcols⟩ := hfinite.of_symmetricPart.of_kronAll hrows hcols B hB
  exact Covariance.finite_of_toMat hmat hBfinite hBcols

theorem exists_finite_clusterBlock (h : (d.assemble limits).outcome = .ok b)
    (hguided : d.isMatrixMode = false) (hfinite : b.covariance.outcome.AllFinite) {c : Cluster α}
    (hc : c ∈ d.clusters) : ∃ B, B.AllFinite ∧ clusterBlock c = .ok B := by
  obtain ⟨blocks, houtcome, hrows, hcols, hclusters, -⟩ := exists_blocks h hguided
  obtain ⟨B, hB, hblock⟩ := hclusters c hc
  rw [houtcome] at hfinite
  exact ⟨B, (hfinite.of_symmetricPart.of_kronAll hrows hcols B hB).1, hblock⟩

/-- **In an accepted design, what enters by a guarded door is a real number.**  What enters by an
unguarded one need not be: a design that differs from an accepted one in such numbers can be
declared and is accepted as well.  When all entries of the covariance in the bundle are real numbers
after all, so is what entered by a carried door.  A literal matrix is refused for an entry that is
no real number before the design is there. -/
theorem finite_of_accepted (hd : d.IsChecked) (h : (d.assemble limits).outcome = .ok b) :
    ((∀ door x, d.Enters door x → Scalar.isFinite x = true) ↔
      ∀ door x, door.isGuarded = false → d.Enters door x → Scalar.isFinite x = true) ∧
    (∀ ms ks cs, d.IsReplacement ms ks cs → (d.replace ms ks cs).IsChecked ∧
      ∃ b', ((d.replace ms ks cs).assemble limits).outcome = .ok b') ∧
    (b.covariance.outcome.AllFinite →
      ∀ door x, door.isCarried = true → d.Enters door x → Scalar.isFinite x = true) ∧
    ∀ ms : List (String × Mat α), (∃ p ∈ ms, ¬ p.2.AllFinite) →
      ∃ p ∈ ms, ¬ p.2.AllFinite ∧ d.edit [.matrices (.ofMats ms)] = .error (.nonFinite p.1
        (p.2.toList.countP Scalar.isUndefined) (p.2.toList.countP Scalar.isInfinite)) := by
  refine ⟨⟨fun hall door x _ hx => hall door x hx, fun hunguarded door x hx => ?_⟩,
    fun ms ks cs hreplacement => ⟨?_, hreplacement.exists_assemble ⟨b, h⟩⟩,
    fun hfinite door x hcarried hx => ?_, fun ms hms => edit_matrices_of_not_finite hms⟩
  · cases hguard : door.isGuarded with
    | false => exact hunguarded door x hguard hx
    | true =>
      cases hx with
      | literal hm hx => exact allFinite_iff.mp (isChecked_iff_allFinite.mp hd _ hm) x hx
      | comparedPoint hguided hprimary hm ht hpolynomial hpoints hxs htwo hx =>
        exact finite_of_comparedPoint h hguided hprimary hm ht hpolynomial hpoints hxs htwo x hx
      | covariance | deviation | clusterCorrelation | base | decay | decayPoint => cases hguard
  · rw [isChecked_iff] at hd ⊢
    exact hd
  · cases hx with
    | covariance hguided hc hkind hm hx =>
      exact allFinite_iff.mp ((finite_of_use h hguided hfinite hc).1 hkind _ hm) x hx
    | deviation hguided hc hkind hxs hx =>
      exact (finite_of_use h hguided hfinite hc).2 hkind _ hxs x hx
    | clusterCorrelation hguided hc hn htwo hx =>
      obtain ⟨B, hB, hblock⟩ := exists_finite_clusterBlock h hguided hfinite hc
      exact finite_of_clusterBlock hblock hB hn htwo hx
    | literal | comparedPoint | base | decay | decayPoint => cases hcarried

/-- The covariance of one response with the variance `x`. -/
def responseVariance (x : Float) : Covariance Float where
  name := responseCovarianceName
  kind := .covariance
  base := .null
  decay := .null
  deviations := none
  matrix := some (.ofArray 1 1 #[x])

/-- A guided trial with two groups and one response with the variance `x`. -/
def doseTrial (x : Float) : StudyDesign Float where
  view := .guided
  goal := .power
  covariateFlag := .bool false
  factors := [⟨"treatment", 2⟩]
  measures := []
  clusters := []
  responses := ["y"]
  covariances := [responseVariance x]
  groupSizes := none
  hypotheses := [⟨.mainEffect, [⟨"treatment", .known .none⟩], []⟩]
  matrices := [("beta", .ofArray 2 1 #[0, 1])]
  tests := none
  alphas := none
  nominalPowers := none
  sampleSizes := none
  betaScales := none
  sigmaScales := none
  powerMethods := none
  quantiles := none
  interval := none

theorem isChecked_doseTrial (x : Float) : (doseTrial x).IsChecked := by
  rw [isChecked_iff_allFinite]
  intro p hp
  obtain rfl := List.mem_singleton.mp hp
  decide +kernel

theorem isReplacement_doseTrial (x y : Float) :
    (doseTrial x).IsReplacement [] [] [responseVariance y] where
  measures := .nil
  tested := by
    intro h hh m hm
    obtain rfl := Option.some.inj hh
    exact absurd hm List.not_mem_nil
  clusters := .nil
  covariances := .cons ⟨rfl, rfl, .same _, .same _, rfl, rfl⟩ .nil
  decays := by
    intro c hc
    obtain rfl := List.mem_singleton.mp hc
    exact .inl rfl

theorem kind_of_uses_doseTrial {y : Float} {c : Covariance Float} {size : Datum Float}
    {points : Option (Points Float)} (h : (doseTrial y).Uses c size points) :
    c.kind = .covariance := by
  have hmem : c ∈ (doseTrial y).covariances := by
    cases h with
    | measure _ hc _ => exact List.mem_of_find?_eq_some hc
    | responses hc => exact List.mem_of_find?_eq_some hc
  obtain rfl := List.mem_singleton.mp hmem
  rfl

/-- The trial with the variance 4 declares real numbers only.  It stays accepted with any other
variance, real or not, and is refused a mean that is no real number. -/
theorem finite_of_accepted_doseTrial :
    (doseTrial 4).IsChecked ∧
    (∀ door x, (doseTrial 4).Enters door x → Scalar.isFinite x = true) ∧
    (∀ y, (doseTrial y).IsChecked ∧ ∃ b, ((doseTrial y).assemble {}).outcome = .ok b) ∧
    (doseTrial 4).edit [.matrices (.ofMats [("beta", .ofArray 2 1 #[0, Double.undefined])])] =
      .error (.nonFinite "beta" 1 0) := by
  obtain ⟨b, hb, hfinite⟩ := Except.exists_eq_ok_of_any (x := ((doseTrial 4).assemble {}).outcome)
    (p := fun b => b.covariance.outcome.AllFinite) (by decide +kernel)
  rw [decide_eq_true_eq] at hfinite
  obtain ⟨hguarded, hreplaced, hcarried, hrefused⟩ :=
    finite_of_accepted (isChecked_doseTrial 4) hb
  refine ⟨isChecked_doseTrial 4, hguarded.mpr fun door x hdoor hx => ?_,
    fun y => hreplaced _ _ _ (isReplacement_doseTrial 4 y), ?_⟩
  · cases hx with
    | covariance hguided hc hkind hm hx =>
      exact hcarried hfinite _ x rfl (.covariance hguided hc hkind hm hx)
    | deviation hguided hc hkind hxs hx =>
      exact hcarried hfinite _ x rfl (.deviation hguided hc hkind hxs hx)
    | clusterCorrelation hguided hc hn htwo hx =>
      exact hcarried hfinite _ x rfl (.clusterCorrelation hguided hc hn htwo hx)
    | base _ hc hkind | decay _ hc hkind =>
      rw [kind_of_uses_doseTrial hc] at hkind
      cases hkind
    | decayPoint _ hm => exact absurd hm List.not_mem_nil
    | literal | comparedPoint => cases hdoor
  · obtain ⟨p, hp, -, herror⟩ := hrefused [("beta", .ofArray 2 1 #[0, Double.undefined])]
      ⟨_, List.mem_singleton.mpr rfl, by decide +kernel⟩
    obtain rfl := List.mem_singleton.mp hp
    refine herror.trans (congrArg₂ (fun m n => Except.error (Fault.nonFinite "beta" m n)) ?_ ?_)
    · decide +kernel
    · decide +kernel

/-- The trial at two points of time, the first of which is `x`, compared by a straight line. -/
def timedTrial (x : Float) : StudyDesign Float := { doseTrial 4 with
  measures := [⟨"time", .int 2, some [.real x, .real 1]⟩]
  covariances := [
    ⟨"time", .covariance, .null, .null, none, some (.identity 2)⟩,
    responseVariance 4]
  hypotheses := [⟨.trend, [⟨"treatment", .known .none⟩], [⟨"time", .known .linear⟩]⟩]
  matrices := [("beta", .ofArray 2 2 #[0, 1, 0, 1])] }

theorem isChecked_timedTrial (x : Float) : (timedTrial x).IsChecked := by
  rw [isChecked_iff_allFinite]
  intro p hp
  obtain rfl := List.mem_singleton.mp hp
  decide +kernel

theorem enters_timedTrial (x : Float) : (timedTrial x).Enters .comparedPoint x := by
  have hpoints : (measureLevels (timedTrial x).measures).points "time" =
      .ok (.ofDatum (.list [.real x, .real 1])) := rfl
  exact .comparedPoint rfl rfl rfl rfl rfl hpoints rfl (le_refl 2) List.mem_cons_self

/-- The covariance of one response, as it is declared. -/
def declaredVariance (x : Float) : CovarianceDraft Float where
  name := responseCovarianceName
  kind := .text "UNSTRUCTURED_COVARIANCE"
  base := .null
  decay := .null
  deviations := .null
  matrix := some (.list [.list [.real x]])

theorem check_declaredVariance (x : Float) :
    (declaredVariance x).check = .ok (responseVariance x) := rfl

/-- A variance that is no number can be declared, is accepted and is handed on.  A point that is no
number is found by the comparison, as a value that cannot be used and not as an invalid design. -/
theorem undefined_enters_doseTrial :
    Scalar.isFinite Double.undefined = false ∧
    (declaredVariance Double.undefined).check = .ok (responseVariance Double.undefined) ∧
    ((doseTrial Double.undefined).IsChecked ∧
      (doseTrial Double.undefined).Enters .covariance Double.undefined ∧
      ∃ b, ((doseTrial Double.undefined).assemble {}).outcome = .ok b ∧
        ¬ b.covariance.outcome.AllFinite) ∧
    (timedTrial Double.undefined).IsChecked ∧
      (timedTrial Double.undefined).Enters .comparedPoint Double.undefined ∧
      ((timedTrial Double.undefined).assemble {}).outcome = .error .nonFiniteLevels ∧
      (Fault.nonFiniteLevels : Fault Float).isInvalidDesign = false := by
  obtain ⟨b, hb, hinfinite⟩ := Except.exists_eq_ok_of_any
    (x := ((doseTrial Double.undefined).assemble {}).outcome)
    (p := fun b => ¬ b.covariance.outcome.AllFinite) (by decide +kernel)
  rw [decide_eq_true_eq] at hinfinite
  have hfault : ((timedTrial Double.undefined).assemble {}).outcome.fault?.map
      (fun f => match f with | .nonFiniteLevels => true | _ => false) = some true := by
    decide +kernel
  obtain ⟨f, hf, hmatch⟩ := Option.map_eq_some_iff.mp hfault
  refine ⟨by decide +kernel, check_declaredVariance _,
    ⟨isChecked_doseTrial _, .covariance rfl (.responses rfl) nofun rfl ?_, b, hb, hinfinite⟩,
    isChecked_timedTrial _, enters_timedTrial _, ?_, rfl⟩
  · exact List.mem_cons_self
  · split at hmatch
    · exact Except.eq_error_of_fault? hf
    · cases hmatch

end StudyDesign

end StudyPower
