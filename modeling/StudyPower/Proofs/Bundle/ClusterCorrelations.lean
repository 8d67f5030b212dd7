import Mathlib
import StudyPower.Proofs.Bundle.Clusters
import StudyPower.Proofs.Mat.Semidefinite

/-!
# Correlations that are possible

Members of a cluster cannot correlate as one likes: any two of three things are not each the
opposite of the other.  A covariance stays semidefinite under clusters exactly when each level
declares a correlation that its number of members allows, whatever the other levels declare.

## Main definitions

* `CanCorrelate s ρ` — any two of `s` members can correlate by `ρ`.

## Main statements

* `form_compoundSymmetric_kron` — the form of one level, by the sum and the deviations of the
  members.
* `isNonneg_compoundSymmetric_kron_iff`, `isNonneg_memberCorrelations_kron_iff` — one level, and all
  of them by induction from the innermost one.
* `StudyDesign.sigmaError_posSemidef_iff` — **clusters give a valid covariance for exactly these
  correlations.**
-/

namespace StudyPower

open Mat Finset

variable {α : Type} [ExactScalar α]

/-! ### One level -/

/-- Any two of `s` members can correlate by `ρ`: a member alone has no one to correlate with. -/
def CanCorrelate (s : ℕ) (ρ : α) : Prop := 2 ≤ s → -1 / ((s : α) - 1) ≤ ρ ∧ ρ ≤ 1

/-- The lower bound says that the correlations of a member with all members add up to no less than
zero. -/
theorem canCorrelate_iff {s : ℕ} {ρ : α} (hs : 2 ≤ s) :
    CanCorrelate s ρ ↔ 0 ≤ 1 + ((s : α) - 1) * ρ ∧ ρ ≤ 1 := by
  have hs' : (2 : α) ≤ s := by exact_mod_cast hs
  have hpos : (0 : α) < s - 1 := by linarith
  unfold CanCorrelate
  rw [forall_prop_of_true hs, div_le_iff₀ hpos]
  constructor
  · rintro ⟨hlower, hupper⟩
    exact ⟨by linarith, hupper⟩
  · rintro ⟨hlower, hupper⟩
    exact ⟨by linarith, hupper⟩

/-- The form of one level adds up the sum over the members, `ρ` times, and the members one by
one. -/
theorem form_compoundSymmetric_kron (s : ℕ) (ρ : α) {m : Mat α} (hm : m.rows = m.cols)
    (v : ℕ → α) {t : ℕ → α} (ht : ∑ i ∈ range s, slice m.rows v i = t) :
    ((Covariance.compoundSymmetric s ρ).kron m).form v v =
      ρ * m.form t t + (1 - ρ) * ∑ i ∈ range s, m.form (slice m.rows v i) (slice m.rows v i) := by
  have hsum : m.form t t =
      ∑ i ∈ range s, ∑ j ∈ range s, m.form (slice m.rows v i) (slice m.rows v j) := by
    rw [← ht, map_sum m.form, LinearMap.sum_apply]
    exact sum_congr rfl fun i _ => map_sum _ _ _
  rw [form_kron, ← hm, hsum, mul_sum, mul_sum, ← sum_add_distrib]
  refine sum_congr rfl fun i hi => ?_
  calc ∑ j ∈ range s, (Covariance.compoundSymmetric s ρ).get i j *
        m.form (slice m.rows v i) (slice m.rows v j)
      = ∑ j ∈ range s, (ρ * m.form (slice m.rows v i) (slice m.rows v j) +
          if i = j then (1 - ρ) * m.form (slice m.rows v i) (slice m.rows v j) else 0) := by
        refine sum_congr rfl fun j hj => ?_
        rw [get_compoundSymmetric_eq_add ρ (mem_range.mp hi) (mem_range.mp hj), add_mul, ite_mul,
          zero_mul]
    _ = ρ * ∑ j ∈ range s, m.form (slice m.rows v i) (slice m.rows v j) +
          (1 - ρ) * m.form (slice m.rows v i) (slice m.rows v i) := by
        rw [sum_add_distrib, ← mul_sum, sum_ite_eq, if_pos hi]

/-- The form of the correlations alone at a single member. -/
theorem form_compoundSymmetric_single {s : ℕ} (hs : 0 < s) (ρ : α) :
    (Covariance.compoundSymmetric s ρ).form (Pi.single 0 1) (Pi.single 0 1) = 1 := by
  rw [form_single, get_compoundSymmetric ρ hs hs, if_pos rfl]

/-- The form of the correlations alone at the difference of two members. -/
theorem form_compoundSymmetric_sub {s : ℕ} (hs : 2 ≤ s) (ρ : α) :
    (Covariance.compoundSymmetric s ρ).form (Pi.single 0 1 - Pi.single 1 1)
      (Pi.single 0 1 - Pi.single 1 1) = 2 * (1 - ρ) := by
  have h0 : 0 < s := by omega
  have h1 : 1 < s := by omega
  simp only [map_sub, LinearMap.sub_apply, form_single, get_compoundSymmetric ρ h0 h0,
    get_compoundSymmetric ρ h0 h1, get_compoundSymmetric ρ h1 h0, get_compoundSymmetric ρ h1 h1,
    if_true, one_ne_zero, zero_ne_one, if_false]
  ring

/-- A correlation is possible when no combination of the members has a negative variance: the sum of
all members gives the lower bound, and the difference of two the upper one. -/
theorem canCorrelate_of_isNonneg {s : ℕ} {ρ : α}
    (h : (Covariance.compoundSymmetric s ρ).IsNonneg) : CanCorrelate s ρ := by
  by_cases htwo : 2 ≤ s
  · have hs : (0 : α) < s := by exact_mod_cast Nat.lt_of_lt_of_le Nat.two_pos htwo
    have hsum := h 1
    have hdifference := h (Pi.single 0 1 - Pi.single 1 1)
    rw [form_one, total_compoundSymmetric] at hsum
    rw [form_compoundSymmetric_sub htwo] at hdifference
    refine (canCorrelate_iff htwo).mpr ⟨nonneg_of_mul_nonneg_right hsum hs, ?_⟩
    linarith
  · intro h
    exact absurd h htwo

theorem compoundSymmetric_one (ρ : α) : Covariance.compoundSymmetric 1 ρ = filled 1 1 1 := by
  refine ext_get rfl rfl fun i j hi hj => ?_
  obtain rfl : i = 0 := Nat.lt_one_iff.mp hi
  obtain rfl : j = 0 := Nat.lt_one_iff.mp hj
  rfl

/-- A level with a possible correlation keeps a form from being negative: the form is a combination
of the values at the sum of the members and at their deviations from the mean. -/
theorem isNonneg_compoundSymmetric_kron {m : Mat α} (h : m.IsNonneg) (hm : m.rows = m.cols) {s : ℕ}
    {ρ : α} (hs : 0 < s) (hρ : CanCorrelate s ρ) :
    ((Covariance.compoundSymmetric s ρ).kron m).IsNonneg := by
  rcases Nat.lt_or_ge s 2 with hone | htwo
  · obtain rfl : s = 1 := by omega
    rwa [compoundSymmetric_one, one_kron]
  · obtain ⟨hlower, hupper⟩ := (canCorrelate_iff htwo).mp hρ
    intro v
    have hs' : (0 : α) < s := by exact_mod_cast hs
    have hmean := sum_form_sub_mean m hs'.ne' (slice m.rows v) rfl
    have hdeviations := sum_nonneg fun i (_ : i ∈ range s) =>
      h (slice m.rows v i - (s : α)⁻¹ • ∑ k ∈ range s, slice m.rows v k)
    rw [hmean] at hdeviations
    rw [form_compoundSymmetric_kron s ρ hm v rfl]
    generalize ∑ k ∈ range s, slice m.rows v k = t at hdeviations ⊢
    have ht : 0 ≤ (s : α)⁻¹ * ((1 + ((s : α) - 1) * ρ) * m.form t t) :=
      mul_nonneg (inv_nonneg.mpr hs'.le) (mul_nonneg hlower (h t))
    have hrest := mul_nonneg (sub_nonneg.mpr hupper) hdeviations
    have hsplit : ρ * m.form t t +
        (1 - ρ) * ∑ i ∈ range s, m.form (slice m.rows v i) (slice m.rows v i) =
        (s : α)⁻¹ * ((1 + ((s : α) - 1) * ρ) * m.form t t) + (1 - ρ) *
          (∑ i ∈ range s, m.form (slice m.rows v i) (slice m.rows v i) -
            (s : α)⁻¹ * m.form t t) := by
      field_simp
      ring
    rw [hsplit]
    exact add_nonneg ht hrest

/-- When the second factor has a positive value, a level keeps the form from being negative only
with a possible correlation, and only if the form of the second factor is never negative: either
factor is recovered at tensors. -/
theorem isNonneg_compoundSymmetric_kron_iff {m : Mat α} (hm : m.rows = m.cols)
    (hpos : ∃ u, 0 < m.form u u) {s : ℕ} {ρ : α} (hs : 0 < s) :
    ((Covariance.compoundSymmetric s ρ).kron m).IsNonneg ↔ CanCorrelate s ρ ∧ m.IsNonneg := by
  constructor
  · intro h
    have htensor : ∀ x w, 0 ≤ (Covariance.compoundSymmetric s ρ).form x x * m.form w w := by
      intro x w
      rw [← form_kron_tensor_self _ hm]
      exact h _
    refine ⟨?_, fun w => ?_⟩
    · obtain ⟨u, hu⟩ := hpos
      exact canCorrelate_of_isNonneg fun x => nonneg_of_mul_nonneg_left (htensor x u) hu
    · have hvalue := htensor (Pi.single 0 1) w
      rwa [form_compoundSymmetric_single hs, one_mul] at hvalue
  · rintro ⟨hρ, hnonneg⟩
    exact isNonneg_compoundSymmetric_kron hnonneg hm hs hρ

/-! ### All levels -/

/-- The levels count one by one, each on its own. -/
theorem isNonneg_memberCorrelations_kron_iff {m : Mat α} (hm : m.rows = m.cols)
    (hpos : ∃ u, 0 < m.form u u) {levels : List (ℕ × α)} (hlevels : ∀ level ∈ levels, 0 < level.1) :
    (∃ u, 0 < ((memberCorrelations levels).kron m).form u u) ∧
      (((memberCorrelations levels).kron m).IsNonneg ↔
        (∀ level ∈ levels, CanCorrelate level.1 level.2) ∧ m.IsNonneg) := by
  induction levels with
  | nil =>
    have hnil : (memberCorrelations ([] : List (ℕ × α))).kron m = m := one_kron m
    rw [hnil]
    exact ⟨hpos, by simp⟩
  | cons level levels ih =>
    obtain ⟨hs, hrest⟩ := List.forall_mem_cons.mp hlevels
    obtain ⟨hpos', hiff⟩ := ih hrest
    have hcons : (memberCorrelations (level :: levels)).kron m =
        (Covariance.compoundSymmetric level.1 level.2).kron
          ((memberCorrelations levels).kron m) := by
      rw [memberCorrelations, List.map_cons, kronAll_cons, kron_assoc, memberCorrelations]
    have hsquare : ((memberCorrelations levels).kron m).rows =
        ((memberCorrelations levels).kron m).cols := by
      rw [rows_kron, cols_kron, rows_memberCorrelations, cols_memberCorrelations, hm]
    rw [hcons, isNonneg_compoundSymmetric_kron_iff hsquare hpos' hs, hiff, List.forall_mem_cons,
      and_assoc]
    refine ⟨?_, Iff.rfl⟩
    -- a positive value for the first member is a positive value
    obtain ⟨u, hu⟩ := hpos'
    refine ⟨tensor ((memberCorrelations levels).kron m).rows (Pi.single 0 1) u, ?_⟩
    rwa [form_kron_tensor_self _ hsquare, form_compoundSymmetric_single hs, one_mul]

namespace StudyDesign

variable {d : StudyDesign α}

/-- **Clusters give a valid covariance for exactly the correlations that are possible.**  When the
covariance without clusters is semidefinite and not zero, that with clusters is semidefinite if and
only if each level of `s` members, at least two, has a correlation between `-1 / (s - 1)` and
one. -/
theorem sigmaError_posSemidef_iff (hguided : d.isMatrixMode = false) {S : Mat α}
    (hS : d.sigmaError.outcome = .ok (some S)) :
    ∃ levels S₀, List.Forall₂ Cluster.IsLevel d.clusters levels ∧
      d.unclustered.sigmaError.outcome = .ok (some S₀) ∧
      (S₀.PosSemidef → (∃ i j, S₀.get i j ≠ 0) →
        (S.PosSemidef ↔
          ∀ level ∈ levels, 2 ≤ level.1 → -1 / ((level.1 : α) - 1) ≤ level.2 ∧ level.2 ≤ 1)) := by
  obtain ⟨levels, S₀, hlevels, hS₀, hsquare, rfl⟩ := exists_unclustered_sigmaError hguided hS
  refine ⟨levels, S₀, hlevels, hS₀, ?_⟩
  rintro hsemidef ⟨i, j, hij⟩
  obtain ⟨-, hiff⟩ := isNonneg_memberCorrelations_kron_iff hsquare (hsemidef.exists_pos hij)
    (pos_of_isLevel hlevels)
  have hsymmetric := (transpose_of_sigmaError hS).2 add_comm
  constructor
  · intro h
    exact (hiff.mp h.nonneg).1
  · intro h
    exact ⟨hsymmetric, hiff.mpr ⟨h, hsemidef.nonneg⟩⟩

/-- The trial in schools, with the two classes of a school as far apart as can be, and pupils of a
class that correlate by `ρ`. -/
def classTrial (ρ : ℚ) : StudyDesign ℚ := { schoolTrial with
  clusters := [⟨"school", .int 2, .real (-1)⟩, ⟨"class", .int 3, .real ρ⟩] }

theorem unclustered_classTrial (ρ : ℚ) :
    (classTrial ρ).unclustered.sigmaError.outcome =
      .ok (some (ofArray 2 2 #[4, 3 / 2, 3 / 2, 4])) := by
  have h : schoolTrial.unclustered.sigmaError.outcome =
      .ok (some (ofArray 2 2 #[4, 3 / 2, 3 / 2, 4])) :=
    Except.eq_ok_of_toOption (by decide +kernel)
  exact h

theorem posSemidef_unclustered_classTrial :
    (ofArray 2 2 #[4, 3 / 2, 3 / 2, 4] : Mat ℚ).PosSemidef where
  symmetric := by decide +kernel
  nonneg := by
    intro v
    have hform : (ofArray 2 2 #[4, 3 / 2, 3 / 2, 4] : Mat ℚ).form v v =
        5 / 2 * (v 0 * v 0 + v 1 * v 1) + 3 / 2 * ((v 0 + v 1) * (v 0 + v 1)) := by
      simp [form_apply, ofArray, sum_range_succ, get_ofFn_eq]
      ring
    rw [hform]
    have hsum := mul_self_nonneg (v 0 + v 1)
    have h0 := mul_self_nonneg (v 0)
    have h1 := mul_self_nonneg (v 1)
    linarith

/-- In the trial with opposite classes, pupils of a class can correlate by a half of minus one, and
by nothing below. -/
theorem sigmaError_posSemidef_iff_classTrial :
    ∃ S S', (classTrial (-1 / 2)).sigmaError.outcome = .ok (some S) ∧ S.PosSemidef ∧
      (classTrial (-51 / 100)).sigmaError.outcome = .ok (some S') ∧ ¬ S'.PosSemidef := by
  have hiff : ∀ (ρ : ℚ) (S : Mat ℚ), (classTrial ρ).sigmaError.outcome = .ok (some S) →
      (S.PosSemidef ↔ -1 / 2 ≤ ρ ∧ ρ ≤ 1) := by
    intro ρ S hS
    obtain ⟨levels, S₀, hlevels, hS₀, hiff⟩ := sigmaError_posSemidef_iff rfl hS
    have hdeclared : List.Forall₂ Cluster.IsLevel (classTrial ρ).clusters [(2, -1), (3, ρ)] :=
      .cons ⟨rfl, Nat.two_pos, rfl⟩ (.cons ⟨rfl, Nat.succ_pos 2, rfl⟩ .nil)
    obtain rfl := Cluster.rightUnique_isLevel.forall₂ hlevels hdeclared
    rw [unclustered_classTrial, Except.ok.injEq, Option.some.injEq] at hS₀
    subst hS₀
    rw [hiff posSemidef_unclustered_classTrial ⟨0, 0, by decide +kernel⟩]
    norm_num
  have hS : (classTrial (-1 / 2)).sigmaError.outcome =
      .ok (some ((memberCorrelations [(2, -1), (3, -1 / 2)]).kron
        (ofArray 2 2 #[4, 3 / 2, 3 / 2, 4]))) :=
    Except.eq_ok_of_toOption (by decide +kernel)
  have hS' : (classTrial (-51 / 100)).sigmaError.outcome =
      .ok (some ((memberCorrelations [(2, -1), (3, -51 / 100)]).kron
        (ofArray 2 2 #[4, 3 / 2, 3 / 2, 4]))) :=
    Except.eq_ok_of_toOption (by decide +kernel)
  refine ⟨_, _, hS, (hiff _ _ hS).mpr (by norm_num), hS', fun h => ?_⟩
  have hbelow := ((hiff _ _ hS').mp h).1
  norm_num at hbelow

end StudyDesign

end StudyPower
