import Mathlib
import StudyPower.Proofs.Bundle.Replacement
import StudyPower.Proofs.Covariance.Decay

/-!
# The matrix of a covariance structure

A declared structure has a matrix for a number of levels when what its kind reads is there and has
as many entries as there are levels.  The matrix is the literal one, or that of correlations scaled
by the standard deviations.  It is as symmetric as what was declared, whether or not the products
are rounded.

## Main definitions

* `Covariance.Fits c n points` — the structure has what a matrix of `n` levels takes.
* `Covariance.deviationAt s i` — the standard deviation of a level, one when none is declared.
* `Covariance.IsScaled C s n B` — `B` holds the correlations `C` of `n` levels, scaled.
* `Covariance.Declares c n points B` — `B` is what the structure declares.
* `Covariance.Realizes c n points B` — it is, with the symmetry and the diagonal that follow.

## Main statements

* `isSome_withDeviations_iff` — scaling needs a standard deviation for each level, if any.
* `IsScaled.transpose`, `IsScaled.diagonal` — what scaled correlations keep.
* `realizes_of_covariance`, `realizes_of_correlation`, `realizes_of_decaying` — the matrix of each
  kind of structure.
* `toMat_structure` — **when a structure has a matrix, and which.**
-/

namespace StudyPower

namespace Covariance

open Mat

variable {α : Type} [Scalar α]

/-- The points of `n` levels: those given, or `1, 2, …, n`. -/
def levelPoints (points : Option (List α)) (n : ℕ) : List α :=
  points.getD ((List.range n).map fun i => ((i + 1 : ℕ) : α))

/-- There is a literal matrix for `n` levels. -/
def HasLiteral (c : Covariance α) (n : ℕ) : Prop := ∃ m, c.matrix = some m ∧ m.shape = (n, n)

/-- There are no standard deviations, or one for each of `n` levels. -/
def DeviationsFit (s : Option (List α)) (n : ℕ) : Prop := ∀ xs, s = some xs → xs.length = n

/-- A structure has what a matrix of `n` levels at the given points takes. -/
def Fits (c : Covariance α) (n : ℕ) (points : Option (List α)) : Prop :=
  match c.kind with
  | .covariance => c.HasLiteral n
  | .correlation => c.HasLiteral n ∧ DeviationsFit c.deviations n
  | .decaying => c.base ≠ .null ∧ c.decay ≠ .null ∧ (levelPoints points n).length = n ∧
      DeviationsFit c.deviations n

/-- The standard deviation of a level, one when none is declared. -/
def deviationAt (s : Option (List α)) (i : ℕ) : α :=
  match s with
  | none => 1
  | some xs => xs[i]?.getD 0

/-- `B` holds the correlations `C` of `n` levels, scaled by standard deviations. -/
structure IsScaled (C : Mat α) (s : Option (List α)) (n : ℕ) (B : Mat α) : Prop where
  /-- There are a row and a column for each level. -/
  shape : B.shape = (n, n)
  /-- An entry is the correlation of two levels times their deviations. -/
  entry : ∀ i < n, ∀ j < n, B.get i j = C.get i j * (deviationAt s i * deviationAt s j)

/-- `B` is what a structure declares for `n` levels at the given points. -/
inductive Declares (c : Covariance α) (n : ℕ) (points : Option (List α)) (B : Mat α) : Prop
  /-- The literal matrix itself. -/
  | literal (hkind : c.kind = .covariance) (hmatrix : c.matrix = some B)
  /-- The literal correlations, scaled. -/
  | correlation (C : Mat α) (hkind : c.kind = .correlation) (hmatrix : c.matrix = some C)
    (hscaled : IsScaled C c.deviations n B)
  /-- Correlations that decay with the distance of the points, scaled. -/
  | decaying (C : Mat α) (hkind : c.kind = .decaying)
    (hC : decaying c.base c.decay (levelPoints points n) = .ok C)
    (hscaled : IsScaled C c.deviations n B)

/-! ### Scaled correlations -/

theorem hasSize_int_iff {m : Mat α} {n : ℕ} : hasSize m (.int n) = true ↔ m.shape = (n, n) := by
  unfold hasSize
  rw [Bool.and_eq_true, Mat.shape, Prod.mk.injEq]
  change (((n : ℤ) == (m.rows : ℤ)) = true ∧ ((n : ℤ) == (m.cols : ℤ)) = true) ↔ _
  rw [beq_iff_eq, beq_iff_eq]
  omega

variable {C B : Mat α} {s : Option (List α)} {n : ℕ}

theorem isSome_withDeviations_iff (hC : C.shape = (n, n)) :
    (withDeviations C s).isSome ↔ DeviationsFit s n := by
  obtain ⟨hrows, -⟩ := Prod.mk.inj hC
  unfold withDeviations DeviationsFit
  cases s with
  | none => simp
  | some xs => simp [hrows]

theorem isScaled_of_withDeviations [Scalar.Symmetric α] (hC : C.shape = (n, n))
    (h : withDeviations C s = some B) : IsScaled C s n B := by
  obtain ⟨hrows, hcols⟩ := Prod.mk.inj hC
  unfold withDeviations at h
  cases s with
  | none =>
    obtain rfl := Option.some.inj h
    refine ⟨hC, fun i _ j _ => ?_⟩
    unfold deviationAt
    rw [Scalar.Symmetric.one_mul, Scalar.Symmetric.mul_comm, Scalar.Symmetric.one_mul]
  | some xs =>
    dsimp only at h
    split at h
    · obtain rfl := Option.some.inj h
      refine ⟨hC, fun i hi j hj => ?_⟩
      rw [get_ofFn _ (hrows ▸ hi) (hcols ▸ hj), List.getElem?_toArray, List.getElem?_toArray]
      rfl
    · cases h

/-- What was scaled has the size of the correlations. -/
theorem filter_withDeviations [Scalar.Symmetric α] (hC : C.shape = (n, n)) :
    (withDeviations C s).filter (hasSize · (.int n)) = withDeviations C s := by
  cases hB : withDeviations C s with
  | none => rfl
  | some B =>
    exact Option.filter_some_pos (hasSize_int_iff.mpr (isScaled_of_withDeviations hC hB).shape)

namespace IsScaled

variable [Scalar.Symmetric α]

/-- Scaled correlations are symmetric when the correlations are. -/
theorem transpose (h : IsScaled C s n B) (hC : C.transpose = C) : B.transpose = B := by
  obtain ⟨hrows, hcols⟩ := Prod.mk.inj h.shape
  refine ext_get (hcols.trans hrows.symm) (hrows.trans hcols.symm) fun i j hi hj => ?_
  have hi' : i < n := hcols ▸ hi
  have hj' : j < n := hrows ▸ hj
  rw [get_transpose, h.entry j hj' i hi', h.entry i hi' j hj', ← get_transpose, hC,
    Scalar.Symmetric.mul_comm (deviationAt s j)]

/-- They have variances on the diagonal when the correlations have ones there. -/
theorem diagonal (h : IsScaled C s n B) (hC : ∀ i < n, C.get i i = 1) :
    ∀ i < n, B.get i i = deviationAt s i * deviationAt s i := by
  intro i hi
  rw [h.entry i hi i hi, hC i hi, Scalar.Symmetric.one_mul]

end IsScaled

/-! ### Declared structures -/

section Structure

variable {c : Covariance α} {points : Option (List α)}

/-- A matrix is what a structure declares, and symmetric with variances on its diagonal as far as
the structure is. -/
structure Realizes (c : Covariance α) (n : ℕ) (points : Option (List α)) (B : Mat α) : Prop where
  /-- There are a row and a column for each level. -/
  shape : B.shape = (n, n)
  /-- The entries are those declared. -/
  declares : c.Declares n points B
  /-- The matrix is symmetric when the literal one is, and always when it decays. -/
  symmetric : (c.kind ≠ .decaying → ∀ m, c.matrix = some m → m.transpose = m) → B.transpose = B
  /-- The variances are on the diagonal when literal correlations have ones there, and always when
  they decay. -/
  diagonal : c.kind ≠ .covariance →
    (c.kind = .correlation → ∀ m, c.matrix = some m → ∀ i < n, m.get i i = 1) →
    ∀ i < n, B.get i i = deviationAt c.deviations i * deviationAt c.deviations i

/-- The literal matrix, when it has the size. -/
theorem isSome_literal_iff : (c.matrix.filter (hasSize · (.int n))).isSome ↔ c.HasLiteral n := by
  simp only [Option.isSome_iff_exists, Option.filter_eq_some_iff, hasSize_int_iff, HasLiteral]

theorem realizes_of_covariance (hkind : c.kind = .covariance)
    (h : c.matrix.filter (hasSize · (.int n)) = some B) : c.Realizes n points B := by
  obtain ⟨hmatrix, hsize⟩ := Option.filter_eq_some_iff.mp h
  exact {
    shape := hasSize_int_iff.mp hsize
    declares := .literal hkind hmatrix
    symmetric := fun hsymmetric => hsymmetric (by rw [hkind]; exact nofun) B hmatrix
    diagonal := fun hne => absurd hkind hne }

/-- Correlations are put together when there are as many points as levels. -/
theorem outcome_decayingMat_ofList (c : Covariance α) (n : ℕ) (xs : List α) :
    (c.decayingMat (.int n) (.ofList xs)).outcome =
      if xs.length = n then (decaying c.base c.decay xs).map fun C =>
        (withDeviations C c.deviations).filter (hasSize · (.int n))
      else .ok none := by
  have hcount : (Datum.int n : Datum α).equals xs.length = true ↔ xs.length = n := by
    change ((n : ℤ) == (xs.length : ℤ)) = true ↔ _
    rw [beq_iff_eq, Nat.cast_inj, eq_comm]
  unfold decayingMat
  change Journal.outcome (if (Datum.int n : Datum α).equals xs.length then _ else _) = _
  by_cases h : xs.length = n
  · rw [if_pos (hcount.mpr h), if_pos h, Journal.outcome_bind]
    change decaying c.base c.decay xs >>= _ = _
    simp only [outcome_ofSize]
    rfl
  · rw [if_neg (hcount.not.mpr h), if_neg h]
    rfl

theorem outcome_toMat_of_decaying (hkind : c.kind = .decaying) (hbase : c.base ≠ .null)
    (hdecay : c.decay ≠ .null) (n : ℕ) (points : Option (List α)) :
    (c.toMat (.int n) (points.map .ofList)).outcome =
      (c.decayingMat (.int n) (.ofList (levelPoints points n))).outcome := by
  rw [outcome_toMat_of_complete hkind hbase hdecay]
  cases points with
  | none => rfl
  | some xs => rfl

variable [Scalar.Symmetric α]

theorem realizes_of_correlation (hkind : c.kind = .correlation) (hmatrix : c.matrix = some C)
    (hC : C.shape = (n, n)) (h : withDeviations C c.deviations = some B) :
    c.Realizes n points B := by
  have hscaled := isScaled_of_withDeviations hC h
  exact {
    shape := hscaled.shape
    declares := .correlation C hkind hmatrix hscaled
    symmetric := fun hsymmetric =>
      hscaled.transpose (hsymmetric (by rw [hkind]; exact nofun) C hmatrix)
    diagonal := fun _ hunit => hscaled.diagonal (hunit hkind C hmatrix) }

theorem realizes_of_decaying (hkind : c.kind = .decaying)
    (hdecaying : decaying c.base c.decay (levelPoints points n) = .ok C) (hC : C.shape = (n, n))
    (hsymmetric : C.transpose = C) (hunit : ∀ i < n, C.get i i = 1)
    (h : withDeviations C c.deviations = some B) : c.Realizes n points B := by
  have hscaled := isScaled_of_withDeviations hC h
  exact {
    shape := hscaled.shape
    declares := .decaying C hkind hdecaying hscaled
    symmetric := fun _ => hscaled.transpose hsymmetric
    diagonal := fun _ _ => hscaled.diagonal hunit }

/-- **When a structure has a matrix, and which.**  With parameters that are numbers where they are
given, asking for the matrix of one level or more does not fail: there is one exactly when the
structure has what it takes, and it is the literal matrix or scaled correlations. -/
theorem toMat_structure (hbase : c.base.IsParameter) (hdecay : c.decay.IsParameter)
    (hn : 1 ≤ n) (points : Option (List α)) :
    ∃ result, (c.toMat (.int n) (points.map .ofList)).outcome = .ok result ∧
      (result.isSome ↔ c.Fits n points) ∧ ∀ B, result = some B → c.Realizes n points B := by
  cases hkind : c.kind with
  | covariance =>
    refine ⟨_, outcome_toMat_of_covariance hkind _ _, ?_, fun B => realizes_of_covariance hkind⟩
    rw [isSome_literal_iff, Fits, hkind]
  | correlation =>
    refine ⟨_, outcome_toMat_of_correlation hkind _ _, ?_⟩
    rw [Fits, hkind]
    dsimp only
    rw [← isSome_literal_iff]
    cases hliteral : c.matrix.filter (hasSize · (.int n)) with
    | none => simp
    | some C =>
      obtain ⟨hmatrix, hsize⟩ := Option.filter_eq_some_iff.mp hliteral
      have hC := hasSize_int_iff.mp hsize
      rw [Option.bind_some, filter_withDeviations hC, isSome_withDeviations_iff hC]
      exact ⟨by simp, fun B => realizes_of_correlation hkind hmatrix hC⟩
  | decaying =>
    rw [Fits, hkind]
    dsimp only
    by_cases hnull : c.base = .null ∨ c.decay = .null
    · refine ⟨none, outcome_toMat_of_incomplete hkind hnull _ _, ?_, nofun⟩
      simp only [Option.isSome_none, Bool.false_eq_true, false_iff]
      rintro ⟨hne, hne', -⟩
      exact hnull.elim hne hne'
    · obtain ⟨hne, hne'⟩ := not_or.mp hnull
      have hbase' := hbase.resolve_left hne
      have hdecay' := hdecay.resolve_left hne'
      rw [outcome_toMat_of_decaying hkind hne hne', outcome_decayingMat_ofList]
      by_cases hlength : (levelPoints points n).length = n
      · obtain ⟨C, hC, hshape, hsymmetric, hunit⟩ := exists_decaying_symmetric hbase' hdecay'
          (List.ne_nil_of_length_pos (hlength.symm ▸ hn))
        rw [hlength] at hshape hunit
        rw [if_pos hlength, hC]
        refine ⟨_, congrArg Except.ok (filter_withDeviations hshape), ?_,
          fun B => realizes_of_decaying hkind hC hshape hsymmetric hunit⟩
        rw [isSome_withDeviations_iff hshape]
        simp [hne, hne', hlength]
      · rw [if_neg hlength]
        exact ⟨none, rfl, by simp [hlength], nofun⟩

end Structure

/-- Doses on three days whose correlations decay, with a standard deviation for each day. -/
def doseDays : Covariance Float :=
  ⟨"dose", .decaying, .real 0.5, .real 0.3, some [1.5, 0.1, 2], none⟩

/-- On doubles the doses have a symmetric matrix with their variances on the diagonal, and none for
two days. -/
theorem toMat_structure_doseDays :
    (∃ B, (doseDays.toMat (.int 3) none).outcome = .ok (some B) ∧ B.shape = (3, 3) ∧
      B.transpose = B ∧ B.get 1 1 = 0.1 * 0.1) ∧
    (doseDays.toMat (.int 2) none).outcome = .ok none := by
  have hbase : doseDays.base.IsParameter := .inr rfl
  have hdecay : doseDays.decay.IsParameter := .inr rfl
  constructor
  · obtain ⟨result, hresult, hfits, hrealizes⟩ :=
      toMat_structure hbase hdecay (n := 3) (by decide) none
    have hfit : doseDays.Fits 3 none := ⟨nofun, nofun, rfl, by rintro _ ⟨⟩; rfl⟩
    obtain ⟨B, rfl⟩ := Option.isSome_iff_exists.mp (hfits.mpr hfit)
    have hB := hrealizes B rfl
    exact ⟨B, hresult, hB.shape, hB.symmetric fun hne => absurd rfl hne,
      hB.diagonal nofun nofun 1 (by decide)⟩
  · obtain ⟨result, hresult, hfits, -⟩ := toMat_structure hbase hdecay (n := 2) (by decide) none
    cases result with
    | none => exact hresult
    | some B =>
      obtain ⟨-, -, -, hdeviations⟩ := hfits.mp rfl
      cases hdeviations _ rfl

end Covariance

end StudyPower
