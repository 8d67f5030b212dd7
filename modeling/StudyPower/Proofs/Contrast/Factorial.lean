import Mathlib
import StudyPower.Proofs.Contrast.Block
import StudyPower.Proofs.Contrast.Cells

/-!
# Contrasts of factorial designs

A contrast is a Kronecker product with one block for each factor: the block under its name when the
factor is under test, and the average of its levels otherwise.

## Main definitions

* `Contrast.factorial tested factors` — that product, for factors given by name and number of
  levels.

## Main statements

* `Contrast.between_of_ok`, `Contrast.within_of_ok` — both builders of contrasts return such a
  product; within participants it is transposed and repeated for each response.
-/

namespace StudyPower

open Mat Finset

variable {α : Type} [ExactScalar α]

namespace Contrast

/-- The block of a factor: the one under its name, or the average of its levels. -/
def testedBlock (tested : Blocks α) (factor : String × ℕ) : Mat α :=
  (tested.lookup factor.1).getD (averageRow factor.2)

/-- The product of the blocks of all factors. -/
def factorial (tested : Blocks α) (factors : List (String × ℕ)) : Mat α :=
  kronAll (factors.map (testedBlock tested))

@[simp] theorem factorial_nil (tested : Blocks α) : factorial tested [] = filled 1 1 1 := rfl

@[simp] theorem factorial_cons (tested : Blocks α) (factor : String × ℕ)
    (factors : List (String × ℕ)) :
    factorial tested (factor :: factors) =
      (testedBlock tested factor).kron (factorial tested factors) := by
  rw [factorial, List.map_cons, kronAll_cons, factorial]

theorem factorial_append (tested : Blocks α) (factors others : List (String × ℕ)) :
    factorial tested (factors ++ others) =
      (factorial tested factors).kron (factorial tested others) := by
  rw [factorial, List.map_append, kronAll_append, factorial, factorial]

/-- The name and the number of levels of each factor. -/
def factorSides (factors : List Factor) : List (String × ℕ) :=
  factors.map fun f => (f.name, f.levels)

theorem factorBlock_of_ok {tested : Blocks α} {f : Factor} {b : Mat α}
    (h : factorBlock tested f = .ok b) :
    1 ≤ f.levels ∧ b = testedBlock tested (f.name, f.levels) := by
  unfold factorBlock at h
  simp only [Except.bind_eq_ok_iff, Except.pure_eq_ok_iff] at h
  obtain ⟨mean, hmean, rfl⟩ := h
  obtain ⟨n, hn, hpos, rfl⟩ := average_of_ok hmean
  obtain rfl : f.levels = n := by simpa using hn
  exact ⟨hpos, rfl⟩

/-- A contrast between participants is the product of the blocks of all factors, each of which has a
level. -/
theorem between_of_ok {tested : Blocks α} {factors : List Factor} {c : Mat α}
    (h : between tested factors = .ok c) :
    (∀ f ∈ factors, 1 ≤ f.levels) ∧ c = factorial tested (factorSides factors) := by
  unfold between at h
  simp only [Except.bind_eq_ok_iff, Except.pure_eq_ok_iff, List.mapM_eq_ok_iff] at h
  obtain ⟨blocks, hblocks, rfl⟩ := h
  unfold factorSides
  induction hblocks with
  | nil => exact ⟨fun f hf => absurd hf List.not_mem_nil, rfl⟩
  | cons hblock _ ih =>
    obtain ⟨hpos, rfl⟩ := factorBlock_of_ok hblock
    obtain ⟨hall, ih⟩ := ih
    refine ⟨List.forall_mem_cons.mpr ⟨hpos, hall⟩, ?_⟩
    rw [kronAll_cons, ih, List.map_cons, factorial_cons]

/-- The declared number of measurements of the dimension is `n`, which is not zero. -/
def HasSide (m : RepeatedMeasure α) (n : ℕ) : Prop := m.count = .int n ∧ 1 ≤ n

theorem measureBlock_of_ok {tested : Blocks α} {m : RepeatedMeasure α} {b : Mat α}
    (h : measureBlock tested m = .ok b) :
    ∃ n, HasSide m n ∧ b = (testedBlock tested (m.dimension, n)).transpose := by
  unfold measureBlock at h
  simp only [Except.bind_eq_ok_iff, Except.pure_eq_ok_iff] at h
  obtain ⟨mean, hmean, rfl⟩ := h
  obtain ⟨n, hn, hpos, rfl⟩ := average_of_ok hmean
  exact ⟨n, ⟨hn, hpos⟩, rfl⟩

/-- A contrast within participants is such a product, transposed and repeated for each response. -/
theorem within_of_ok {tested : Blocks α} {measures : List (RepeatedMeasure α)}
    {responses : List String} {u : Mat α} (h : within tested measures responses = .ok u) :
    ∃ sides, List.Forall₂ HasSide measures sides ∧
      u = (factorial tested ((measures.map (·.dimension)).zip sides)).transpose.kron
        (identity (responseCount responses)) := by
  unfold within at h
  simp only [Except.bind_eq_ok_iff, Except.pure_eq_ok_iff, List.mapM_eq_ok_iff] at h
  obtain ⟨blocks, hblocks, rfl⟩ := h
  -- transposing the product transposes every block
  have hproduct : ∃ sides, List.Forall₂ HasSide measures sides ∧
      kronAll blocks =
        (factorial tested ((measures.map (·.dimension)).zip sides)).transpose := by
    induction hblocks with
    | nil =>
      refine ⟨[], .nil, ?_⟩
      rw [kronAll_nil, List.map_nil, List.zip_nil_left, factorial_nil, transpose_filled]
    | cons hblock _ ih =>
      obtain ⟨n, hside, rfl⟩ := measureBlock_of_ok hblock
      obtain ⟨sides, hsides, ih⟩ := ih
      refine ⟨n :: sides, .cons hside hsides, ?_⟩
      rw [kronAll_cons, ih, List.map_cons, List.zip_cons_cons, factorial_cons, transpose_kron]
  obtain ⟨sides, hsides, hproduct⟩ := hproduct
  refine ⟨sides, hsides, ?_⟩
  rw [kronAll_append, hproduct, kronAll_cons, kronAll_nil, kron_one]

end Contrast

end StudyPower
