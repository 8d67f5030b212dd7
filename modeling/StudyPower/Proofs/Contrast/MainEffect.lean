import Mathlib
import StudyPower.Proofs.Bundle.Conformance
import StudyPower.Proofs.Contrast.Factorial

/-!
# Main effects

The main effect of a factor compares the average over the cells with its first level to the average
over the cells with each other level.  Blocks are found by the names of factors, cells are counted
by their positions, and nothing keeps two factors from having one name: then both contribute the
comparisons of the first, and the contrast is the interaction of the two.

## Main definitions

* `IsMainEffect C sides p` — the rows of `C` compare averages over levels of factor `p`.

## Main statements

* `betweenMainEffect_iff` — **the contrast for a name is the main effect of the factor that the
  name is looked up to exactly when no other factor has the name.**
* `StudyDesign.fixedContrast_isMainEffect_iff` — the same for an assembled bundle.
-/

namespace StudyPower

open Mat Finset Contrast

variable {α : Type} [ExactScalar α]

/-- Row `i` is the average over the cells with factor `p` at its first level, minus the average over
those with the factor at level `i + 1`. -/
structure IsMainEffect (C : Mat α) (sides : List ℕ) (p : ℕ) : Prop where
  /-- There is a row for each level but the first. -/
  rows : C.rows = sides.getD p 0 - 1
  /-- There is a column for each cell. -/
  cols : C.cols = sides.prod
  /-- Each row is a difference of averages. -/
  apply : ∀ v : ℕ → α, ∀ i < C.rows,
    C.apply v i = levelMean sides p 0 v - levelMean sides p (i + 1) v

/-! ### One factor with the name -/

/-- The comparisons of one factor between averages over the factors before and after it. -/
theorem isMainEffect_product (before after : List ℕ) (n : ℕ) :
    IsMainEffect
      ((averageRow before.prod : Mat α).kron ((firstAgainstRest n).kron (averageRow after.prod)))
      (before ++ n :: after) before.length where
  rows := by
    rw [rows_kron, rows_kron, rows_averageRow, rows_averageRow, rows_firstAgainstRest,
      Nat.one_mul, Nat.mul_one]
    simp
  cols := by
    rw [cols_kron, cols_kron, cols_averageRow, cols_averageRow, cols_firstAgainstRest,
      List.prod_append, List.prod_cons]
  apply := by
    intro v i hi
    rw [rows_kron, rows_kron, rows_averageRow, rows_averageRow, rows_firstAgainstRest, Nat.one_mul,
      Nat.mul_one] at hi
    -- the averages have one row, so the row of the product is the row of the block
    rw [levelMean_eq before after (show 0 < n by omega), levelMean_eq before after
      (show i + 1 < n by omega), apply_kron_kron, rows_averageRow, rows_firstAgainstRest,
      cols_averageRow, cols_averageRow, cols_firstAgainstRest, Nat.mul_one, Nat.div_eq_of_lt hi,
      Nat.mod_eq_of_lt hi, Nat.div_one, Nat.mod_one, ← sub_div, ← sum_sub_distrib, sum_div]
    refine sum_congr rfl fun a ha => ?_
    -- both averages come out of the sum over the levels of the factor
    have hlevel : ∀ j ∈ range n,
        ∑ l ∈ range after.prod, (averageRow before.prod).get 0 a *
            ((firstAgainstRest n).get i j * (averageRow after.prod).get 0 l) *
              v (joinCell n after.prod a j l) =
          (firstAgainstRest n).get i j *
            ((∑ l ∈ range after.prod, v (joinCell n after.prod a j l)) /
              ((before.prod : α) * (after.prod : α))) := by
      intro j _
      rw [sum_div, mul_sum]
      refine sum_congr rfl fun l hl => ?_
      rw [get_averageRow (mem_range.mp ha), get_averageRow (mem_range.mp hl)]
      ring
    rw [sum_congr rfl hlevel, sum_firstAgainstRest hi fun j =>
      (∑ l ∈ range after.prod, v (joinCell n after.prod a j l)) /
        ((before.prod : α) * (after.prod : α)), ← sub_div]

/-- The factors with the name contribute the block, and the others averages. -/
theorem testedBlock_singleton (name : String) (b : Mat α) (factor : String × ℕ) :
    testedBlock [(name, b)] factor = if factor.1 = name then b else averageRow factor.2 := by
  rw [testedBlock, List.lookup_cons, List.lookup_nil]
  by_cases h : factor.1 = name
  · rw [if_pos h, beq_iff_eq.mpr h]
    rfl
  · rw [if_neg h, beq_false_of_ne h]
    rfl

/-- Factors without the name contribute the average over all their cells. -/
theorem factorial_of_ne {name : String} (b : Mat α) {factors : List Factor}
    (h : ∀ f ∈ factors, f.name ≠ name) :
    factorial [(name, b)] (factorSides factors) = averageRow (factors.map (·.levels)).prod := by
  have hblocks : (factorSides factors).map (testedBlock [(name, b)]) =
      (factors.map (·.levels)).map averageRow := by
    rw [factorSides, List.map_map, List.map_map]
    refine List.map_congr_left fun f hf => ?_
    rw [Function.comp_apply, testedBlock_singleton, if_neg (h f hf), Function.comp_apply]
  rw [factorial, hblocks, kronAll_averageRow]

/-- Averages surround the block of a factor whose name no other factor has. -/
theorem factorial_eq_product {before after : List Factor} {f : Factor} (b : Mat α)
    (hbefore : ∀ g ∈ before, g.name ≠ f.name) (hafter : ∀ g ∈ after, g.name ≠ f.name) :
    factorial [(f.name, b)] (factorSides (before ++ f :: after)) =
      (averageRow (before.map (·.levels)).prod).kron
        (b.kron (averageRow (after.map (·.levels)).prod)) := by
  have hsplit : factorSides (before ++ f :: after) =
      factorSides before ++ (f.name, f.levels) :: factorSides after := by
    rw [factorSides, List.map_append, List.map_cons]
    rfl
  rw [hsplit, factorial_append, factorial_cons, factorial_of_ne b hbefore,
    factorial_of_ne b hafter, testedBlock_singleton, if_pos rfl]

/-! ### Several factors with the name -/

/-- The first entry of a block times the number of its columns tells the factors with the name from
the others. -/
theorem corner_testedBlock {name : String} {n : ℕ} (hn : 2 ≤ n) {factor : String × ℕ}
    (hlevel : 1 ≤ factor.2) :
    (testedBlock [(name, (firstAgainstRest n : Mat α))] factor).get 0 0 *
        ((testedBlock [(name, (firstAgainstRest n : Mat α))] factor).cols : α) =
      if factor.1 = name then (n : α) else 1 := by
  rw [testedBlock_singleton]
  by_cases h : factor.1 = name
  · rw [if_pos h, if_pos h, get_firstAgainstRest (by omega) (by omega), if_pos rfl, one_mul,
      cols_firstAgainstRest]
  · rw [if_neg h, if_neg h, get_averageRow hlevel, cols_averageRow,
      one_div_mul_cancel (Nat.cast_ne_zero.mpr (by omega))]

/-- The first entry of a contrast times the number of its columns counts the factors with the
name: each of them contributes `n`, and the others one. -/
theorem corner_factorial {name : String} {n : ℕ} (hn : 2 ≤ n) {factors : List Factor}
    (hlevels : ∀ f ∈ factors, 1 ≤ f.levels) :
    (factorial [(name, (firstAgainstRest n : Mat α))] (factorSides factors)).get 0 0 *
        ((factorial [(name, (firstAgainstRest n : Mat α))] (factorSides factors)).cols : α) =
      (n : α) ^ factors.countP (·.name == name) := by
  unfold factorSides
  induction factors with
  | nil =>
    rw [List.map_nil, factorial_nil, cols_filled, get_filled _ Nat.one_pos Nat.one_pos,
      List.countP_nil, pow_zero, Nat.cast_one, one_mul]
  | cons f factors ih =>
    obtain ⟨hlevel, hlevels⟩ := List.forall_mem_cons.mp hlevels
    rw [List.map_cons, factorial_cons, get_kron, cols_kron, Nat.zero_div, Nat.zero_div,
      Nat.zero_mod, Nat.zero_mod, Nat.cast_mul, mul_mul_mul_comm, corner_testedBlock hn hlevel,
      ih hlevels, List.countP_cons, pow_add, mul_comm]
    congr 1
    by_cases h : f.name = name
    · rw [if_pos h, beq_iff_eq.mpr h, if_pos rfl, pow_one]
    · rw [if_neg h, beq_false_of_ne h, if_neg Bool.false_ne_true, pow_zero]

/-- A main effect weighs the first cell by the number of levels of its factor. -/
theorem IsMainEffect.corner {C : Mat α} {before after : List ℕ} {n : ℕ} (hn : 2 ≤ n)
    (hpos : 0 < (before ++ n :: after).prod)
    (h : IsMainEffect C (before ++ n :: after) before.length) : C.get 0 0 * (C.cols : α) = n := by
  have hrows : 0 < C.rows := by
    rw [h.rows, List.getD_eq_getElem?_getD, List.getElem?_append_right (Nat.le_refl _),
      Nat.sub_self, List.getElem?_cons_zero, Option.getD_some]
    omega
  -- the first row, applied to the vector that marks the first cell
  have hrow := h.apply (fun c => if c = 0 then 1 else 0) 0 hrows
  simp only [Mat.apply, levelMean, mul_ite, mul_one, mul_zero, sum_ite_eq', mem_range,
    zero_mem_cellsAt_iff hpos, if_true, Nat.zero_add, one_ne_zero, if_false, zero_div, sub_zero,
    h.cols, if_pos hpos, card_cellsAt before after (show 0 < n by omega)] at hrow
  rw [List.prod_append, List.prod_cons] at hpos
  have hcells : ((before.prod * after.prod : ℕ) : α) ≠ 0 := by
    rw [Nat.mul_left_comm] at hpos
    exact Nat.cast_ne_zero.mpr (Nat.pos_of_mul_pos_left hpos).ne'
  rw [hrow, h.cols, List.prod_append, List.prod_cons, Nat.mul_left_comm, Nat.cast_mul n,
    mul_left_comm, one_div_mul_cancel hcells, mul_one]

/-! ### The contrast for a name -/

/-- The contrast is the product with the block of the factor that the name is looked up to. -/
theorem betweenMainEffect_of_ok {name : String} {factors : List Factor} {C : Mat α}
    (h : betweenMainEffect name factors = .ok C) :
    ∃ f, findFactor name factors = (.ok f : Except (Fault α) Factor) ∧ 2 ≤ f.levels ∧
      (∀ g ∈ factors, 1 ≤ g.levels) ∧
      C = factorial [(name, firstAgainstRest f.levels)] (factorSides factors) := by
  unfold betweenMainEffect at h
  simp only [Except.bind_eq_ok_iff] at h
  obtain ⟨f, hf, b, hb, hC⟩ := h
  obtain ⟨n, hn, htwo, rfl⟩ := mainEffect_of_ok hb
  obtain rfl : f.levels = n := by simpa using hn
  obtain ⟨hlevels, rfl⟩ := between_of_ok hC
  exact ⟨f, hf, htwo, hlevels, rfl⟩

omit [ExactScalar α] in
/-- A name is looked up to the first factor that has it. -/
theorem split_of_findFactor {name : String} {factors : List Factor} {f : Factor}
    (h : findFactor name factors = (.ok f : Except (Fault α) Factor)) :
    f.name = name ∧ ∃ before after, factors = before ++ f :: after ∧
      (∀ g ∈ before, g.name ≠ name) ∧ factors.findIdx (·.name == name) = before.length := by
  unfold findFactor at h
  split at h
  · next g hg =>
    rw [Except.ok.injEq] at h
    subst h
    obtain ⟨hname, before, after, rfl, hbefore⟩ := List.find?_eq_some_iff_append.mp hg
    have hne : ∀ x ∈ before, x.name ≠ name := fun x hx => by simpa using hbefore x hx
    refine ⟨beq_iff_eq.mp hname, before, after, rfl, hne, ?_⟩
    have hnone : before.findIdx (·.name == name) = before.length :=
      List.findIdx_eq_length.mpr fun x hx => beq_false_of_ne (hne x hx)
    rw [List.findIdx_append, if_neg (by omega), List.findIdx_cons, hname, cond_true, Nat.zero_add]
  · cases h

/-- **The contrast for a name is the main effect of the factor that the name is looked up to exactly
when no other factor has the name.** -/
theorem betweenMainEffect_iff {name : String} {factors : List Factor} {C : Mat α}
    (h : betweenMainEffect name factors = .ok C) :
    IsMainEffect C (factors.map (·.levels)) (factors.findIdx (·.name == name)) ↔
      factors.countP (·.name == name) = 1 := by
  obtain ⟨f, hf, htwo, hlevels, rfl⟩ := betweenMainEffect_of_ok h
  obtain ⟨rfl, before, after, rfl, hbefore, hindex⟩ := split_of_findFactor hf
  have hsides : (before ++ f :: after).map (·.levels) =
      before.map (·.levels) ++ f.levels :: after.map (·.levels) := by
    rw [List.map_append, List.map_cons]
  rw [hsides, hindex, ← List.length_map (·.levels)]
  constructor
  · -- the first entry of the contrast gives away how many factors have the name
    intro hmain
    have hpos : 0 < ((before ++ f :: after).map (·.levels)).prod := by
      refine List.prod_pos fun n hn => ?_
      obtain ⟨g, hg, rfl⟩ := List.mem_map.mp hn
      exact hlevels g hg
    rw [hsides] at hpos
    have hcorner := hmain.corner htwo hpos
    rw [corner_factorial htwo hlevels] at hcorner
    have hpow : f.levels ^ (before ++ f :: after).countP (·.name == f.name) = f.levels ^ 1 := by
      rw [pow_one]
      exact_mod_cast hcorner
    exact Nat.pow_right_injective htwo hpow
  · -- the lookup finds the first factor with the name, so no other stands behind it
    intro hcount
    have hafter : ∀ g ∈ after, g.name ≠ f.name := by
      rw [List.countP_append, List.countP_cons, beq_self_eq_true, if_pos rfl] at hcount
      intro g hg hname
      have hone : 0 < after.countP (·.name == f.name) :=
        List.countP_pos_iff.mpr ⟨g, hg, beq_iff_eq.mpr hname⟩
      omega
    rw [factorial_eq_product _ hbefore hafter]
    exact isMainEffect_product _ _ _

/-! ### Assembled bundles -/

namespace StudyDesign

variable {d : StudyDesign α} {limits : Limits} {b : Bundle α} {g : Hypothesis α}
  {m : EffectMapping α} {rest : List (EffectMapping α)}

/-- The contrast of an assembled bundle is the one that the main effect of the first mapped factor
asks for. -/
theorem fixedContrast_of_mainEffect (h : (d.assemble limits).outcome = .ok b)
    (hguided : d.isMatrixMode = false) (hprimary : d.primaryHypothesis = some g)
    (hkind : g.kind = .mainEffect) (hmapped : g.between = m :: rest) :
    ∃ C, b.fixedContrast = some C ∧ betweenMainEffect m.target d.factors = .ok C := by
  have hbetween := (assembled_of_ok h).between
  unfold betweenContrast at hbetween
  rw [hguided, if_neg Bool.false_ne_true, hprimary] at hbetween
  simp only [guidedBetween, hmapped, hkind, Except.bind_eq_ok_iff,
    Except.pure_eq_ok_iff] at hbetween
  obtain ⟨C, hC, hb⟩ := hbetween
  refine ⟨C, ?_, hC⟩
  rw [Bundle.fixedContrast, ← hb, Option.bind_some]

/-- The contrast of an assembled bundle for a main effect is the main effect of the mapped factor
exactly when no other factor has its name. -/
theorem fixedContrast_isMainEffect_iff (h : (d.assemble limits).outcome = .ok b)
    (hguided : d.isMatrixMode = false) (hprimary : d.primaryHypothesis = some g)
    (hkind : g.kind = .mainEffect) (hmapped : g.between = m :: rest) :
    ∃ C f, b.fixedContrast = some C ∧
      findFactor m.target d.factors = (.ok f : Except (Fault α) Factor) ∧
      d.factors[d.factors.findIdx (·.name == m.target)]? = some f ∧
      (IsMainEffect C (d.factors.map (·.levels)) (d.factors.findIdx (·.name == m.target)) ↔
        d.factors.countP (·.name == m.target) = 1) := by
  obtain ⟨C, hC, hmain⟩ := fixedContrast_of_mainEffect h hguided hprimary hkind hmapped
  obtain ⟨f, hf, -⟩ := betweenMainEffect_of_ok hmain
  refine ⟨C, f, hC, hf, ?_, betweenMainEffect_iff hmain⟩
  obtain ⟨-, before, after, hsplit, -, hindex⟩ := split_of_findFactor hf
  rw [hindex, hsplit, List.getElem?_append_right (Nat.le_refl _), Nat.sub_self,
    List.getElem?_cons_zero]

/-- In the trial in schools, the row for the doses compares the averages over both sexes. -/
theorem fixedContrast_isMainEffect_iff_schoolTrial :
    ∃ b C, (schoolTrial.assemble {}).outcome = .ok b ∧ b.fixedContrast = some C ∧
      IsMainEffect C [2, 2] 0 := by
  have hsome : (schoolTrial.assemble {}).outcome.toOption.isSome := by decide +kernel
  obtain ⟨b, hb⟩ := Option.isSome_iff_exists.mp hsome
  have h := Except.eq_ok_of_toOption hb
  obtain ⟨C, f, hC, -, -, hmain⟩ := fixedContrast_isMainEffect_iff h rfl rfl rfl rfl
  exact ⟨b, C, h, hC, hmain.mpr rfl⟩

/-- A trial of two factors of one name, with one outcome. -/
def twinTrial : StudyDesign ℚ := { schoolTrial with
  covariateFlag := .bool false
  factors := [⟨"dose", 2⟩, ⟨"dose", 2⟩]
  measures := []
  clusters := []
  responses := ["y"]
  covariances := [
    ⟨responseCovarianceName, .covariance, .null, .null, none, some (.ofArray 1 1 #[1])⟩]
  groupSizes := none
  hypotheses := [⟨.mainEffect, [⟨"dose", .known .none⟩], []⟩]
  matrices := [("beta", .ofArray 4 1 #[1, 2, 3, 4])] }

/-- The trial is accepted, and its contrast is no main effect: it is the interaction of the two
factors. -/
theorem not_isMainEffect_twinTrial :
    ∃ b C, (twinTrial.assemble {}).outcome = .ok b ∧ b.fixedContrast = some C ∧
      C = .ofArray 1 4 #[1, -1, -1, 1] ∧ ¬ IsMainEffect C [2, 2] 0 := by
  have hsome : (twinTrial.assemble {}).outcome.toOption.isSome := by decide +kernel
  obtain ⟨b, hb⟩ := Option.isSome_iff_exists.mp hsome
  have h := Except.eq_ok_of_toOption hb
  obtain ⟨C, hC, hmain⟩ := fixedContrast_of_mainEffect h rfl rfl rfl rfl
  have hvalue : betweenMainEffect "dose" twinTrial.factors =
      .ok (.ofArray 1 4 #[1, -1, -1, 1] : Mat ℚ) :=
    Except.eq_ok_of_toOption (by decide +kernel)
  refine ⟨b, C, h, hC, Except.ok.inj (hmain.symm.trans hvalue), fun hmainEffect => ?_⟩
  have hcount := (betweenMainEffect_iff hmain).mp hmainEffect
  exact absurd hcount (by decide)

end StudyDesign

end StudyPower
