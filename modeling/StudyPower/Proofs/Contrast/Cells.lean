import StudyPower.Proofs.Mat.Kronecker
import Mathlib.Algebra.BigOperators.Field
import Mathlib.Algebra.BigOperators.Ring.Finset

/-!
# Cells

The cells of a factorial design are numbered with the last factor varying fastest, so the levels of
the factors in a cell are the digits of its number.  A number splits at any factor into the digits
before it, its own digit and the digits after it, and the entries of a Kronecker product split in
the same places.

## Main definitions

* `cellLevels sides c` — the levels in cell `c` of factors with these numbers of levels.
* `cellsAt sides p i`, `levelMean sides p i` — the cells with factor `p` at level `i`, and the
  average over them.
* `IgnoresLevel sides p v` — the vector `v` does not depend on the level of factor `p`.

## Main statements

* `cellLevels_inj` — different cells differ in some level.
* `cellLevels_joinCell` — the levels in a cell that was put together from three parts.
* `get_kronAll` — an entry of a Kronecker product by the digits of its row and its column.
* `levelMean_eq`, `IgnoresLevel.eq_of_joinCell`, `apply_kron_kron` — averages, vectors and products
  in these terms.
* `apply_kron_kron_eq_zero` — comparisons annihilate what does not depend on their factor.
-/

namespace StudyPower

open Mat Finset

/-! ### Levels -/

/-- The levels in cell `c`, the last factor varying fastest. -/
def cellLevels : List ℕ → ℕ → List ℕ
  | [], _ => []
  | n :: sides, c => c / sides.prod % n :: cellLevels sides c

@[simp] theorem length_cellLevels (sides : List ℕ) (c : ℕ) :
    (cellLevels sides c).length = sides.length := by
  induction sides with
  | nil => rfl
  | cons n sides ih => rw [cellLevels, List.length_cons, List.length_cons, ih]

theorem cellLevels_append (before after : List ℕ) (c : ℕ) :
    cellLevels (before ++ after) c = cellLevels before (c / after.prod) ++ cellLevels after c := by
  induction before with
  | nil => rfl
  | cons n before ih =>
    rw [List.cons_append, cellLevels, cellLevels, ih, List.prod_append, List.cons_append,
      Nat.div_div_eq_div_mul, Nat.mul_comm after.prod]

/-- Only the remainder by the number of cells counts. -/
theorem cellLevels_add_mul (sides : List ℕ) (a c : ℕ) :
    cellLevels sides (a * sides.prod + c) = cellLevels sides c := by
  induction sides generalizing a with
  | nil => rfl
  | cons n sides ih =>
    rw [cellLevels, cellLevels, List.prod_cons, ← Nat.mul_assoc, ih]
    congr 1
    rcases Nat.eq_zero_or_pos sides.prod with h | h
    · rw [h, Nat.mul_zero, Nat.zero_add]
    · rw [Nat.add_comm, Nat.add_mul_div_right _ _ h, Nat.add_mul_mod_self_right]

theorem cellLevels_mod (sides : List ℕ) (c : ℕ) :
    cellLevels sides (c % sides.prod) = cellLevels sides c := by
  have hc : c / sides.prod * sides.prod + c % sides.prod = c := Nat.div_add_mod' c sides.prod
  rw [← cellLevels_add_mul sides (c / sides.prod), hc]

/-- Different cells differ in some level. -/
theorem cellLevels_inj {sides : List ℕ} {c c' : ℕ} (hc : c < sides.prod) (hc' : c' < sides.prod)
    (h : cellLevels sides c = cellLevels sides c') : c = c' := by
  induction sides generalizing c c' with
  | nil =>
    obtain rfl : c = 0 := Nat.lt_one_iff.mp hc
    exact (Nat.lt_one_iff.mp hc').symm
  | cons n sides ih =>
    rw [List.prod_cons, Nat.mul_comm] at hc hc'
    have hpos : 0 < sides.prod := Nat.pos_of_mul_pos_right (Nat.lt_of_le_of_lt c.zero_le hc)
    rw [cellLevels, cellLevels, List.cons.injEq, Nat.mod_eq_of_lt (Nat.div_lt_of_lt_mul hc),
      Nat.mod_eq_of_lt (Nat.div_lt_of_lt_mul hc')] at h
    obtain ⟨hfirst, hrest⟩ := h
    have hmod : c % sides.prod = c' % sides.prod := by
      refine ih (Nat.mod_lt c hpos) (Nat.mod_lt c' hpos) ?_
      rw [cellLevels_mod, cellLevels_mod, hrest]
    rw [← Nat.div_add_mod c sides.prod, ← Nat.div_add_mod c' sides.prod, hfirst, hmod]

/-- The last cell has every factor at its last level. -/
theorem cellLevels_last {sides : List ℕ} (hpos : 0 < sides.prod) :
    (cellLevels sides (sides.prod - 1)).map (· + 1) = sides := by
  induction sides with
  | nil => rfl
  | cons n sides ih =>
    rw [List.prod_cons] at hpos
    have hprod : 0 < sides.prod := Nat.pos_of_mul_pos_left hpos
    have hn : 0 < n := Nat.pos_of_mul_pos_right hpos
    obtain ⟨k, rfl⟩ : ∃ k, n = k + 1 := ⟨n - 1, by omega⟩
    have hlast : (k + 1) * sides.prod - 1 = k * sides.prod + (sides.prod - 1) := by
      rw [Nat.succ_mul]
      omega
    have hlt : sides.prod - 1 < sides.prod := by omega
    rw [cellLevels, List.prod_cons, hlast, cellLevels_add_mul, List.map_cons, ih hprod,
      (digits_of_lt hlt).1, Nat.mod_eq_of_lt (Nat.lt_succ_self k)]

/-- Two designs number their cells alike only when they have the same numbers of levels. -/
theorem eq_of_cellLevels_eq {sides sides' : List ℕ} (hprod : sides.prod = sides'.prod)
    (hpos : 0 < sides.prod) (h : ∀ c < sides.prod, cellLevels sides c = cellLevels sides' c) :
    sides = sides' := by
  have hlast := h (sides.prod - 1) (by omega)
  rw [← cellLevels_last hpos, hlast, hprod, cellLevels_last (hprod ▸ hpos)]

/-- The cell with number `a` among the cells of the factors before a factor of `n` levels, its level
`i`, and number `l` among the `m` cells of the factors after it. -/
def joinCell (n m a i l : ℕ) : ℕ := a * (n * m) + (i * m + l)

theorem joinCell_lt {n m k a i l : ℕ} (ha : a < k) (hi : i < n) (hl : l < m) :
    joinCell n m a i l < k * (n * m) :=
  numeral_lt ha (numeral_lt hi hl)

/-- Cells are put together digit by digit. -/
theorem cellLevels_joinCell (before after : List ℕ) {n a i l : ℕ} (hi : i < n)
    (hl : l < after.prod) :
    cellLevels (before ++ n :: after) (joinCell n after.prod a i l) =
      cellLevels before a ++ i :: cellLevels after l := by
  rw [cellLevels_append, List.prod_cons, joinCell, (digits_of_lt (numeral_lt hi hl)).1]
  congr 1
  rw [← List.prod_cons, cellLevels_add_mul, cellLevels, cellLevels_add_mul, (digits_of_lt hl).1,
    Nat.mod_eq_of_lt hi]

/-- A sum over all cells, by the three parts of their numbers. -/
theorem sum_cells {M : Type*} [AddCommMonoid M] (k n m : ℕ) (f : ℕ → M) :
    ∑ c ∈ range (k * (n * m)), f c =
      ∑ a ∈ range k, ∑ i ∈ range n, ∑ l ∈ range m, f (joinCell n m a i l) := by
  rw [sum_range_mul]
  exact sum_congr rfl fun a _ => sum_range_mul n m fun c => f (a * (n * m) + c)

/-! ### Averages over the cells with one level -/

/-- The cells with factor `p` at level `i`. -/
def cellsAt (sides : List ℕ) (p i : ℕ) : Finset ℕ :=
  (range sides.prod).filter fun c => (cellLevels sides c)[p]? = some i

/-- The average of `v` over the cells with factor `p` at level `i`. -/
def levelMean {F : Type*} [Field F] (sides : List ℕ) (p i : ℕ) (v : ℕ → F) : F :=
  (∑ c ∈ cellsAt sides p i, v c) / ((cellsAt sides p i).card : F)

theorem sum_cellsAt {M : Type*} [AddCommMonoid M] (before after : List ℕ) {n i : ℕ} (hi : i < n)
    (f : ℕ → M) :
    ∑ c ∈ cellsAt (before ++ n :: after) before.length i, f c =
      ∑ a ∈ range before.prod, ∑ l ∈ range after.prod, f (joinCell n after.prod a i l) := by
  rw [cellsAt, sum_filter, List.prod_append, List.prod_cons, sum_cells]
  refine sum_congr rfl fun a _ => ?_
  calc ∑ j ∈ range n, ∑ l ∈ range after.prod,
        (if (cellLevels (before ++ n :: after) (joinCell n after.prod a j l))[before.length]? =
          some i then f (joinCell n after.prod a j l) else 0)
      = ∑ j ∈ range n, if j = i then ∑ l ∈ range after.prod, f (joinCell n after.prod a j l)
          else 0 := by
        refine sum_congr rfl fun j hj => ?_
        -- whether a cell counts depends on the middle part of its number only
        have hlevel : ∀ l ∈ range after.prod,
            (cellLevels (before ++ n :: after) (joinCell n after.prod a j l))[before.length]? =
              some j := by
          intro l hl
          rw [cellLevels_joinCell before after (mem_range.mp hj) (mem_range.mp hl),
            List.getElem?_append_right (by rw [length_cellLevels]), length_cellLevels,
            Nat.sub_self, List.getElem?_cons_zero]
        by_cases h : j = i
        · rw [if_pos h]
          exact sum_congr rfl fun l hl => by rw [hlevel l hl, if_pos (congrArg some h)]
        · rw [if_neg h]
          refine sum_eq_zero fun l hl => ?_
          rw [hlevel l hl, if_neg fun heq => h (Option.some.inj heq)]
    _ = ∑ l ∈ range after.prod, f (joinCell n after.prod a i l) := by
        rw [sum_ite_eq', if_pos (mem_range.mpr hi)]

theorem card_cellsAt (before after : List ℕ) {n i : ℕ} (hi : i < n) :
    (cellsAt (before ++ n :: after) before.length i).card = before.prod * after.prod := by
  rw [card_eq_sum_ones, sum_cellsAt before after hi]
  simp only [sum_const, card_range, nsmul_eq_mul, Nat.cast_id, mul_one]

theorem levelMean_eq {F : Type*} [Field F] (before after : List ℕ) {n i : ℕ} (hi : i < n)
    (v : ℕ → F) :
    levelMean (before ++ n :: after) before.length i v =
      (∑ a ∈ range before.prod, ∑ l ∈ range after.prod, v (joinCell n after.prod a i l)) /
        ((before.prod : F) * (after.prod : F)) := by
  rw [levelMean, sum_cellsAt before after hi, card_cellsAt before after hi, Nat.cast_mul]

/-- The first cell has every factor at its first level. -/
theorem zero_mem_cellsAt_iff {before after : List ℕ} {n : ℕ}
    (hpos : 0 < (before ++ n :: after).prod) (i : ℕ) :
    0 ∈ cellsAt (before ++ n :: after) before.length i ↔ i = 0 := by
  rw [List.prod_append, List.prod_cons] at hpos
  have hrest : 0 < n * after.prod := Nat.pos_of_mul_pos_left hpos
  have hfirst : cellLevels (before ++ n :: after) 0 =
      cellLevels before 0 ++ 0 :: cellLevels after 0 := by
    have h := cellLevels_joinCell before after (a := 0) (Nat.pos_of_mul_pos_right hrest)
      (Nat.pos_of_mul_pos_left hrest)
    rwa [joinCell, Nat.zero_mul, Nat.zero_mul] at h
  rw [cellsAt, mem_filter, mem_range, hfirst,
    List.getElem?_append_right (by rw [length_cellLevels]), length_cellLevels, Nat.sub_self,
    List.getElem?_cons_zero, Option.some.injEq, List.prod_append, List.prod_cons]
  exact ⟨fun h => h.2.symm, fun h => ⟨hpos, h.symm⟩⟩

/-! ### Vectors that ignore a factor -/

/-- The vector `v` has one value in cells that differ at most in the level of factor `p`. -/
def IgnoresLevel {R : Type*} (sides : List ℕ) (p : ℕ) (v : ℕ → R) : Prop :=
  ∀ c < sides.prod, ∀ c' < sides.prod,
    (∀ q, q ≠ p → (cellLevels sides c)[q]? = (cellLevels sides c')[q]?) → v c = v c'

theorem IgnoresLevel.eq_of_joinCell {R : Type*} {before after : List ℕ} {n : ℕ} {v : ℕ → R}
    (h : IgnoresLevel (before ++ n :: after) before.length v) {a i l : ℕ} (ha : a < before.prod)
    (hi : i < n) (hl : l < after.prod) :
    v (joinCell n after.prod a i l) = v (joinCell n after.prod a 0 l) := by
  have hn : 0 < n := Nat.lt_of_le_of_lt i.zero_le hi
  have hprod : (before ++ n :: after).prod = before.prod * (n * after.prod) := by
    rw [List.prod_append, List.prod_cons]
  refine h _ (hprod ▸ joinCell_lt ha hi hl) _ (hprod ▸ joinCell_lt ha hn hl) fun q hq => ?_
  rw [cellLevels_joinCell before after hi hl, cellLevels_joinCell before after hn hl]
  -- the two cells differ in the middle digit alone, and `q` is another place
  rcases Nat.lt_or_gt_of_ne hq with hlt | hgt
  · rw [List.getElem?_append_left (by rwa [length_cellLevels]),
      List.getElem?_append_left (by rwa [length_cellLevels])]
  · rw [List.getElem?_append_right (by rw [length_cellLevels]; omega),
      List.getElem?_append_right (by rw [length_cellLevels]; omega), length_cellLevels]
    obtain ⟨k, hk⟩ : ∃ k, q - before.length = k + 1 := ⟨q - before.length - 1, by omega⟩
    rw [hk, List.getElem?_cons_succ, List.getElem?_cons_succ]

/-! ### Kronecker products by cells -/

/-- An entry of a Kronecker product is the product of the entries of its factors at the digits of
the row and of the column. -/
theorem get_kronAll {R : Type*} [CommSemiring R] (ms : List (Mat R)) {i j : ℕ}
    (hi : i < (ms.map rows).prod) (hj : j < (ms.map cols).prod) :
    (kronAll ms).get i j =
      (List.zipWith3 Mat.get ms (cellLevels (ms.map rows) i)
        (cellLevels (ms.map cols) j)).prod := by
  induction ms generalizing i j with
  | nil =>
    obtain rfl : i = 0 := Nat.lt_one_iff.mp hi
    obtain rfl : j = 0 := Nat.lt_one_iff.mp hj
    rfl
  | cons m ms ih =>
    rw [List.map_cons, List.prod_cons] at hi hj
    have hrows : 0 < (ms.map rows).prod :=
      Nat.pos_of_mul_pos_left (Nat.lt_of_le_of_lt i.zero_le hi)
    have hcols : 0 < (ms.map cols).prod :=
      Nat.pos_of_mul_pos_left (Nat.lt_of_le_of_lt j.zero_le hj)
    have hfirst : i / (ms.map rows).prod % m.rows = i / (ms.map rows).prod :=
      Nat.mod_eq_of_lt (Nat.div_lt_of_lt_mul (Nat.mul_comm m.rows _ ▸ hi))
    have hsecond : j / (ms.map cols).prod % m.cols = j / (ms.map cols).prod :=
      Nat.mod_eq_of_lt (Nat.div_lt_of_lt_mul (Nat.mul_comm m.cols _ ▸ hj))
    rw [kronAll_cons, get_kron, rows_kronAll, cols_kronAll,
      ih (Nat.mod_lt _ hrows) (Nat.mod_lt _ hcols), cellLevels_mod, cellLevels_mod, List.map_cons,
      List.map_cons, cellLevels, cellLevels, hfirst, hsecond, List.zipWith3, List.prod_cons]

/-- A product of three factors applied to a vector, by the three parts of the column. -/
theorem apply_kron_kron {R : Type*} [CommSemiring R] (a b c : Mat R) (v : ℕ → R) (r : ℕ) :
    (a.kron (b.kron c)).apply v r =
      ∑ x ∈ range a.cols, ∑ y ∈ range b.cols, ∑ z ∈ range c.cols,
        a.get (r / (b.rows * c.rows)) x *
          (b.get (r % (b.rows * c.rows) / c.rows) y * c.get (r % (b.rows * c.rows) % c.rows) z) *
            v (joinCell b.cols c.cols x y z) := by
  rw [apply, cols_kron, cols_kron, sum_cells]
  refine sum_congr rfl fun x _ => sum_congr rfl fun y hy => sum_congr rfl fun z hz => ?_
  have hinner := numeral_lt (mem_range.mp hy) (mem_range.mp hz)
  rw [get_kron, get_kron, rows_kron, cols_kron, joinCell, (digits_of_lt hinner).1,
    (digits_of_lt hinner).2, (digits_of_lt (mem_range.mp hz)).1,
    (digits_of_lt (mem_range.mp hz)).2]

/-- When the rows of the middle factor add up to zero, the product annihilates what does not depend
on the middle part of the column. -/
theorem apply_kron_kron_eq_zero {R : Type*} [CommSemiring R] (a : Mat R) {b : Mat R} (c : Mat R)
    (hb : b.RowsSumToZero) {v : ℕ → R}
    (hv : ∀ x < a.cols, ∀ y < b.cols, ∀ z < c.cols,
      v (joinCell b.cols c.cols x y z) = v (joinCell b.cols c.cols x 0 z)) (r : ℕ) :
    (a.kron (b.kron c)).apply v r = 0 := by
  rw [apply_kron_kron]
  generalize r / (b.rows * c.rows) = r₁
  generalize r % (b.rows * c.rows) / c.rows = r₂
  generalize r % (b.rows * c.rows) % c.rows = r₃
  refine sum_eq_zero fun x hx => ?_
  -- the sum over the middle part of the column is left, and only the middle factor depends on it
  rw [sum_comm]
  refine sum_eq_zero fun z hz => ?_
  have hentry : ∀ y ∈ range b.cols,
      a.get r₁ x * (b.get r₂ y * c.get r₃ z) * v (joinCell b.cols c.cols x y z) =
        b.get r₂ y * (a.get r₁ x * c.get r₃ z * v (joinCell b.cols c.cols x 0 z)) := by
    intro y hy
    rw [hv x (mem_range.mp hx) y (mem_range.mp hy) z (mem_range.mp hz), mul_left_comm, mul_assoc]
  rw [sum_congr rfl hentry, ← sum_mul, hb, zero_mul]

end StudyPower
