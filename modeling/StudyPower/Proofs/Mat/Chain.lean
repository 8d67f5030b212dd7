import StudyPower.Proofs.Contrast.Cells
import Mathlib.Algebra.BigOperators.Fin

/-!
# Chains of Kronecker products

The Kronecker product of a list of matrices has an entry for each choice of an entry from every
matrix, and it is the product of the chosen entries.  The choices are numbered in a mixed radix, one
digit for each matrix, and the last digit varies fastest.

## Main definitions

* `Mat.IsKron c a b` — the matrix `c` has the sizes and the entries of the product of `a` and `b`.
* `IsNumeral radices digits c` — these are the digits of `c`.

## Main statements

* `Mat.IsKron.eq` — there is one operation with these entries.
* `IsNumeral.getElem?_cellLevels`, `isNumeral_cellLevels` — a number below the product of the
  radices has digits, and no others.
* `Mat.kronAll_mul_kronAll` — products of chains are taken block by block.
* `Mat.kronAll_by_digits` — **the sizes, the entries and the laws of a chain of products.**
-/

namespace StudyPower

open Finset

/-! ### The formula for two matrices -/

section Formula

variable {R : Type*} [CommSemiring R]

/-- The entries of `c` are the products of an entry of `a` and an entry of `b`: each entry of `a`
is spread over a block of the shape of `b`. -/
structure Mat.IsKron (c a b : Mat R) : Prop where
  /-- A row for each row of either matrix. -/
  rows : c.rows = a.rows * b.rows
  /-- A column for each column of either matrix. -/
  cols : c.cols = a.cols * b.cols
  /-- The entry at a position within a block. -/
  entry : ∀ i < a.rows, ∀ j < a.cols, ∀ k < b.rows, ∀ l < b.cols,
    c.get (i * b.rows + k) (j * b.cols + l) = a.get i j * b.get k l

theorem Mat.isKron_kron (a b : Mat R) : (a.kron b).IsKron a b where
  rows := rfl
  cols := rfl
  entry := by
    intro i _ j _ k hk l hl
    obtain ⟨hik, hki⟩ := digits_of_lt (i := i) hk
    obtain ⟨hjl, hlj⟩ := digits_of_lt (i := j) hl
    rw [get_kron, hik, hki, hjl, hlj]

/-- There is one operation with these entries. -/
theorem Mat.IsKron.eq {a b c : Mat R} (h : c.IsKron a b) : c = a.kron b := by
  apply ext_get h.rows h.cols
  intro i j hi hj
  rw [h.rows] at hi
  rw [h.cols] at hj
  have hrows : 0 < b.rows := Nat.pos_of_mul_pos_left (Nat.lt_of_le_of_lt i.zero_le hi)
  have hcols : 0 < b.cols := Nat.pos_of_mul_pos_left (Nat.lt_of_le_of_lt j.zero_le hj)
  have hentry := h.entry (i / b.rows) (Nat.div_lt_of_lt_mul (Nat.mul_comm a.rows _ ▸ hi))
    (j / b.cols) (Nat.div_lt_of_lt_mul (Nat.mul_comm a.cols _ ▸ hj)) (i % b.rows)
    (Nat.mod_lt i hrows) (j % b.cols) (Nat.mod_lt j hcols)
  rw [Nat.div_add_mod', Nat.div_add_mod'] at hentry
  rw [hentry, get_kron]

end Formula

/-! ### Digits -/

/-- The number `c` has these digits: each of them is below its radix and counts for the product of
the radices after it, so the last digit varies fastest. -/
structure IsNumeral (radices : List ℕ) (digits : ℕ → ℕ) (c : ℕ) : Prop where
  /-- Each digit is below its radix. -/
  below : ∀ m (hm : m < radices.length), digits m < radices[m]
  /-- The digits make up the number. -/
  value : ∑ m ∈ range radices.length, digits m * (radices.drop (m + 1)).prod = c

variable {radices : List ℕ} {digits : ℕ → ℕ} {c : ℕ}

/-- The first digit and the number that the digits after it make up. -/
theorem isNumeral_cons_iff {n : ℕ} :
    IsNumeral (n :: radices) digits c ↔ digits 0 < n ∧
      ∃ c', IsNumeral radices (fun m => digits (m + 1)) c' ∧
        digits 0 * radices.prod + c' = c := by
  have hsum : ∑ m ∈ range (n :: radices).length,
      digits m * ((n :: radices).drop (m + 1)).prod =
        digits 0 * radices.prod +
          ∑ m ∈ range radices.length, digits (m + 1) * (radices.drop (m + 1)).prod := by
    rw [List.length_cons, sum_range_succ', Nat.add_comm]
    rfl
  constructor
  · intro h
    refine ⟨h.below 0 (Nat.succ_pos _), _, ⟨fun m hm => ?_, rfl⟩, ?_⟩
    · exact h.below (m + 1) (Nat.succ_lt_succ hm)
    · rw [← h.value, hsum]
  · rintro ⟨hfirst, c', hrest, rfl⟩
    refine ⟨fun m hm => ?_, ?_⟩
    · cases m with
      | zero => exact hfirst
      | succ m => exact hrest.below m (Nat.lt_of_succ_lt_succ hm)
    · rw [hsum, hrest.value]

theorem IsNumeral.lt (h : IsNumeral radices digits c) : c < radices.prod := by
  induction radices generalizing digits c with
  | nil =>
    rw [← h.value]
    exact Nat.one_pos
  | cons n radices ih =>
    obtain ⟨hfirst, c', hrest, rfl⟩ := isNumeral_cons_iff.mp h
    rw [List.prod_cons]
    exact numeral_lt hfirst (ih hrest)

/-- The digits of a number are its quotients and remainders. -/
theorem IsNumeral.getElem?_cellLevels (h : IsNumeral radices digits c) {m : ℕ}
    (hm : m < radices.length) : (cellLevels radices c)[m]? = some (digits m) := by
  induction radices generalizing digits c m with
  | nil => exact absurd hm (Nat.not_lt_zero m)
  | cons n radices ih =>
    obtain ⟨hfirst, c', hrest, rfl⟩ := isNumeral_cons_iff.mp h
    rw [cellLevels, cellLevels_add_mul, (digits_of_lt hrest.lt).1, Nat.mod_eq_of_lt hfirst]
    cases m with
    | zero => rfl
    | succ m => exact ih hrest (Nat.lt_of_succ_lt_succ hm)

/-- Every number below the product of the radices has digits. -/
theorem isNumeral_cellLevels (h : c < radices.prod) :
    IsNumeral radices (fun m => (cellLevels radices c).getD m 0) c := by
  induction radices generalizing c with
  | nil => exact ⟨fun m hm => absurd hm (Nat.not_lt_zero m), (Nat.lt_one_iff.mp h).symm⟩
  | cons n radices ih =>
    rw [List.prod_cons, Nat.mul_comm] at h
    have hpos : 0 < radices.prod := Nat.pos_of_mul_pos_right (Nat.lt_of_le_of_lt c.zero_le h)
    have hquotient : c / radices.prod < n := Nat.div_lt_of_lt_mul h
    have hrest := ih (Nat.mod_lt c hpos)
    rw [cellLevels_mod] at hrest
    rw [isNumeral_cons_iff, cellLevels]
    refine ⟨Nat.mod_lt _ (Nat.lt_of_le_of_lt (Nat.zero_le _) hquotient), _, hrest, ?_⟩
    rw [List.getD_cons_zero, Nat.mod_eq_of_lt hquotient, Nat.div_add_mod']

namespace Mat

variable {R : Type*} [CommSemiring R]

/-! ### Entries of a chain -/

/-- The product of the entries of the blocks at lists of digits. -/
theorem prod_zipWith3_get (ms : List (Mat R)) {ds es : ℕ → ℕ} {xs ys : List ℕ}
    (hxs : ∀ m < ms.length, xs[m]? = some (ds m)) (hys : ∀ m < ms.length, ys[m]? = some (es m)) :
    (List.zipWith3 get ms xs ys).prod = ∏ m : Fin ms.length, ms[m].get (ds m) (es m) := by
  induction ms generalizing ds es xs ys with
  | nil => rfl
  | cons a ms ih =>
    obtain ⟨x, xs, rfl⟩ : ∃ x xs', xs = x :: xs' := by
      cases xs with
      | nil => exact absurd (hxs 0 (Nat.succ_pos _)) (by simp)
      | cons x xs => exact ⟨x, xs, rfl⟩
    obtain ⟨y, ys, rfl⟩ : ∃ y ys', ys = y :: ys' := by
      cases ys with
      | nil => exact absurd (hys 0 (Nat.succ_pos _)) (by simp)
      | cons y ys => exact ⟨y, ys, rfl⟩
    obtain rfl : x = ds 0 := Option.some.inj (hxs 0 (Nat.succ_pos _))
    obtain rfl : y = es 0 := Option.some.inj (hys 0 (Nat.succ_pos _))
    have hrest := @ih (fun m => ds (m + 1)) (fun m => es (m + 1)) xs ys
      (fun m hm => hxs (m + 1) (Nat.succ_lt_succ hm))
      (fun m hm => hys (m + 1) (Nat.succ_lt_succ hm))
    rw [List.zipWith3, List.prod_cons, hrest]
    exact (Fin.prod_univ_succ fun m : Fin (ms.length + 1) => (a :: ms)[m].get (ds m) (es m)).symm

/-- The entry of a chain at numerals is the product of the entries of its blocks at the digits. -/
theorem get_kronAll_of_isNumeral {ms : List (Mat R)} {ds es : ℕ → ℕ} {i j : ℕ}
    (hi : IsNumeral (ms.map rows) ds i) (hj : IsNumeral (ms.map cols) es j) :
    (kronAll ms).get i j = ∏ m : Fin ms.length, ms[m].get (ds m) (es m) := by
  rw [get_kronAll ms hi.lt hj.lt]
  apply prod_zipWith3_get
  · intro m hm
    exact hi.getElem?_cellLevels (by rwa [List.length_map])
  · intro m hm
    exact hj.getElem?_cellLevels (by rwa [List.length_map])

/-! ### Products of chains -/

/-- Products of chains are taken block by block. -/
theorem kronAll_mul_kronAll {ms ns : List (Mat R)}
    (h : List.Forall₂ (fun a b => a.cols = b.rows) ms ns) :
    kronAll ms * kronAll ns = kronAll (ms.zipWith (· * ·) ns) := by
  induction h with
  | nil =>
    refine ext_get rfl rfl fun i j hi hj => ?_
    obtain rfl : i = 0 := Nat.lt_one_iff.mp hi
    obtain rfl : j = 0 := Nat.lt_one_iff.mp hj
    simp [get_mul, get_filled]
  | @cons a b ms ns _ hrest ih =>
    have hmaps : List.Forall₂ Eq (ms.map cols) (ns.map rows) := by
      rwa [List.forall₂_map_left_iff, List.forall₂_map_right_iff]
    rw [List.forall₂_eq_eq_eq] at hmaps
    have hsizes : (kronAll ms).cols = (kronAll ns).rows := by
      rw [cols_kronAll, rows_kronAll, hmaps]
    rw [kronAll_cons, kronAll_cons, kron_mul_kron a b hsizes, ih, List.zipWith_cons_cons,
      kronAll_cons]

/-- **The Kronecker product of a list of matrices.**  Its sizes are the products of the sizes, and
its entry at `(i, j)` is the product of the entries of the blocks at the digits of `i` and of `j`,
the last of which vary fastest.  So a chain splits anywhere, it is transposed block by block, and
chains of one length whose blocks fit are multiplied block by block.  Nothing but the formula for
two matrices counts. -/
theorem kronAll_by_digits (ms : List (Mat R)) :
    (∀ k : Mat R → Mat R → Mat R, (∀ a b, (k a b).IsKron a b) →
        ms.foldl k (filled 1 1 1) = kronAll ms) ∧
      (kronAll ms).rows = (ms.map rows).prod ∧ (kronAll ms).cols = (ms.map cols).prod ∧
      (∀ i < (kronAll ms).rows, ∃ ds, IsNumeral (ms.map rows) ds i) ∧
      (∀ j < (kronAll ms).cols, ∃ es, IsNumeral (ms.map cols) es j) ∧
      (∀ i j ds es, IsNumeral (ms.map rows) ds i → IsNumeral (ms.map cols) es j →
        (kronAll ms).get i j = ∏ m : Fin ms.length, ms[m].get (ds m) (es m)) ∧
      (∀ ns, kronAll (ms ++ ns) = (kronAll ms).kron (kronAll ns)) ∧
      (kronAll ms).transpose = kronAll (ms.map transpose) ∧
      ∀ ns, List.Forall₂ (fun a b => a.cols = b.rows) ms ns →
        kronAll ms * kronAll ns = kronAll (ms.zipWith (· * ·) ns) := by
  refine ⟨fun k hk => ?_, rows_kronAll ms, cols_kronAll ms, fun i hi => ?_, fun j hj => ?_,
    fun i j ds es => get_kronAll_of_isNumeral, kronAll_append ms, transpose_kronAll ms,
    fun ns => kronAll_mul_kronAll⟩
  · have heq : k = kron := by
      funext a b
      exact (hk a b).eq
    rw [heq, kronAll]
  · rw [rows_kronAll] at hi
    exact ⟨_, isNumeral_cellLevels hi⟩
  · rw [cols_kronAll] at hj
    exact ⟨_, isNumeral_cellLevels hj⟩

/-- Three blocks, of which no two have one shape. -/
def unevenBlocks : List (Mat ℤ) :=
  [ofArray 2 1 #[1, 2], ofArray 1 3 #[3, 4, 5], ofArray 2 2 #[6, 7, 8, 9]]

/-- Blocks that those can be multiplied by. -/
def unevenPartners : List (Mat ℤ) :=
  [ofArray 1 2 #[1, -1], ofArray 3 1 #[1, 0, 2], ofArray 2 1 #[5, 3]]

/-- Row `3` of the four rows is numbered `1, 0, 1` and column `5` of the six columns `0, 2, 1`, so
the entry there is that of each block at its own digits. -/
theorem kronAll_by_digits_unevenBlocks :
    ((∀ a b : Mat ℤ, (a.kron b).IsKron a b) ∧ 3 < (kronAll unevenBlocks).rows ∧
        5 < (kronAll unevenBlocks).cols ∧
        IsNumeral (unevenBlocks.map rows) (fun m => [1, 0, 1].getD m 0) 3 ∧
        IsNumeral (unevenBlocks.map cols) (fun m => [0, 2, 1].getD m 0) 5 ∧
        List.Forall₂ (fun a b => a.cols = b.rows) unevenBlocks unevenPartners) ∧
      unevenBlocks.foldl kron (filled 1 1 1) = kronAll unevenBlocks ∧
      (∃ ds, IsNumeral (unevenBlocks.map rows) ds 3) ∧
      (∃ es, IsNumeral (unevenBlocks.map cols) es 5) ∧
      (kronAll unevenBlocks).get 3 5 = 2 * 5 * 9 ∧
      kronAll unevenBlocks * kronAll unevenPartners =
        kronAll [ofArray 2 2 #[1, -1, 2, -2], ofArray 1 1 #[13], ofArray 2 1 #[51, 67]] := by
  obtain ⟨hfold, hrows, hcols, hrow, hcol, hentry, -, -, hmul⟩ := kronAll_by_digits unevenBlocks
  have hi : 3 < (kronAll unevenBlocks).rows := by
    rw [hrows]
    decide
  have hj : 5 < (kronAll unevenBlocks).cols := by
    rw [hcols]
    decide
  have hthree : IsNumeral (unevenBlocks.map rows) (fun m => [1, 0, 1].getD m 0) 3 :=
    ⟨by decide, rfl⟩
  have hfive : IsNumeral (unevenBlocks.map cols) (fun m => [0, 2, 1].getD m 0) 5 :=
    ⟨by decide, rfl⟩
  have hfit : List.Forall₂ (fun a b => a.cols = b.rows) unevenBlocks unevenPartners :=
    .cons rfl (.cons rfl (.cons rfl .nil))
  refine ⟨⟨isKron_kron, hi, hj, hthree, hfive, hfit⟩, hfold kron isKron_kron, hrow 3 hi, hcol 5 hj,
    ?_, ?_⟩
  · rw [hentry 3 5 _ _ hthree hfive]
    rfl
  · rw [hmul unevenPartners hfit]
    rfl

end Mat

end StudyPower
