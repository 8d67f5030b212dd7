import Mathlib
import StudyPower.Proofs.Mat.Kronecker
import StudyPower.Proofs.Scalar.Exact

/-!
# Numbers that are not finite spread

A sum, a difference or a product is a real number only when both of its operands are, and a quotient
only when its numerator is.  Doubles keep these rules, so an operand that is not a number, or is an
infinity, shows in every entry that is computed from it by such operations.  No rule is stated for
powers: what is not a number has the power one to the exponent zero.

## Main definitions

* `Scalar.Propagates α` — the scalars keep these rules.
* `Mat.AllFinite m` — every entry of `m` is a real number.

## Main statements

* `Scalar.Propagates Float` — doubles keep the rules.
* `Mat.AllFinite.of_symmetricPart`, `Mat.AllFinite.of_kronAll` — **a product of matrices that has an
  entry has real numbers only when each of them does.**
-/

namespace StudyPower

/-- The result of an operation is a real number only when the operands are.  The denominator of a
quotient may be an infinity. -/
class Scalar.Propagates (α : Type) [Scalar α] : Prop where
  /-- The terms of a real sum are real. -/
  finite_of_add {x y : α} : isFinite (x + y) = true → isFinite x = true ∧ isFinite y = true
  /-- The terms of a real difference are real. -/
  finite_of_sub {x y : α} : isFinite (x - y) = true → isFinite x = true ∧ isFinite y = true
  /-- The factors of a real product are real. -/
  finite_of_mul {x y : α} : isFinite (x * y) = true → isFinite x = true ∧ isFinite y = true
  /-- The numerator of a real quotient is real. -/
  finite_of_div {x y : α} : isFinite (x / y) = true → isFinite x = true

namespace Scalar

theorem isFinite_of_exact {α : Type} [ExactScalar α] (x : α) : isFinite x = true := by
  rw [isFinite, isUndefined_eq_false, isInfinite_eq_false]
  rfl

instance {α : Type} [ExactScalar α] : Propagates α where
  finite_of_add _ := ⟨isFinite_of_exact _, isFinite_of_exact _⟩
  finite_of_sub _ := ⟨isFinite_of_exact _, isFinite_of_exact _⟩
  finite_of_mul _ := ⟨isFinite_of_exact _, isFinite_of_exact _⟩
  finite_of_div _ := isFinite_of_exact _

end Scalar

/-! ### Doubles

A double is packed from a sign, a mantissa and an exponent, or from one of the values that are no
real numbers, which its packing keeps. -/

namespace Double

open Float.Model

theorem isFinite_eq (x : Float) : Scalar.isFinite x = x.toModel.unpack.isFinite := by
  change (!x.toModel.unpack.isNaN && !x.toModel.unpack.isInf) = _
  cases x.toModel.unpack with
  | notANumber | infinity | zero | finite => rfl

theorem isFinite_of_pack {u : UnpackedFloat} (h : (pack u).unpack.isFinite = true) :
    u.isFinite = true := by
  cases u with
  | zero | finite => rfl
  | notANumber =>
    rw [show (pack .notANumber).unpack.isFinite = false by decide +kernel] at h
    cases h
  | infinity s =>
    rw [show (pack (.infinity s)).unpack.isFinite = false by cases s <;> decide +kernel] at h
    cases h

theorem isFinite_of_add {f : Format} {u v : UnpackedFloat}
    (h : (UnpackedFloat.add f u v).isFinite = true) : u.isFinite = true ∧ v.isFinite = true := by
  cases u <;> cases v <;> first
    | exact ⟨rfl, rfl⟩
    | cases h
    -- two infinities add up to one of them, or to what is not a number
    | change (if _ then _ else _ : UnpackedFloat).isFinite = true at h
      split at h <;> cases h

theorem isFinite_of_sub {f : Format} {u v : UnpackedFloat}
    (h : (UnpackedFloat.sub f u v).isFinite = true) : u.isFinite = true ∧ v.isFinite = true := by
  cases u <;> cases v <;> first
    | exact ⟨rfl, rfl⟩
    | cases h
    | change (if _ then _ else _ : UnpackedFloat).isFinite = true at h
      split at h <;> cases h

theorem isFinite_of_mul {f : Format} {u v : UnpackedFloat}
    (h : (UnpackedFloat.mul f u v).isFinite = true) : u.isFinite = true ∧ v.isFinite = true := by
  cases u <;> cases v <;> first | exact ⟨rfl, rfl⟩ | cases h

theorem isFinite_of_div {f : Format} {u v : UnpackedFloat}
    (h : (UnpackedFloat.div f u v).isFinite = true) : u.isFinite = true := by
  cases u <;> cases v <;> first | rfl | cases h

end Double

instance : Scalar.Propagates Float where
  finite_of_add h := by
    rw [Double.isFinite_eq] at h ⊢
    rw [Double.isFinite_eq]
    exact Double.isFinite_of_add (Double.isFinite_of_pack h)
  finite_of_sub h := by
    rw [Double.isFinite_eq] at h ⊢
    rw [Double.isFinite_eq]
    exact Double.isFinite_of_sub (Double.isFinite_of_pack h)
  finite_of_mul h := by
    rw [Double.isFinite_eq] at h ⊢
    rw [Double.isFinite_eq]
    exact Double.isFinite_of_mul (Double.isFinite_of_pack h)
  finite_of_div h := by
    rw [Double.isFinite_eq] at h ⊢
    exact Double.isFinite_of_div (Double.isFinite_of_pack h)

/-! ### Matrices -/

namespace Mat

variable {α : Type} [Scalar α]

omit [Scalar α] in
theorem mem_toList_iff [Zero α] {m : Mat α} {x : α} :
    x ∈ m.toList ↔ ∃ i < m.rows, ∃ j < m.cols, m.get i j = x := by
  unfold toList toRows
  simp only [List.mem_flatten, List.mem_map, Vector.mem_toList_iff, Vector.mem_iff_getElem]
  constructor
  · rintro ⟨_, ⟨_, ⟨i, hi, rfl⟩, rfl⟩, hx⟩
    rw [Vector.mem_toList_iff, Vector.mem_iff_getElem] at hx
    obtain ⟨j, hj, rfl⟩ := hx
    exact ⟨i, hi, j, hj, by rw [get, dif_pos hi, dif_pos hj]⟩
  · rintro ⟨i, hi, j, hj, rfl⟩
    refine ⟨_, ⟨_, ⟨i, hi, rfl⟩, rfl⟩, ?_⟩
    rw [get, dif_pos hi, dif_pos hj, Vector.mem_toList_iff]
    exact Vector.getElem_mem hj

/-- Every entry is a real number. -/
def AllFinite (m : Mat α) : Prop := ∀ i < m.rows, ∀ j < m.cols, Scalar.isFinite (m.get i j) = true

theorem allFinite_iff {m : Mat α} :
    m.AllFinite ↔ ∀ x ∈ m.toList, Scalar.isFinite x = true := by
  simp only [mem_toList_iff]
  constructor
  · rintro h x ⟨i, hi, j, hj, rfl⟩
    exact h i hi j hj
  · intro h i hi j hj
    exact h _ ⟨i, hi, j, hj, rfl⟩

instance (m : Mat α) : Decidable m.AllFinite := decidable_of_iff _ allFinite_iff.symm

variable [Scalar.Propagates α]

/-- Averages are real only when both of their terms are. -/
theorem AllFinite.of_symmetricPart {m : Mat α} (h : m.symmetricPart.AllFinite) :
    m.AllFinite := by
  intro i hi j hj
  have hij := h i hi j hj
  rw [get_symmetricPart hi hj] at hij
  exact (Scalar.Propagates.finite_of_add (Scalar.Propagates.finite_of_div hij)).1

/-- Each entry of either factor takes part in some entry of their product, as long as both have
entries. -/
theorem AllFinite.of_kron {a b : Mat α} (h : (a.kron b).AllFinite) (hrows : 0 < (a.kron b).rows)
    (hcols : 0 < (a.kron b).cols) : a.AllFinite ∧ b.AllFinite := by
  have harows : 0 < a.rows := Nat.pos_of_mul_pos_right hrows
  have hacols : 0 < a.cols := Nat.pos_of_mul_pos_right hcols
  have hbrows : 0 < b.rows := Nat.pos_of_mul_pos_left hrows
  have hbcols : 0 < b.cols := Nat.pos_of_mul_pos_left hcols
  have hmul : ∀ i < a.rows, ∀ j < a.cols, ∀ k < b.rows, ∀ l < b.cols,
      Scalar.isFinite (a.get i j) = true ∧ Scalar.isFinite (b.get k l) = true := by
    intro i hi j hj k hk l hl
    have hrow := numeral_lt hi hk
    have hcol := numeral_lt hj hl
    have hentry := h _ hrow _ hcol
    obtain ⟨hik, hki⟩ := digits_of_lt (i := i) hk
    obtain ⟨hjl, hlj⟩ := digits_of_lt (i := j) hl
    rw [kron, get_ofFn _ hrow hcol, hik, hki, hjl, hlj] at hentry
    exact Scalar.Propagates.finite_of_mul hentry
  exact ⟨fun i hi j hj => (hmul i hi j hj 0 hbrows 0 hbcols).1,
    fun k hk l hl => (hmul 0 harows 0 hacols k hk l hl).2⟩

theorem AllFinite.of_foldl_kron {m : Mat α} {ms : List (Mat α)} (h : (ms.foldl kron m).AllFinite)
    (hrows : 0 < (ms.foldl kron m).rows) (hcols : 0 < (ms.foldl kron m).cols) :
    m.AllFinite ∧ ∀ b ∈ ms, b.AllFinite ∧ 0 < b.rows ∧ 0 < b.cols := by
  induction ms generalizing m with
  | nil => exact ⟨h, fun b hb => absurd hb List.not_mem_nil⟩
  | cons a ms ih =>
    obtain ⟨hkron, hrest⟩ := ih h hrows hcols
    -- the product of the first two has entries, since the product of all has
    rw [List.foldl_cons, rows_foldl_kron] at hrows
    rw [List.foldl_cons, cols_foldl_kron] at hcols
    have hr : 0 < (m.kron a).rows := Nat.pos_of_mul_pos_right hrows
    have hc : 0 < (m.kron a).cols := Nat.pos_of_mul_pos_right hcols
    obtain ⟨hm, ha⟩ := hkron.of_kron hr hc
    exact ⟨hm, List.forall_mem_cons.mpr
      ⟨⟨ha, Nat.pos_of_mul_pos_left hr, Nat.pos_of_mul_pos_left hc⟩, hrest⟩⟩

/-- **A product of matrices that has an entry has real numbers only when each of them does**, and
then each of them has an entry. -/
theorem AllFinite.of_kronAll {ms : List (Mat α)} (h : (kronAll ms).AllFinite)
    (hrows : 0 < (kronAll ms).rows) (hcols : 0 < (kronAll ms).cols) :
    ∀ b ∈ ms, b.AllFinite ∧ 0 < b.rows ∧ 0 < b.cols :=
  (AllFinite.of_foldl_kron h hrows hcols).2

end Mat

end StudyPower
