import Mathlib
import StudyPower.Proofs.Scalar.Propagation

/-!
# Laws that rounding keeps

Rounding breaks most laws of arithmetic, but it looks at the size of a number and neither at its
sign nor at where it came from.  So a rounded product does not depend on the order of its factors,
the distance of two numbers does not depend on which of them is subtracted, and a number times one
is rounded to itself.

## Main definitions

* `Scalar.Symmetric α` — the scalars keep these three laws.
* `Double.magnitude u` — an unpacked double without its sign.

## Main statements

* `Scalar.abs_eq_abs` — in exact arithmetic the absolute value is that of the ordered field.
* `Double.abs_eq` — the absolute value of a double is its magnitude.
* `Double.round_of_target` — what has the exponent that rounding aims at is rounded to itself.
* `Scalar.Symmetric Float` — **doubles keep the three laws.**
-/

namespace StudyPower

/-- Products and distances do not depend on the order of their operands, and one is the unit of
products. -/
class Scalar.Symmetric (α : Type) [Scalar α] : Prop where
  /-- The factors of a product may be exchanged. -/
  mul_comm (x y : α) : x * y = y * x
  /-- A product with one is the other factor. -/
  one_mul (x : α) : 1 * x = x
  /-- The distance of two numbers is the same from either of them. -/
  abs_sub_comm (x y : α) : abs (x - y) = abs (y - x)

namespace Scalar

/-! ### Exact scalars -/

variable {α : Type} [ExactScalar α]

theorem lt_eq_true_iff {x y : α} : lt x y = true ↔ x < y := ExactScalar.lt_iff x y

theorem abs_eq_abs (x : α) : abs x = |x| := by
  unfold abs
  split
  · next h => exact (abs_of_pos (lt_eq_true_iff.mp h)).symm
  · next h =>
    rw [lt_eq_true_iff, not_lt] at h
    rw [zero_sub, abs_of_nonpos h]

instance : Symmetric α where
  mul_comm x y := mul_comm x y
  one_mul x := one_mul x
  abs_sub_comm x y := by rw [abs_eq_abs, abs_eq_abs, abs_sub_comm]

end Scalar

/-! ### Doubles

Each operation unpacks its operands, works on their signs, mantissas and exponents, rounds, and
packs the result. -/

namespace Double

open Float.Model UnpackedFloat

theorem mul_eq (x y : Float) :
    x * y = ⟨pack (UnpackedFloat.mul .binary64 x.toModel.unpack y.toModel.unpack)⟩ := rfl

theorem sub_eq (x y : Float) :
    x - y = ⟨pack (UnpackedFloat.sub .binary64 x.toModel.unpack y.toModel.unpack)⟩ := rfl

theorem lt_eq (x y : Float) :
    Scalar.lt x y = UnpackedFloat.lt x.toModel.unpack y.toModel.unpack := by
  change decide (Float.lt x y = true) = _
  rw [Bool.decide_eq_true]
  change decide (UnpackedFloat.lt x.toModel.unpack y.toModel.unpack = true) = _
  rw [Bool.decide_eq_true]

theorem unpack_one :
    (1.0 : Float).toModel.unpack = .finite .positive (2 ^ 52) (-52) (by decide) := rfl

/-- The bits of a double have one form only, so nothing is lost between unpacking and packing. -/
theorem pack_unpack (x : Float) : (⟨pack x.toModel.unpack⟩ : Float) = x := by
  obtain ⟨⟨bits, hvalid⟩⟩ := x
  have hbits : UnpackedFloat.pack .binary64 (UnpackedFloat.unpack .binary64 bits.toBitVec) =
      bits.toBitVec := pack_unpack_of_valid hvalid
  simp only [Float.Model.pack, Float.Model.unpack, hbits]

/-! ### Magnitudes -/

/-- An unpacked double without its sign. -/
def magnitude : UnpackedFloat → UnpackedFloat
  | .notANumber => .notANumber
  | .infinity _ => .infinity .positive
  | .zero _ => .zero .positive
  | .finite _ m e h => .finite .positive m e h

/-- Rounding does not look at the sign. -/
theorem magnitude_round (s : Sign) (m : ℕ) (e : ℤ) :
    magnitude (UnpackedFloat.round .binary64 s m e) =
      UnpackedFloat.round .binary64 .positive m e := by
  unfold UnpackedFloat.round roundWithAccuracy
  dsimp only
  split
  · rfl
  · rfl

theorem magnitude_normalize_neg (m e : ℤ) (s : Sign) :
    magnitude (UnpackedFloat.normalize .binary64 (-m) e s) =
      magnitude (UnpackedFloat.normalize .binary64 m e s) := by
  unfold UnpackedFloat.normalize
  rcases lt_trichotomy m 0 with hm | rfl | hm
  · rw [compare_lt_iff_lt.mpr hm, compare_gt_iff_gt.mpr (neg_pos.mpr hm)]
    dsimp only
    rw [magnitude_round, magnitude_round]
  · rfl
  · rw [compare_gt_iff_gt.mpr hm, compare_lt_iff_lt.mpr (neg_neg_iff_pos.mpr hm)]
    dsimp only
    rw [magnitude_round, magnitude_round, neg_neg]

theorem magnitude_sub_comm (u v : UnpackedFloat) :
    magnitude (UnpackedFloat.sub .binary64 u v) = magnitude (UnpackedFloat.sub .binary64 v u) := by
  cases u <;> cases v
  case finite.finite s m e _ t n f _ =>
    unfold UnpackedFloat.sub
    dsimp only
    rw [min_comm f e, ← neg_sub, magnitude_normalize_neg]
  case infinity.infinity s t => cases s <;> cases t <;> rfl
  case zero.zero s t => cases s <;> cases t <;> rfl
  all_goals simp only [UnpackedFloat.sub, magnitude]

theorem magnitude_unpack_packComponents (s : Sign) (e : BitVec Format.binary64.exponentBits)
    (m : BitVec Format.binary64.mantissaBitsWithoutImplicit) :
    magnitude (UnpackedFloat.unpack .binary64 (packComponents .binary64 s e m)) =
      UnpackedFloat.unpack .binary64 (packComponents .binary64 .positive e m) := by
  unfold UnpackedFloat.unpack
  simp only [unpackMantissa_packComponents, unpackExponent_packComponents,
    unpackSign_packComponents, Sign.ofBitVec_toBitVec]
  split
  · split <;> rfl
  · split
    · split <;> rfl
    · rfl

/-- The sign is packed by itself, next to the exponent and the mantissa. -/
theorem exists_packComponents (u : UnpackedFloat) (h : u ≠ .notANumber) :
    ∃ s e m, UnpackedFloat.pack .binary64 u = packComponents .binary64 s e m ∧
      UnpackedFloat.pack .binary64 (magnitude u) = packComponents .binary64 .positive e m := by
  cases u with
  | notANumber => exact absurd rfl h
  | infinity s => exact ⟨s, _, _, rfl, rfl⟩
  | zero s => exact ⟨s, _, _, rfl, rfl⟩
  | finite s m e h =>
    simp only [magnitude, UnpackedFloat.pack]
    split
    · exact ⟨s, _, _, rfl, rfl⟩
    · split
      · exact ⟨s, _, _, rfl, rfl⟩
      · exact ⟨s, _, _, rfl, rfl⟩

theorem magnitude_unpack_pack (u : UnpackedFloat) :
    magnitude (Float.Model.pack u).unpack = (Float.Model.pack (magnitude u)).unpack := by
  change magnitude (UnpackedFloat.unpack .binary64 (UnpackedFloat.pack .binary64 u)) =
    UnpackedFloat.unpack .binary64 (UnpackedFloat.pack .binary64 (magnitude u))
  by_cases h : u = .notANumber
  · rw [h]
    change magnitude (UnpackedFloat.unpack .binary64 (packedNaN .binary64)) =
      UnpackedFloat.unpack .binary64 (packedNaN .binary64)
    rw [unpack_packedNaN]
    rfl
  · obtain ⟨s, e, m, hu, hmagnitude⟩ := exists_packComponents u h
    rw [hu, hmagnitude, magnitude_unpack_packComponents]

/-- The absolute value is the number without its sign. -/
theorem abs_eq (x : Float) : Scalar.abs x = ⟨pack (magnitude x.toModel.unpack)⟩ := by
  unfold Scalar.abs
  rw [lt_eq]
  change (if UnpackedFloat.lt (.zero .positive) x.toModel.unpack = true then x
    else ⟨pack (UnpackedFloat.sub .binary64 (.zero .positive) x.toModel.unpack)⟩) = _
  have hx := pack_unpack x
  generalize x.toModel.unpack = u at hx ⊢
  cases u with
  | notANumber => rfl
  | infinity s =>
    cases s with
    | negative => rfl
    | positive => exact hx.symm
  | zero s => cases s <;> rfl
  | finite s m e h =>
    cases s with
    | negative => rfl
    | positive => exact hx.symm

theorem abs_sub_comm (x y : Float) : Scalar.abs (x - y) = Scalar.abs (y - x) := by
  rw [abs_eq, abs_eq, sub_eq, sub_eq, magnitude_unpack_pack, magnitude_sub_comm,
    ← magnitude_unpack_pack]

/-! ### Rounding what needs no rounding -/

theorem targetExponent_eq (t : ℤ) :
    Format.binary64.targetExponent t = max (t - 53) (-1074) := rfl

/-- An unpacked double has the exponent that rounding aims at. -/
theorem targetExponent_of_unpack {b : BitVec Format.binary64.numBits} {s : Sign} {m : ℕ} {e : ℤ}
    {h : 0 < m} (hb : UnpackedFloat.unpack .binary64 b = .finite s m e h) :
    Format.binary64.targetExponent (totalExponent m e) = e := by
  have hm : (unpackMantissa b).toNat < 2 ^ 52 := (unpackMantissa b).isLt
  rw [targetExponent_eq, totalExponent]
  unfold UnpackedFloat.unpack at hb
  dsimp only at hb
  split at hb
  · split at hb <;> cases hb
  · split at hb
    · next hzero =>
      -- the least exponent, where mantissas may be short
      split at hb
      · cases hb
      · simp only [UnpackedFloat.finite.injEq] at hb
        obtain ⟨-, rfl, rfl⟩ := hb
        have hlog : (unpackMantissa b).toNat.log2 < 52 := (Nat.log2_lt h.ne').mpr hm
        rw [hzero]
        change max (((unpackMantissa b).toNat.log2 : ℤ) + 1 + ((0 : ℤ) - (1023 + 52) + 1) - 53)
          (-1074) = (0 : ℤ) - (1023 + 52) + 1
        omega
    · next hne =>
      -- a greater one, where mantissas have their leading bit
      simp only [UnpackedFloat.finite.injEq] at hb
      obtain ⟨-, rfl, rfl⟩ := hb
      have happend : (1#1 ++ unpackMantissa b).toNat = 2 ^ 52 + (unpackMantissa b).toNat := by
        rw [BitVec.toNat_append, Nat.shiftLeft_eq, Nat.mul_comm, ← Nat.two_pow_add_eq_or_of_lt hm]
        rfl
      have hlog : (1#1 ++ unpackMantissa b).toNat.log2 = 52 := by
        rw [happend]
        exact (Nat.log2_eq_iff (by omega)).mpr ⟨by omega, by omega⟩
      have hexponent : (unpackExponent b).toNat ≠ 0 := fun h => hne (BitVec.eq_of_toNat_eq h)
      rw [hlog]
      change max (((52 : ℕ) : ℤ) + 1 + (((unpackExponent b).toNat : ℤ) - (1023 + 52)) - 53)
        (-1074) = ((unpackExponent b).toNat : ℤ) - (1023 + 52)
      omega

theorem log2_two_pow_mul {m : ℕ} (h : m ≠ 0) (k : ℕ) : (2 ^ k * m).log2 = k + m.log2 := by
  obtain ⟨hlo, hhi⟩ := (Nat.log2_eq_iff h).mp rfl
  rw [Nat.log2_eq_iff (Nat.mul_ne_zero (Nat.two_pow_pos k).ne' h), pow_add, add_assoc, pow_add]
  exact ⟨Nat.mul_le_mul_left _ hlo, Nat.mul_lt_mul_of_pos_left hhi (Nat.two_pow_pos k)⟩

/-- Bits that are zero are shifted out without a trace. -/
theorem shiftRight_two_pow_mul (m k : ℕ) :
    (⟨2 ^ k * m, false, false⟩ : ExtendedMantissa) >>> k =
      (⟨m, false, false⟩ : ExtendedMantissa) := by
  induction k generalizing m with
  | zero =>
    rw [pow_zero, one_mul]
    rfl
  | succ k ih =>
    change ExtendedMantissa.shiftRightOne
      ((⟨2 ^ (k + 1) * m, false, false⟩ : ExtendedMantissa) >>> k) = _
    rw [pow_succ, mul_assoc, ih]
    simp [ExtendedMantissa.shiftRightOne]

/-- A mantissa that comes with zeros behind it is shifted to the exponent that rounding aims at
without a trace. -/
theorem shiftToTargetExponent_of_target {m : ℕ} {e : ℤ} (h : m ≠ 0) (k : ℕ)
    (htarget : Format.binary64.targetExponent (totalExponent m e) = e) :
    shiftToTargetExponent .binary64 (2 ^ k * m) (-k + e) .exact = (⟨m, false, false⟩, e) := by
  have htotal : totalExponent (2 ^ k * m) (-k + e) = totalExponent m e := by
    unfold totalExponent
    rw [log2_two_pow_mul h]
    push_cast
    ring
  have hshift : (e - (-(k : ℤ) + e)).toNat = k := by omega
  have hexponent : -(k : ℤ) + e + k = e := by omega
  have hexact (n : ℕ) : ExtendedMantissa.ofMantissaAndAccuracy n .exact = ⟨n, false, false⟩ := rfl
  unfold shiftToTargetExponent shiftToExponent
  simp only [htotal, htarget, hshift, hexponent, hexact, shiftRight_two_pow_mul]

/-- What has the exponent that rounding aims at is rounded to itself, also when its mantissa comes
with zeros behind it. -/
theorem round_of_target {s : Sign} {m : ℕ} {e : ℤ} (h : 0 < m) (k : ℕ)
    (htarget : Format.binary64.targetExponent (totalExponent m e) = e) :
    roundWithAccuracy .binary64 s (2 ^ k * m) (-k + e) .exact = .finite s m e h := by
  have hagain : shiftToTargetExponent .binary64 m e .exact = (⟨m, false, false⟩, e) := by
    simpa using shiftToTargetExponent_of_target h.ne' 0 htarget
  have hrounded : (⟨m, false, false⟩ : ExtendedMantissa).roundedMantissa = m := rfl
  unfold roundWithAccuracy
  simp only [shiftToTargetExponent_of_target h.ne' k htarget, hrounded, hagain, h.ne', dite_false]

/-! ### Products -/

theorem sign_mul_comm (s t : Sign) : s * t = t * s := by cases s <;> cases t <;> rfl

theorem sign_one_mul (s : Sign) : .positive * s = s := by cases s <;> rfl

theorem unpacked_mul_comm (u v : UnpackedFloat) :
    UnpackedFloat.mul .binary64 u v = UnpackedFloat.mul .binary64 v u := by
  cases u <;> cases v <;>
    simp only [UnpackedFloat.mul, sign_mul_comm, Nat.mul_comm, Int.add_comm]

theorem unpacked_one_mul (x : Float) :
    UnpackedFloat.mul .binary64 (.finite .positive (2 ^ 52) (-52) (by decide)) x.toModel.unpack =
      x.toModel.unpack := by
  cases hx : x.toModel.unpack with
  | notANumber => rfl
  | infinity s => simp only [UnpackedFloat.mul, sign_one_mul]
  | zero s => simp only [UnpackedFloat.mul, sign_one_mul]
  | finite s m e h =>
    simp only [UnpackedFloat.mul, sign_one_mul]
    exact round_of_target h 52 (targetExponent_of_unpack hx)

end Double

instance : Scalar.Symmetric Float where
  mul_comm x y := by rw [Double.mul_eq, Double.mul_eq, Double.unpacked_mul_comm]
  one_mul x := by
    change (1.0 : Float) * x = x
    rw [Double.mul_eq, Double.unpack_one, Double.unpacked_one_mul, Double.pack_unpack]
  abs_sub_comm := Double.abs_sub_comm

end StudyPower
