import Mathlib
import StudyPower.Proofs.Scalar.Symmetry

/-!
# The error of rounding

A sum or a difference of doubles is worked out exactly and rounded once.  Rounding keeps 53 bits, of
which it drops less than one half of the last, so the result is off by at most one part in `2 ^ 53`.
Nothing is lost near zero: doubles are multiples of the least of them, and so are their differences.

## Main definitions

* `Double.value x` — the number that a double stands for.
* `Double.Represents em q` — a mantissa with its residual bits stands for `q`.
* `Double.shortened m k` — what rounding makes of a mantissa of which it drops `k` bits.
* `Double.Canonical u` — an unpacked double that packing keeps.

## Main statements

* `Double.unpack_pack` — packing keeps a canonical double.
* `Double.exists_round_eq` — what rounding makes is canonical, and off by one part in `2 ^ 53`.
* `Double.value_sub`, `Double.value_add` — **a difference and a sum of doubles are off by at most one
  part in `2 ^ 53`.**
* `Double.le_iff_value_le` — doubles are compared as the numbers that they stand for.
-/

namespace StudyPower

namespace Double

open Float.Model UnpackedFloat

/-! ### Values -/

/-- The number that an unpacked double stands for, and zero for what is no real number. -/
def rational : UnpackedFloat → ℚ
  | .finite s m e _ => s.apply m * 2 ^ e
  | _ => 0

/-- The number that a double stands for. -/
def value (x : Float) : ℚ := rational x.toModel.unpack

/-! ### Residual bits -/

/-- A mantissa with its two residual bits stands for a number from the mantissa on and below the
next one.  The bits say where it is to the middle between the two. -/
def Represents : ExtendedMantissa → ℚ → Prop
  | ⟨m, false, false⟩, q => q = m
  | ⟨m, false, true⟩, q => m < q ∧ q < m + 1 / 2
  | ⟨m, true, false⟩, q => q = m + 1 / 2
  | ⟨m, true, true⟩, q => m + 1 / 2 < q ∧ q < m + 1

namespace Represents

variable {em : ExtendedMantissa} {q : ℚ}

theorem shiftRightOne (h : Represents em q) : Represents em.shiftRightOne (q / 2) := by
  obtain ⟨m, roundBit, stickyBit⟩ := em
  have hm : (m : ℚ) = 2 * (m / 2 : ℕ) + (m % 2 : ℕ) := by exact_mod_cast (Nat.div_add_mod m 2).symm
  -- the bit that is shifted out becomes the round bit, the others are collected
  rcases Nat.mod_two_eq_zero_or_one m with hbit | hbit <;> rw [hbit] at hm <;>
    cases roundBit <;> cases stickyBit <;>
    simp only [ExtendedMantissa.shiftRightOne, hbit, Represents, Nat.cast_zero, Nat.cast_one,
      bne_self_eq_false, Bool.or_self, Bool.or_true, Bool.or_false, Nat.reduceBNe] at h hm ⊢
  all_goals first | linarith | exact ⟨by linarith, by linarith⟩

theorem shiftRight (h : Represents em q) (k : ℕ) : Represents (em >>> k) (q / 2 ^ k) := by
  induction k with
  | zero =>
    rw [pow_zero, div_one]
    exact h
  | succ k ih =>
    change Represents (em >>> k).shiftRightOne _
    rw [pow_succ, ← div_div]
    exact ih.shiftRightOne

/-- The rounded mantissa is the nearest. -/
theorem abs_sub_le (h : Represents em q) : |(em.roundedMantissa : ℚ) - q| ≤ 1 / 2 := by
  obtain ⟨m, roundBit, stickyBit⟩ := em
  have hodd : ((m % 2 : ℕ) : ℚ) ≤ 1 := by exact_mod_cast Nat.le_of_lt_succ (Nat.mod_lt m two_pos)
  have hnonneg : (0 : ℚ) ≤ ((m % 2 : ℕ) : ℚ) := Nat.cast_nonneg _
  rw [abs_le]
  cases roundBit <;> cases stickyBit <;>
    simp only [Represents, ExtendedMantissa.roundedMantissa, ExtendedMantissa.accuracy,
      Accuracy.roundToNearestEven, Nat.cast_add, Nat.cast_one] at h ⊢
  all_goals exact ⟨by linarith, by linarith⟩

end Represents

/-! ### Rounding -/

/-- A number is between the two powers of two that its total exponent names. -/
theorem two_zpow_le {m : ℕ} (hm : 0 < m) (e : ℤ) : (2 : ℚ) ^ (m.log2 + e) ≤ m * 2 ^ e := by
  have hlog : ((2 ^ m.log2 : ℕ) : ℚ) ≤ m := Nat.cast_le.mpr (Nat.log2_self_le hm.ne')
  rw [zpow_add₀ two_ne_zero, zpow_natCast]
  rw [Nat.cast_pow, Nat.cast_ofNat] at hlog
  exact mul_le_mul_of_nonneg_right hlog (zpow_nonneg zero_le_two e)

theorem lt_two_zpow (m : ℕ) (e : ℤ) : (m : ℚ) * 2 ^ e < 2 ^ totalExponent m e := by
  have hlog : (m : ℚ) < ((2 ^ (m.log2 + 1) : ℕ) : ℚ) := Nat.cast_lt.mpr Nat.lt_log2_self
  rw [Nat.cast_pow, Nat.cast_ofNat] at hlog
  rw [totalExponent, zpow_add₀ two_ne_zero]
  exact_mod_cast mul_lt_mul_of_pos_right hlog (zpow_pos two_pos e)

/-- A mantissa of 53 bits has the exponent that rounding aims at, and so has one that rounding up
made a power of two, after a shift. -/
theorem exists_target {r : ℕ} {t : ℤ} (hlo : 2 ^ 52 ≤ r) (hhi : r ≤ 2 ^ 53) (ht : -1074 ≤ t) :
    ∃ (k n : ℕ) (f : ℤ), 0 < n ∧ 2 ^ k * n = r ∧ -k + f = t ∧
      Format.binary64.targetExponent (totalExponent n f) = f := by
  rcases hhi.lt_or_eq with hlt | rfl
  · have hlog : r.log2 = 52 := (Nat.log2_eq_iff (by omega)).mpr ⟨hlo, hlt⟩
    refine ⟨0, r, t, by omega, by rw [pow_zero, one_mul], by simp, ?_⟩
    rw [targetExponent_eq, totalExponent, hlog]
    omega
  · refine ⟨1, 2 ^ 52, t + 1, by decide, rfl, by simp, ?_⟩
    rw [targetExponent_eq, totalExponent, Nat.log2_two_pow]
    omega

/-- A number that needs no bits dropped is rounded to itself. -/
theorem round_eq_of_le {s : Sign} {m : ℕ} {e t : ℤ} (hm : 0 < m)
    (ht : Format.binary64.targetExponent (totalExponent m e) = t) (hle : t ≤ e) :
    ∃ (n : ℕ) (h : 0 < n), UnpackedFloat.round .binary64 s m e = .finite s n t h ∧
      Format.binary64.targetExponent (totalExponent n t) = t ∧ (n * 2 ^ t : ℚ) = m * 2 ^ e := by
  obtain ⟨k, rfl⟩ : ∃ k : ℕ, e = t + k := ⟨(e - t).toNat, by omega⟩
  have hpos : 0 < 2 ^ k * m := Nat.mul_pos (Nat.two_pow_pos k) hm
  have htarget : Format.binary64.targetExponent (totalExponent (2 ^ k * m) t) = t := by
    rw [totalExponent, log2_two_pow_mul hm.ne']
    rw [totalExponent] at ht
    refine Eq.trans (congrArg _ ?_) ht
    push_cast
    ring
  refine ⟨2 ^ k * m, hpos, ?_, htarget, ?_⟩
  · have hshift : (t + k - t).toNat = k := by omega
    have hexponent : t + k - k = -((0 : ℕ) : ℤ) + t := by omega
    have hmantissa : m <<< k = 2 ^ 0 * (2 ^ k * m) := by
      rw [Nat.shiftLeft_eq, pow_zero, one_mul, Nat.mul_comm]
    unfold UnpackedFloat.round decreaseExponent
    simp only [ht, hshift]
    rw [hexponent, hmantissa]
    exact round_of_target hpos 0 htarget
  · rw [zpow_add₀ two_ne_zero, zpow_natCast]
    push_cast
    ring

/-- What rounding makes of a mantissa of which it drops this many bits. -/
def shortened (m k : ℕ) : ℕ := ((⟨m, false, false⟩ : ExtendedMantissa) >>> k).roundedMantissa

theorem abs_shortened_sub_le (m k : ℕ) : |(shortened m k : ℚ) - m / 2 ^ k| ≤ 1 / 2 := by
  have hwhole : Represents ⟨m, false, false⟩ m := rfl
  exact (hwhole.shiftRight k).abs_sub_le

section Shortened

variable {m k : ℕ}

/-- Where 53 bits are kept, the part that is kept has the size of 53 bits. -/
theorem div_two_pow_bounds (hm : 0 < m) (hlog : m.log2 = 52 + k) :
    (2 : ℚ) ^ 52 ≤ m / 2 ^ k ∧ (m / 2 ^ k : ℚ) < 2 ^ 53 := by
  obtain ⟨hlo, hhi⟩ := (Nat.log2_eq_iff hm.ne').mp hlog
  rw [le_div_iff₀ (by positivity), div_lt_iff₀ (by positivity), ← pow_add, ← pow_add]
  exact ⟨by exact_mod_cast hlo, by exact_mod_cast hhi.trans_eq (by congr 1; omega)⟩

theorem shortened_bounds (hm : 0 < m) (hlog : m.log2 = 52 + k) :
    2 ^ 52 ≤ shortened m k ∧ shortened m k ≤ 2 ^ 53 := by
  obtain ⟨hlo, hhi⟩ := div_two_pow_bounds hm hlog
  obtain ⟨hbelow, habove⟩ := abs_le.mp (abs_shortened_sub_le m k)
  constructor
  · refine Nat.lt_succ_iff.mp (Nat.cast_lt (α := ℚ).mp ?_)
    push_cast
    linarith
  · refine Nat.lt_succ_iff.mp (Nat.cast_lt (α := ℚ).mp ?_)
    push_cast
    linarith

/-- Half of the last bit that is kept is at most one part in `2 ^ 53`. -/
theorem shortened_error (hm : 0 < m) (hlog : m.log2 = 52 + k) (e : ℤ) :
    |(shortened m k * 2 ^ (e + k) : ℚ) - m * 2 ^ e| ≤ m * 2 ^ e / 2 ^ 53 := by
  set unit : ℚ := 2 ^ (e + k) with hunit
  have hpos : 0 < unit := zpow_pos two_pos _
  have hexact : (m * 2 ^ e : ℚ) = m / 2 ^ k * unit := by
    rw [hunit, zpow_add₀ two_ne_zero, zpow_natCast]
    field_simp
  rw [hexact, ← sub_mul, abs_mul, abs_of_pos hpos]
  calc |(shortened m k : ℚ) - m / 2 ^ k| * unit ≤ 1 / 2 * unit :=
        mul_le_mul_of_nonneg_right (abs_shortened_sub_le m k) hpos.le
    _ ≤ m / 2 ^ k * unit / 2 ^ 53 := by
        rw [mul_div_right_comm]
        refine mul_le_mul_of_nonneg_right ?_ hpos.le
        linarith [(div_two_pow_bounds hm hlog).1]

/-- Bits are dropped once: what is left has the exponent that rounding aims at, after a shift. -/
theorem round_eq_of_shortened (s : Sign) {e f : ℤ} {j n : ℕ} (hn : 0 < n)
    (hdrop : Format.binary64.targetExponent (totalExponent m e) = e + k)
    (hmantissa : 2 ^ j * n = shortened m k) (hexponent : -j + f = e + k)
    (htarget : Format.binary64.targetExponent (totalExponent n f) = f) :
    UnpackedFloat.round .binary64 s m e = .finite s n f hn := by
  have hfirst : shiftToTargetExponent .binary64 m e .exact =
      ((⟨m, false, false⟩ : ExtendedMantissa) >>> k, e + k) := by
    unfold shiftToTargetExponent shiftToExponent
    simp only [hdrop, show (e + k - e).toNat = k by omega]
    rfl
  have hsecond : shiftToTargetExponent .binary64
      ((⟨m, false, false⟩ : ExtendedMantissa) >>> k).roundedMantissa (e + k) .exact =
        (⟨n, false, false⟩, f) := by
    change shiftToTargetExponent .binary64 (shortened m k) (e + k) .exact = _
    rw [← hmantissa, ← hexponent]
    exact shiftToTargetExponent_of_target hn.ne' j htarget
  have hkept : (e - Format.binary64.targetExponent (totalExponent m e)).toNat = 0 := by omega
  unfold UnpackedFloat.round decreaseExponent
  simp only [hkept, Nat.shiftLeft_zero, Nat.cast_zero, sub_zero]
  unfold roundWithAccuracy
  simp only [hfirst, hsecond, hn.ne', dite_false]

end Shortened

/-- What rounding makes has the exponent that it aims at, and is off by at most one part in
`2 ^ 53`. -/
theorem exists_round_eq (s : Sign) {m : ℕ} {e : ℤ} (hm : 0 < m) (he : -1074 ≤ e) :
    ∃ (n : ℕ) (f : ℤ) (h : 0 < n), UnpackedFloat.round .binary64 s m e = .finite s n f h ∧
      Format.binary64.targetExponent (totalExponent n f) = f ∧
        |(n * 2 ^ f : ℚ) - m * 2 ^ e| ≤ m * 2 ^ e / 2 ^ 53 := by
  rcases le_or_gt (Format.binary64.targetExponent (totalExponent m e)) e with hle | hlt
  · obtain ⟨n, h, hround, htarget, hvalue⟩ := round_eq_of_le hm rfl hle
    refine ⟨n, _, h, hround, htarget, ?_⟩
    rw [hvalue, sub_self, abs_zero]
    positivity
  · -- bits are dropped, so the result is above the least numbers and has all of its 53
    obtain ⟨k, hk⟩ : ∃ k : ℕ, Format.binary64.targetExponent (totalExponent m e) = e + k :=
      ⟨(Format.binary64.targetExponent (totalExponent m e) - e).toNat, by omega⟩
    have hlog : m.log2 = 52 + k := by
      rw [targetExponent_eq, totalExponent] at hk
      rw [targetExponent_eq, totalExponent] at hlt
      omega
    obtain ⟨hlo, hhi⟩ := shortened_bounds hm hlog
    have hleast : -1074 ≤ e + k := by omega
    obtain ⟨j, n, f, hn, hmantissa, hexponent, htarget⟩ := exists_target hlo hhi hleast
    have hvalue : (n * 2 ^ f : ℚ) = shortened m k * 2 ^ (e + k) := by
      rw [← hmantissa, ← hexponent, zpow_add₀ two_ne_zero, zpow_neg, zpow_natCast]
      push_cast
      field_simp
    refine ⟨n, f, hn, round_eq_of_shortened s hn hk hmantissa hexponent htarget, htarget, ?_⟩
    rw [hvalue]
    exact shortened_error hm hlog e

/-! ### Packing -/

/-- An unpacked double that is a real number, with the exponent that rounding aims at. -/
def Canonical : UnpackedFloat → Prop
  | .zero _ => True
  | .finite _ m e _ => Format.binary64.targetExponent (totalExponent m e) = e ∧ e ≤ 971
  | .infinity _ | .notANumber => False

theorem exponent_le_of_unpack {b : BitVec Format.binary64.numBits} {s : Sign} {m : ℕ} {e : ℤ}
    {h : 0 < m} (hb : UnpackedFloat.unpack .binary64 b = .finite s m e h) : e ≤ 971 := by
  have hlt : (unpackExponent b).toNat < 2 ^ 11 := (unpackExponent b).isLt
  unfold UnpackedFloat.unpack at hb
  dsimp only at hb
  split at hb
  · split at hb <;> cases hb
  · next hne =>
    -- the greatest exponent is kept for what is no real number
    have htop : (unpackExponent b).toNat ≠ 2047 := fun h => hne (BitVec.eq_of_toNat_eq h)
    split at hb
    · next hzero =>
      split at hb
      · cases hb
      · simp only [UnpackedFloat.finite.injEq] at hb
        obtain ⟨-, -, rfl⟩ := hb
        rw [hzero]
        decide
    · simp only [UnpackedFloat.finite.injEq] at hb
      obtain ⟨-, -, rfl⟩ := hb
      change ((unpackExponent b).toNat : ℤ) - (1023 + 52) ≤ 971
      omega

/-- A double that is a real number has a canonical form. -/
theorem canonical_unpack {x : Float} (h : Scalar.isFinite x = true) :
    Canonical x.toModel.unpack := by
  rw [isFinite_eq] at h
  cases hx : x.toModel.unpack with
  | notANumber =>
    rw [hx] at h
    cases h
  | infinity s =>
    rw [hx] at h
    cases h
  | zero s => trivial
  | finite s m e hm => exact ⟨targetExponent_of_unpack hx, exponent_le_of_unpack hx⟩

/-- The leading bit of a mantissa of 53 bits is left out and put back. -/
theorem unpack_packComponents_of_normal (s : Sign) {m b : ℕ} (hlo : 2 ^ 52 ≤ m) (hlt : m < 2 ^ 53)
    (hpos : 0 < b) (hfits : b < 2047) (hm : 0 < m) :
    UnpackedFloat.unpack .binary64
      (packComponents .binary64 s (BitVec.ofNat 11 b) (BitVec.ofNat 52 m)) =
        .finite s m (b - 1075) hm := by
  have hexponent : (BitVec.ofNat 11 b).toNat = b := Nat.mod_eq_of_lt (by omega)
  have hne {c : BitVec 11} (hc : b ≠ c.toNat) : BitVec.ofNat 11 b ≠ c :=
    fun h => hc (hexponent.symm.trans (congrArg BitVec.toNat h))
  have htop : BitVec.ofNat 11 b ≠ -1#11 := hne hfits.ne
  have hzero : BitVec.ofNat 11 b ≠ 0#11 := hne hpos.ne'
  have hmantissa : (1#1 ++ BitVec.ofNat 52 m).toNat = m := by
    rw [BitVec.toNat_append, ← Nat.shiftLeft_add_eq_or_of_lt (BitVec.isLt _)]
    change 1 <<< 52 + m % 2 ^ 52 = m
    omega
  unfold UnpackedFloat.unpack
  simp only [unpackMantissa_packComponents, unpackExponent_packComponents,
    unpackSign_packComponents, Sign.ofBitVec_toBitVec, htop, hzero, if_false]
  simp only [UnpackedFloat.finite.injEq]
  refine ⟨trivial, hmantissa, ?_⟩
  change ((BitVec.ofNat 11 b).toNat : ℤ) - (1023 + 52) = b - 1075
  rw [hexponent]
  rfl

/-- A shorter mantissa is kept with the least exponent. -/
theorem unpack_packComponents_of_short (s : Sign) {m : ℕ} (hlt : m < 2 ^ 52) (hm : 0 < m) :
    UnpackedFloat.unpack .binary64 (packComponents .binary64 s 0#11 (BitVec.ofNat 52 m)) =
      .finite s m (-1074) hm := by
  have hmantissa : (BitVec.ofNat 52 m).toNat = m := Nat.mod_eq_of_lt hlt
  have hzero : BitVec.ofNat 52 m ≠ 0#52 :=
    fun h => hm.ne' (hmantissa.symm.trans (congrArg BitVec.toNat h))
  have htop : 0#11 ≠ -1#11 := by decide
  unfold UnpackedFloat.unpack
  simp only [unpackMantissa_packComponents, unpackExponent_packComponents,
    unpackSign_packComponents, Sign.ofBitVec_toBitVec, htop, hzero, if_false]
  rw [if_pos trivial, dif_neg not_false]
  simp only [UnpackedFloat.finite.injEq]
  exact ⟨trivial, hmantissa, rfl⟩

/-- Packing keeps a canonical double. -/
theorem unpack_pack {u : UnpackedFloat} (h : Canonical u) : (Float.Model.pack u).unpack = u := by
  cases u with
  | notANumber | infinity => exact h.elim
  | zero s => cases s <;> rfl
  | finite s m e hm =>
    obtain ⟨htarget, hle⟩ := h
    rw [targetExponent_eq, totalExponent] at htarget
    obtain ⟨b, hb⟩ : ∃ b : ℕ, e + 1023 + 52 = b := ⟨(e + 1075).toNat, by omega⟩
    have hbits : UnpackedFloat.pack .binary64 (.finite s m e hm) =
        if m.log2 + 1 = 53 then packComponents .binary64 s (BitVec.ofNat 11 b) (BitVec.ofNat 52 m)
        else packComponents .binary64 s 0#11 (BitVec.ofNat 52 m) := by
      have hfits : ¬ 2 ^ 11 ≤ b + 1 := by omega
      change (if 2 ^ 11 ≤ (e + 1023 + 52).toNat + 1 then _ else if m.log2 + 1 = 53 then
        packComponents .binary64 s (BitVec.ofNat 11 (e + 1023 + 52).toNat) _ else _) = _
      rw [hb, Int.toNat_natCast, if_neg hfits]
    change UnpackedFloat.unpack .binary64 (UnpackedFloat.pack .binary64 _) = _
    rw [hbits]
    split
    · obtain rfl : e = b - 1075 := by omega
      have hlo : 2 ^ 52 ≤ m := (Nat.le_log2 hm.ne').mp (by omega)
      have hlt : m < 2 ^ 53 := (Nat.log2_lt hm.ne').mp (by omega)
      exact unpack_packComponents_of_normal s hlo hlt (by omega) (by omega) hm
    · obtain rfl : e = -1074 := by omega
      have hlt : m < 2 ^ 52 := (Nat.log2_lt hm.ne').mp (by omega)
      exact unpack_packComponents_of_short s hlt hm

/-! ### Sums and differences -/

/-- What is below the largest doubles is rounded to a canonical double. -/
theorem round_error (s : Sign) {m : ℕ} {e : ℤ} (hm : 0 < m) (he : -1074 ≤ e)
    (hsmall : (m * 2 ^ e : ℚ) ≤ 2 ^ (1023 : ℤ)) :
    Canonical (UnpackedFloat.round .binary64 s m e) ∧
      |rational (UnpackedFloat.round .binary64 s m e) - s.apply m * 2 ^ e| ≤
        m * 2 ^ e / 2 ^ 53 := by
  obtain ⟨n, f, hn, hround, htarget, herror⟩ := exists_round_eq s hm he
  rw [hround]
  constructor
  · refine ⟨htarget, ?_⟩
    have hlt : (2 : ℚ) ^ (n.log2 + f) < 2 ^ (1023 + 1 : ℤ) := by
      have hle := (two_zpow_le hn f).trans (sub_le_iff_le_add.mp (abs_le.mp herror).2)
      have hpos : (0 : ℚ) < 2 ^ (1023 : ℤ) := zpow_pos two_pos _
      rw [zpow_add_one₀ two_ne_zero]
      generalize (2 : ℚ) ^ (1023 : ℤ) = bound at hsmall hpos ⊢
      linarith
    have hexponent := (zpow_lt_zpow_iff_right₀ one_lt_two).mp hlt
    rw [targetExponent_eq, totalExponent] at htarget
    omega
  · cases s with
    | positive => exact herror
    | negative =>
      have hneg : rational (.finite .negative n f hn) - (Sign.negative.apply m : ℤ) * 2 ^ e =
          -(n * 2 ^ f - m * 2 ^ e) := by
        simp only [rational, Sign.apply]
        push_cast
        ring
      rw [hneg, abs_neg]
      exact herror

theorem normalize_error (m e : ℤ) (z : Sign) (he : -1074 ≤ e)
    (hsmall : |(m * 2 ^ e : ℚ)| ≤ 2 ^ (1023 : ℤ)) :
    Canonical (UnpackedFloat.normalize .binary64 m e z) ∧
      |rational (UnpackedFloat.normalize .binary64 m e z) - m * 2 ^ e| ≤
        |(m * 2 ^ e : ℚ)| / 2 ^ 53 := by
  have hunit : (0 : ℚ) < 2 ^ e := zpow_pos two_pos e
  have habs : |(m * 2 ^ e : ℚ)| = m.natAbs * 2 ^ e := by
    rw [abs_mul, abs_of_pos hunit, Nat.cast_natAbs, Int.cast_abs]
  rw [habs] at hsmall ⊢
  unfold UnpackedFloat.normalize
  rcases lt_trichotomy m 0 with hm | rfl | hm
  · rw [compare_lt_iff_lt.mpr hm]
    dsimp only
    obtain ⟨n, rfl⟩ : ∃ n : ℕ, m = -n := ⟨m.natAbs, by omega⟩
    rw [neg_neg, Int.toNat_natCast, Int.natAbs_neg, Int.natAbs_natCast] at *
    exact round_error .negative (by omega) he hsmall
  · exact ⟨trivial, by simp [rational]⟩
  · rw [compare_gt_iff_gt.mpr hm]
    dsimp only
    obtain ⟨n, rfl⟩ : ∃ n : ℕ, m = n := ⟨m.natAbs, by omega⟩
    rw [Int.toNat_natCast, Int.natAbs_natCast] at *
    exact round_error .positive (by omega) he hsmall

theorem apply_shiftLeft (s : Sign) (m k : ℕ) (e : ℤ) :
    ((s.apply (m <<< k : ℕ) : ℤ) * 2 ^ e : ℚ) = (s.apply m : ℤ) * 2 ^ (e + k) := by
  rw [zpow_add₀ two_ne_zero, zpow_natCast, Nat.shiftLeft_eq]
  cases s with
  | positive =>
    simp only [Sign.apply]
    push_cast
    ring
  | negative =>
    simp only [Sign.apply]
    push_cast
    ring

theorem apply_neg (s : Sign) (n : ℤ) : (-s).apply n = -s.apply n := by
  cases s with
  | positive => rfl
  | negative => exact (neg_neg n).symm

theorem rational_neg (u : UnpackedFloat) : rational u.neg = -rational u := by
  cases u with
  | notANumber | infinity | zero => exact neg_zero.symm
  | finite s m e h =>
    change ((-s).apply m : ℚ) * 2 ^ e = _
    rw [apply_neg, Int.cast_neg, neg_mul]
    rfl

/-- A difference is worked out over the lesser exponent and rounded. -/
theorem finite_sub_error {s t : Sign} {m n : ℕ} {e f : ℤ} {hm : 0 < m} {hn : 0 < n}
    (he : -1074 ≤ e) (hf : -1074 ≤ f)
    (hsmall : |rational (.finite s m e hm) - rational (.finite t n f hn)| ≤ 2 ^ (1023 : ℤ)) :
    Canonical (UnpackedFloat.sub .binary64 (.finite s m e hm) (.finite t n f hn)) ∧
      |rational (UnpackedFloat.sub .binary64 (.finite s m e hm) (.finite t n f hn)) -
          (rational (.finite s m e hm) - rational (.finite t n f hn))| ≤
        |rational (.finite s m e hm) - rational (.finite t n f hn)| / 2 ^ 53 := by
  obtain ⟨k, hk⟩ : ∃ k : ℕ, e = min e f + k := ⟨(e - min e f).toNat, by omega⟩
  obtain ⟨j, hj⟩ : ∃ j : ℕ, f = min e f + j := ⟨(f - min e f).toNat, by omega⟩
  have hvalue : rational (.finite s m e hm) - rational (.finite t n f hn) =
      ((s.apply (m <<< k : ℕ) - t.apply (n <<< j : ℕ) : ℤ) * 2 ^ min e f : ℚ) := by
    rw [Int.cast_sub, sub_mul, apply_shiftLeft, apply_shiftLeft, ← hk, ← hj]
    rfl
  rw [hvalue] at hsmall ⊢
  have herror := normalize_error _ _ .positive (le_min he hf) hsmall
  unfold UnpackedFloat.sub decreaseExponent
  dsimp only
  rwa [show (e - min e f).toNat = k by omega, show (f - min e f).toNat = j by omega]

theorem least_le_exponent {s : Sign} {m : ℕ} {e : ℤ} {hm : 0 < m}
    (h : Canonical (.finite s m e hm)) : -1074 ≤ e := by
  have he := h.1
  rw [targetExponent_eq] at he
  omega

/-- A difference from zero, or of zero, is not rounded. -/
theorem sub_error {u v : UnpackedFloat} (hu : Canonical u) (hv : Canonical v)
    (hsmall : |rational u - rational v| ≤ 2 ^ (1023 : ℤ)) :
    Canonical (UnpackedFloat.sub .binary64 u v) ∧
      |rational (UnpackedFloat.sub .binary64 u v) - (rational u - rational v)| ≤
        |rational u - rational v| / 2 ^ 53 := by
  have hexact {w : UnpackedFloat} (hw : Canonical w) (heq : rational w = rational u - rational v) :
      Canonical w ∧ |rational w - (rational u - rational v)| ≤
        |rational u - rational v| / 2 ^ 53 := by
    rw [heq, sub_self, abs_zero]
    exact ⟨hw, by positivity⟩
  cases u with
  | notANumber | infinity => exact hu.elim
  | zero s =>
    cases v with
    | notANumber | infinity => exact hv.elim
    | zero t =>
      unfold UnpackedFloat.sub
      dsimp only
      split
      · exact hexact trivial (sub_zero _).symm
      · exact hexact trivial (sub_zero _).symm
    | finite t n f hn =>
      have hnegated := rational_neg (.finite t n f hn)
      exact hexact hv (hnegated.trans (zero_sub _).symm)
  | finite s m e hm =>
    cases v with
    | notANumber | infinity => exact hv.elim
    | zero t => exact hexact hu (sub_zero _).symm
    | finite t n f hn =>
      exact finite_sub_error (least_le_exponent hu) (least_le_exponent hv) hsmall

theorem isFinite_of_canonical {u : UnpackedFloat} (h : Canonical u) :
    Scalar.isFinite (⟨Float.Model.pack u⟩ : Float) = true := by
  rw [isFinite_eq, unpack_pack h]
  cases u with
  | notANumber | infinity => exact h.elim
  | zero | finite => rfl

/-- A difference of doubles is a double, off by at most one part in `2 ^ 53`. -/
theorem value_sub {x y : Float} (hx : Scalar.isFinite x = true) (hy : Scalar.isFinite y = true)
    (hsmall : |value x - value y| ≤ 2 ^ (1023 : ℤ)) :
    Scalar.isFinite (x - y) = true ∧
      |value (x - y) - (value x - value y)| ≤ |value x - value y| / 2 ^ 53 := by
  obtain ⟨hcanonical, herror⟩ := sub_error (canonical_unpack hx) (canonical_unpack hy) hsmall
  rw [sub_eq]
  refine ⟨isFinite_of_canonical hcanonical, ?_⟩
  rw [value, unpack_pack hcanonical]
  exact herror

/-- Of two numbers the one with the lesser exponent is the lesser. -/
theorem lt_of_exponent_lt {m n : ℕ} {e f : ℤ} (hn : 0 < n)
    (he : Format.binary64.targetExponent (totalExponent m e) = e)
    (hf : Format.binary64.targetExponent (totalExponent n f) = f) (h : e < f) :
    (m * 2 ^ e : ℚ) < n * 2 ^ f := by
  have hexponents : totalExponent m e ≤ n.log2 + f := by
    rw [targetExponent_eq] at he hf
    unfold totalExponent at *
    omega
  calc (m * 2 ^ e : ℚ) < 2 ^ totalExponent m e := lt_two_zpow m e
    _ ≤ 2 ^ (n.log2 + f) := zpow_le_zpow_right₀ one_le_two hexponents
    _ ≤ n * 2 ^ f := two_zpow_le hn f

theorem isLE_compare_iff {m n : ℕ} {e f : ℤ} (hm : 0 < m) (hn : 0 < n)
    (he : Format.binary64.targetExponent (totalExponent m e) = e)
    (hf : Format.binary64.targetExponent (totalExponent n f) = f) :
    ((compare e f).then (compare m n)).isLE = true ↔ (m * 2 ^ e : ℚ) ≤ n * 2 ^ f := by
  rcases lt_trichotomy e f with h | rfl | h
  · rw [compare_lt_iff_lt.mpr h]
    exact iff_of_true rfl (lt_of_exponent_lt hn he hf h).le
  · rw [compare_eq_iff_eq.mpr rfl, mul_le_mul_iff_of_pos_right (zpow_pos two_pos e), Nat.cast_le]
    exact Nat.isLE_compare
  · rw [compare_gt_iff_gt.mpr h]
    exact iff_of_false Bool.false_ne_true (not_le.mpr (lt_of_exponent_lt hm hf he h))

theorem rational_positive {m : ℕ} {e : ℤ} (h : 0 < m) :
    rational (.finite .positive m e h) = m * 2 ^ e := rfl

theorem rational_negative {m : ℕ} {e : ℤ} (h : 0 < m) :
    rational (.finite .negative m e h) = -(m * 2 ^ e) :=
  rational_neg (.finite .positive m e h)

theorem unpacked_le_iff {u v : UnpackedFloat} (hu : Canonical u) (hv : Canonical v) :
    UnpackedFloat.le u v = true ↔ rational u ≤ rational v := by
  have hpos {m : ℕ} (hm : 0 < m) (e : ℤ) : (0 : ℚ) < m * 2 ^ e :=
    mul_pos (Nat.cast_pos.mpr hm) (zpow_pos two_pos e)
  cases u with
  | notANumber | infinity => exact hu.elim
  | zero s =>
    change _ ↔ 0 ≤ rational v
    cases v with
    | notANumber | infinity => exact hv.elim
    | zero t => exact iff_of_true rfl le_rfl
    | finite t n f hn =>
      cases t with
      | positive => exact iff_of_true rfl (hpos hn f).le
      | negative =>
        rw [rational_negative]
        exact iff_of_false Bool.false_ne_true (not_le.mpr (neg_neg_of_pos (hpos hn f)))
  | finite s m e hm =>
    cases v with
    | notANumber | infinity => exact hv.elim
    | zero t =>
      change _ ↔ _ ≤ (0 : ℚ)
      cases s with
      | positive => exact iff_of_false Bool.false_ne_true (not_le.mpr (hpos hm e))
      | negative =>
        rw [rational_negative]
        exact iff_of_true rfl (neg_nonpos_of_nonneg (hpos hm e).le)
    | finite t n f hn =>
      cases s with
      | positive =>
        rw [rational_positive]
        cases t with
        | positive => exact isLE_compare_iff hm hn hu.1 hv.1
        | negative =>
          rw [rational_negative]
          refine iff_of_false Bool.false_ne_true (not_le.mpr ?_)
          exact (neg_neg_of_pos (hpos hn f)).trans (hpos hm e)
      | negative =>
        rw [rational_negative]
        cases t with
        | positive =>
          rw [rational_positive]
          exact iff_of_true rfl ((neg_neg_of_pos (hpos hm e)).trans (hpos hn f)).le
        | negative =>
          rw [rational_negative, neg_le_neg_iff, ← isLE_compare_iff hn hm hv.1 hu.1]
          change ((compare e f).then (compare m n)).swap.isLE = true ↔ _
          rw [Ordering.swap_then, Int.compare_swap, Nat.compare_swap]

/-- Doubles are compared as the numbers that they stand for. -/
theorem le_iff_value_le {x y : Float} (hx : Scalar.isFinite x = true)
    (hy : Scalar.isFinite y = true) : x ≤ y ↔ value x ≤ value y := by
  rw [value, value, ← unpacked_le_iff (canonical_unpack hx) (canonical_unpack hy)]
  change decide (UnpackedFloat.le x.toModel.unpack y.toModel.unpack = true) = true ↔ _
  exact decide_eq_true_iff

end Double

end StudyPower
