import Mathlib
import StudyPower.Proofs.Contrast.Size
import StudyPower.Proofs.Failure

/-!
# What a contrast can be refused for

A contrast that cannot be built is refused with a fault that says that the design is invalid.  Two
other causes are left when the declared values have the types that they should have: a number or an
array that the scalars cannot hold, and points whose polynomials are no real numbers.

## Main definitions

* `Fault.IsOversize`, `Scalar.Bounded` — the faults about numbers and arrays that are too large, and
  the scalars that have them.
* `Fault.IsRefusal` — the design is invalid or too large for the scalars.
* `Polynomial.Overflows xs` — a power of the standardized points `xs` is no real number.

## Main statements

* `checkShape_failsWith`, `average_failsWith`, `mainEffect_failsWith`, `trend_failsWith` — what the
  blocks of a contrast fail with.
* `testedBlocks_failsWith` — **what a hypothesis puts under test fails with a refusal, or with
  points of a mapped name that overflow.**
-/

namespace StudyPower

open Except Contrast

variable {α : Type}

/-- The fault is about a number or an array that is too large. -/
def Fault.IsOversize : Fault α → Prop
  | .integerTooLarge | .sizeTooLarge | .arrayTooLarge | .noStorage .. => True
  | _ => False

/-- Some integer is too large for the scalars, or arrays of them take storage. -/
def Scalar.Bounded (α : Type) [Scalar α] : Prop :=
  Scalar.entrySize α ≠ 0 ∨ ∃ n : ℤ, Scalar.isInfinite (n : α) = true

variable [Scalar α]

/-- The fault says that the design is invalid, or that it is too large for bounded scalars. -/
def Fault.IsRefusal (f : Fault α) : Prop :=
  f.isInvalidDesign = true ∨ f.IsOversize ∧ Scalar.Bounded α

/-! ### Numbers and shapes -/

theorem realOfInt_failsWith (n : ℤ) :
    FailsWith Fault.IsRefusal (Datum.realOfInt n : Except (Fault α) α) := by
  unfold Datum.realOfInt
  dsimp only
  split
  · next h => exact FailsWith.error (.inr ⟨trivial, .inr ⟨n, h⟩⟩)
  · exact FailsWith.ok _

omit [Scalar α] in
theorem checkStorage_failsWith (storage side : ℤ) :
    FailsWith (fun f => f = .negativeSize ∧ side < 0 ∨ f = .arrayTooLarge ∧ storage ≠ 0)
      (checkStorage storage side : Except (Fault α) ℤ) := by
  unfold checkStorage
  split
  · exact FailsWith.ok _
  · split
    · next hneg => exact FailsWith.error (.inl ⟨rfl, hneg⟩)
    · split
      · next hlarge =>
        refine FailsWith.error (.inr ⟨rfl, ?_⟩)
        -- no number of entries without storage exceeds the limit
        rintro rfl
        rw [zero_mul] at hlarge
        exact absurd hlarge (by decide)
      · exact FailsWith.ok _

omit [Scalar α] in
theorem checkStorage_zero_of_ok {side s : ℤ}
    (h : checkStorage 0 side = (.ok s : Except (Fault α) ℤ)) : s = 0 := by
  unfold checkStorage at h
  split at h
  · exact (Except.ok.inj h).symm
  · split at h
    · cases h
    · split at h
      · cases h
      · rw [← Except.ok.inj h, zero_mul]

omit [Scalar α] in
/-- Where entries take no storage, neither do arrays. -/
theorem storage_eq_zero_of_ok {sides : List ℤ} {s : ℤ}
    (h : sides.foldlM checkStorage 0 = (.ok s : Except (Fault α) ℤ)) : s = 0 := by
  induction sides with
  | nil => exact (Except.ok.inj h).symm
  | cons side sides ih =>
    rw [List.foldlM_cons] at h
    obtain ⟨t, ht, h⟩ := Except.bind_eq_ok_iff.mp h
    obtain rfl := checkStorage_zero_of_ok ht
    exact ih h

omit [Scalar α] in
/-- The storage of an array is refused when it is too large, and when a side is negative. -/
theorem storage_failsWith {sides : List ℤ} {entry : ℤ} :
    FailsWith (fun f => f = .negativeSize ∧ (∃ side ∈ sides, side < 0) ∨
      f = .arrayTooLarge ∧ entry ≠ 0)
      (sides.foldlM checkStorage entry : Except (Fault α) ℤ) := by
  induction sides generalizing entry with
  | nil => exact FailsWith.pure _
  | cons side sides ih =>
    rw [List.foldlM_cons]
    refine FailsWith.bind ((checkStorage_failsWith _ _).mono ?_) fun s hs => ih.mono ?_
    · rintro f (⟨rfl, hneg⟩ | ⟨rfl, hne⟩)
      · exact .inl ⟨rfl, side, List.mem_cons_self .., hneg⟩
      · exact .inr ⟨rfl, hne⟩
    · rintro f (⟨rfl, t, ht, hneg⟩ | ⟨rfl, hne⟩)
      · exact .inl ⟨rfl, t, List.mem_cons_of_mem _ ht, hneg⟩
      · refine .inr ⟨rfl, ?_⟩
        rintro rfl
        exact hne (checkStorage_zero_of_ok hs)

/-- A shape is refused when it is too large, and when a side is negative. -/
theorem checkShape_failsWith (r c : ℤ) :
    FailsWith (fun f => f.IsRefusal ∨ f = .negativeSize ∧ (r < 0 ∨ c < 0))
      (checkShape r c : Except (Fault α) (ℕ × ℕ)) := by
  unfold checkShape
  dsimp only
  split
  · next hlarge =>
    refine FailsWith.throw_bind (.inl (.inr ⟨trivial, .inl fun hzero => ?_⟩))
    simp [hzero] at hlarge
  · refine FailsWith.bind (storage_failsWith.mono ?_) fun storage hstorage => ?_
    · rintro f (⟨rfl, side, hside, hneg⟩ | ⟨rfl, hne⟩)
      · simp only [List.mem_cons, List.not_mem_nil, or_false] at hside
        rcases hside with rfl | rfl
        · exact .inr ⟨rfl, .inl hneg⟩
        · exact .inr ⟨rfl, .inr hneg⟩
      · exact .inl (.inr ⟨trivial, .inl fun h => hne (by rw [h]; rfl)⟩)
    · split
      · next hlarge =>
        refine FailsWith.throw_bind (.inl (.inr ⟨trivial, .inl fun h => ?_⟩))
        rw [h] at hstorage
        rw [storage_eq_zero_of_ok hstorage] at hlarge
        exact absurd hlarge (by decide)
      · exact FailsWith.pure _

/-- A shape without a negative side is refused only when it is too large. -/
theorem checkShape_failsWith_of_nonneg {r c : ℤ} (hr : 0 ≤ r) (hc : 0 ≤ c) :
    FailsWith Fault.IsRefusal (checkShape r c : Except (Fault α) (ℕ × ℕ)) := by
  refine (checkShape_failsWith r c).mono ?_
  rintro f (hf | ⟨-, hneg⟩)
  · exact hf
  · omega

/-! ### Blocks -/

namespace Contrast

theorem average_failsWith (n : ℤ) :
    FailsWith Fault.IsRefusal (average (.int n : Datum α)) := by
  unfold average
  rw [Datum.isBelow_int]
  refine FailsWith.bind (FailsWith.ok _) fun below hbelow => ?_
  obtain rfl := Except.ok.inj hbelow
  split
  · exact FailsWith.throw_bind (.inl rfl)
  · next hn =>
    rw [decide_eq_true_iff, not_lt] at hn
    refine FailsWith.bind (FailsWith.ok _) fun k hk => ?_
    obtain rfl := Except.ok.inj hk
    refine FailsWith.bind (realOfInt_failsWith _).map fun share _ => ?_
    exact FailsWith.bind (checkShape_failsWith_of_nonneg (by omega) (by omega)) fun _ _ =>
      FailsWith.pure _

theorem mainEffect_failsWith (n : ℤ) :
    FailsWith Fault.IsRefusal (mainEffect (.int n : Datum α)) := by
  unfold mainEffect
  rw [Datum.isBelow_int]
  refine FailsWith.bind (FailsWith.ok _) fun below hbelow => ?_
  obtain rfl := Except.ok.inj hbelow
  split
  · exact FailsWith.throw_bind (.inl rfl)
  · next hn =>
    rw [decide_eq_true_iff, not_lt] at hn
    refine FailsWith.bind (FailsWith.ok _) fun k hk => ?_
    obtain rfl := Except.ok.inj hk
    exact FailsWith.bind (checkShape_failsWith_of_nonneg (by omega) (by omega)) fun _ _ =>
      FailsWith.pure _

end Contrast

/-! ### Polynomials -/

/-- A power of the standardized points is no real number. -/
def Polynomial.Overflows (xs : List α) : Prop :=
  (Polynomial.powers (Polynomial.standardize xs)).toList.all Scalar.isFinite = false

namespace Polynomial

theorem basis_failsWith (xs : List α) :
    FailsWith (fun f => f = .nonFiniteLevels ∧ Overflows xs) (basis xs) := by
  unfold basis
  dsimp only
  split
  · exact FailsWith.ok _
  · next h => exact FailsWith.error ⟨rfl, Bool.eq_false_iff.mpr h⟩

omit [Scalar α] in
/-- Integers are degrees, and name columns. -/
theorem columnsOf_of_int {k : ℕ} {degrees : List (Datum α)}
    (h : ∀ d ∈ degrees, ∃ n, d = .int n) : FailsWith (fun _ => False) (columnsOf k degrees) := by
  unfold columnsOf
  split
  · next hmarks =>
    -- an integer is no truth value, so there is no degree
    rw [Bool.and_eq_true, List.all_eq_true] at hmarks
    cases degrees with
    | nil => simp at hmarks
    | cons d degrees =>
      obtain ⟨n, rfl⟩ := h d (List.mem_cons_self ..)
      exact absurd (hmarks.2 _ (List.mem_cons_self ..)) (by simp [Datum.bool?])
  · refine FailsWith.mapM fun d hd => ?_
    obtain ⟨n, rfl⟩ := h d hd
    exact FailsWith.ok _

/-- Polynomials of degrees that are integers are refused, or the points overflow. -/
theorem block_failsWith {xs : List α} {degrees : List (Datum α)}
    (h : ∀ d ∈ degrees, ∃ n, d = .int n) :
    FailsWith (fun f => f.IsRefusal ∨ f = .nonFiniteLevels ∧ Overflows xs) (block xs degrees) := by
  unfold block
  refine FailsWith.bind (FailsWith.forM fun d hd => ?_) fun _ _ => ?_
  · obtain ⟨n, rfl⟩ := h d hd
    unfold checkDegree
    refine FailsWith.bind (FailsWith.ok _) fun below _ => FailsWith.bind (FailsWith.ok _) ?_
    intro above _
    split
    · exact FailsWith.throw (.inl (.inl rfl))
    · exact FailsWith.pure _
  · split
    · refine FailsWith.bind ((basis_failsWith xs).mono fun f hf => .inr hf) fun values _ => ?_
      refine FailsWith.bind ((columnsOf_of_int h).mono fun f hf => hf.elim) fun columns _ => ?_
      exact FailsWith.pure _
    · exact FailsWith.error (.inl (.inl rfl))

end Polynomial

/-! ### Blocks under test -/

/-- The points are counted, and their values are numbers unless these are too large. -/
structure Points.Regular (points : Points α) : Prop where
  /-- The points are counted. -/
  count : ∃ k, points.count = .ok k
  /-- Their values are numbers. -/
  values : FailsWith Fault.IsRefusal points.values

theorem Contrast.trend_failsWith {t : Trend} {points : Points α} (h : points.Regular) :
    FailsWith (fun f => f.IsRefusal ∨
      f = .nonFiniteLevels ∧ ∃ xs, points.values = .ok xs ∧ Polynomial.Overflows xs)
      (trend t points) := by
  obtain ⟨k, hk⟩ := h.count
  have hpolynomial : ∀ degrees : List (Datum α), (∀ d ∈ degrees, ∃ n, d = .int n) →
      FailsWith (fun f => f.IsRefusal ∨
        f = .nonFiniteLevels ∧ ∃ xs, points.values = .ok xs ∧ Polynomial.Overflows xs)
        (points.values >>= fun xs => Polynomial.block xs degrees) := by
    intro degrees hdegrees
    refine FailsWith.bind (h.values.mono fun f hf => .inl hf) fun xs hxs => ?_
    refine (Polynomial.block_failsWith hdegrees).mono ?_
    rintro f (hf | ⟨rfl, hoverflow⟩)
    · exact .inl hf
    · exact .inr ⟨rfl, xs, hxs, hoverflow⟩
  unfold trend
  refine FailsWith.bind (by rw [hk]; exact FailsWith.ok k) fun k' _ => ?_
  cases t with
  | none => exact (mainEffect_failsWith _).mono fun f hf => .inl hf
  | changeFromBaseline =>
    refine FailsWith.bind ((mainEffect_failsWith _).mono fun f hf => .inl hf) fun b _ => ?_
    exact FailsWith.pure _
  | allPolynomial =>
    refine hpolynomial _ fun d hd => ?_
    obtain ⟨i, -, rfl⟩ := List.mem_map.mp hd
    exact ⟨_, rfl⟩
  | linear => exact hpolynomial _ (by simp)
  | quadratic => exact hpolynomial _ (by simp)
  | cubic => exact hpolynomial _ (by simp)

/-- Every name is looked up to an integer count of levels and to points with numbers as values, or
is refused. -/
structure Levels.Regular (levels : Levels α) : Prop where
  /-- The number of levels of a name is refused at worst. -/
  count : ∀ name, FailsWith Fault.IsRefusal (levels.count name)
  /-- It is an integer. -/
  integer : ∀ name k, levels.count name = .ok k → ∃ n, k = .int n
  /-- The points of a name are refused at worst. -/
  points : ∀ name, FailsWith Fault.IsRefusal (levels.points name)
  /-- Their values are numbers. -/
  values : ∀ name p, levels.points name = .ok p → p.Regular

/-- Points of a mapped name overflow. -/
def OverflowsAt (levels : Levels α) (mappings : List (EffectMapping α)) : Prop :=
  ∃ m ∈ mappings, ∃ p xs, levels.points m.target = .ok p ∧ p.values = .ok xs ∧
    Polynomial.Overflows xs

theorem comparison_failsWith {levels : Levels α} (h : levels.Regular)
    {mappings : List (EffectMapping α)} {m : EffectMapping α} (hm : m ∈ mappings)
    (hknown : ∃ t, m.trend = .known t) :
    FailsWith (fun f => f.IsRefusal ∨ f = .nonFiniteLevels ∧ OverflowsAt levels mappings)
      (comparison levels m) := by
  obtain ⟨t, ht⟩ := hknown
  unfold comparison
  refine FailsWith.bind ((h.points _).mono fun f hf => .inl hf) fun p hp => ?_
  rw [ht]
  refine FailsWith.bind (FailsWith.ok t) fun t' _ => ?_
  refine (trend_failsWith (h.values _ p hp)).mono ?_
  rintro f (hf | ⟨rfl, xs, hxs, hoverflow⟩)
  · exact .inl hf
  · exact .inr ⟨rfl, m, hm, p, xs, hp, hxs, hoverflow⟩

/-- **What a hypothesis puts under test fails with a refusal, or with points of a mapped name that
overflow.** -/
theorem testedBlocks_failsWith {levels : Levels α} (h : levels.Regular) {kind : HypothesisKind}
    {mappings : List (EffectMapping α)} (hknown : ∀ m ∈ mappings, ∃ t, m.trend = .known t) :
    FailsWith (fun f => f.IsRefusal ∨ f = .nonFiniteLevels ∧ OverflowsAt levels mappings)
      (testedBlocks levels kind mappings) := by
  cases mappings with
  | nil =>
    have hnil : testedBlocks levels kind [] = .ok [] := by cases kind <;> rfl
    rw [hnil]
    exact FailsWith.ok _
  | cons first rest =>
    have hfirst : first ∈ first :: rest := List.mem_cons_self ..
    have heffect : FailsWith
        (fun f => f.IsRefusal ∨ f = .nonFiniteLevels ∧ OverflowsAt levels (first :: rest))
        (do return [(first.target, ← mainEffect (← levels.count first.target))] :
          Except (Fault α) (Blocks α)) := by
      refine FailsWith.bind ((h.count _).mono fun f hf => .inl hf) fun k hk => ?_
      obtain ⟨n, rfl⟩ := h.integer _ k hk
      refine FailsWith.bind ((mainEffect_failsWith n).mono fun f hf => .inl hf) fun b _ => ?_
      exact FailsWith.pure _
    cases kind with
    | mainEffect => exact heffect
    | manova => exact heffect
    | trend =>
      exact FailsWith.bind (comparison_failsWith h hfirst (hknown _ hfirst)) fun b _ =>
        FailsWith.pure _
    | interaction =>
      refine FailsWith.foldlM fun tested m hm => ?_
      exact FailsWith.bind (comparison_failsWith h hm (hknown m hm)) fun b _ => FailsWith.pure _

/-! ### Factors and dimensions -/

theorem Points.regular_equallySpaced (n : ℤ) : (Points.equallySpaced n : Points α).Regular :=
  ⟨⟨_, rfl⟩, FailsWith.ok _⟩

/-- Names of factors are looked up to what they declare. -/
theorem regular_factorLevels (factors : List Factor) :
    (factorLevels factors : Levels α).Regular := by
  have hfind : ∀ name,
      FailsWith Fault.IsRefusal (findFactor name factors : Except (Fault α) Factor) := by
    intro name
    unfold findFactor
    split
    · exact FailsWith.ok _
    · exact FailsWith.error (.inl rfl)
  exact {
    count := fun name => (hfind name).map
    integer := by
      intro name k hk
      obtain ⟨f, -, rfl⟩ := Except.map_eq_ok_iff.mp hk
      exact ⟨_, rfl⟩
    points := fun name => (hfind name).map
    values := by
      intro name p hp
      obtain ⟨f, -, rfl⟩ := Except.map_eq_ok_iff.mp hp
      exact Points.regular_equallySpaced _ }

/-- A dimension declares an integer count of measurements, and numbers as its points. -/
structure RepeatedMeasure.Typed (m : RepeatedMeasure α) : Prop where
  /-- The number of measurements is an integer. -/
  count : ∃ n : ℤ, m.count = .int n
  /-- The points are numbers. -/
  spacing : ∀ ds, m.spacing = some ds → ∀ d ∈ ds, d.real?.isSome

/-- A number is refused as an entry of an array only when it is too large. -/
theorem toEntry_failsWith {d : Datum α} (h : d.real?.isSome) :
    FailsWith Fault.IsRefusal d.toEntry := by
  cases d with
  | bool b => exact FailsWith.ok _
  | int n => exact realOfInt_failsWith n
  | real x => exact FailsWith.ok x
  | null | text | list | record => cases h

theorem RepeatedMeasure.Typed.points {m : RepeatedMeasure α} (h : m.Typed) :
    ∃ p, m.points = .ok p ∧ p.Regular := by
  unfold RepeatedMeasure.points
  cases hds : m.spacing with
  | none =>
    obtain ⟨n, hn⟩ := h.count
    exact ⟨Points.equallySpaced n, by rw [hn]; rfl, Points.regular_equallySpaced n⟩
  | some ds =>
    exact ⟨_, rfl, ⟨_, rfl⟩, FailsWith.mapM fun d hd => toEntry_failsWith (h.spacing ds hds d hd)⟩

/-- Names of dimensions are looked up to what they declare. -/
theorem regular_measureLevels {measures : List (RepeatedMeasure α)}
    (h : ∀ m ∈ measures, m.Typed) : (measureLevels measures).Regular := by
  have hfind : ∀ name, FailsWith Fault.IsRefusal (findMeasure name measures) := by
    intro name
    unfold findMeasure
    split
    · exact FailsWith.ok _
    · exact FailsWith.error (.inl rfl)
  exact {
    count := fun name => (hfind name).map
    integer := by
      intro name k hk
      obtain ⟨m, hm, rfl⟩ := Except.map_eq_ok_iff.mp hk
      exact (h m (mem_of_findMeasure hm).1).count
    points := by
      intro name
      refine FailsWith.bind (hfind name) fun m hm => ?_
      obtain ⟨p, hp, -⟩ := (h m (mem_of_findMeasure hm).1).points
      rw [hp]
      exact FailsWith.ok p
    values := by
      intro name p hp
      obtain ⟨m, hm, hp⟩ := Except.bind_eq_ok_iff.mp hp
      obtain ⟨p', hp', hregular⟩ := (h m (mem_of_findMeasure hm).1).points
      obtain rfl := Except.ok.inj (hp.symm.trans hp')
      exact hregular }

/-! ### Products -/

namespace Contrast

theorem between_failsWith (tested : Blocks α) (factors : List Factor) :
    FailsWith Fault.IsRefusal (between tested factors) := by
  refine FailsWith.bind (FailsWith.mapM fun f _ => ?_) fun blocks _ => FailsWith.pure _
  exact FailsWith.bind (average_failsWith _) fun mean _ => FailsWith.pure _

theorem within_failsWith {measures : List (RepeatedMeasure α)} (h : ∀ m ∈ measures, m.Typed)
    (tested : Blocks α) (responses : List String) :
    FailsWith Fault.IsRefusal (within tested measures responses) := by
  refine FailsWith.bind (FailsWith.mapM fun m hm => ?_) fun blocks _ => FailsWith.pure _
  obtain ⟨n, hn⟩ := (h m hm).count
  unfold measureBlock
  rw [hn]
  exact FailsWith.bind (average_failsWith n) fun mean _ => FailsWith.pure _

omit [Scalar α] in
/-- Integer counts have an integer product, which is negative only when one of them is. -/
theorem exists_outcomeCount {measures : List (RepeatedMeasure α)}
    (h : ∀ m ∈ measures, ∃ n : ℤ, m.count = .int n) (responses : List String) :
    ∃ z, outcomeCount measures responses = .ok z ∧
      (z < 0 → ∃ m ∈ measures, ∃ n < 0, m.count = .int n) := by
  -- the fold starts anywhere: after one dimension it goes on from a product
  have hfold : ∀ k : ℤ, ∃ z,
      measures.foldlM (fun n m => multiply n m.count) (.int k : Datum α) = .ok (.int z) ∧
        (0 ≤ k → z < 0 → ∃ m ∈ measures, ∃ n < 0, m.count = .int n) := by
    induction measures with
    | nil => exact fun k => ⟨k, rfl, fun hk hz => by omega⟩
    | cons m measures ih =>
      intro k
      obtain ⟨n, hn⟩ := h m (List.mem_cons_self ..)
      obtain ⟨z, hz, hneg⟩ := ih (fun m' hm' => h m' (List.mem_cons_of_mem _ hm')) (k * n)
      refine ⟨z, ?_, fun hk hzneg => ?_⟩
      · rw [List.foldlM_cons, hn]
        exact hz
      · by_cases hnneg : n < 0
        · exact ⟨m, List.mem_cons_self .., n, hnneg, hn⟩
        · obtain ⟨m', hm', hrest⟩ := hneg (Int.mul_nonneg hk (by omega)) hzneg
          exact ⟨m', List.mem_cons_of_mem _ hm', hrest⟩
  obtain ⟨z, hz, hneg⟩ := hfold (responseCount responses)
  refine ⟨z, ?_, hneg (Int.natCast_nonneg _)⟩
  unfold outcomeCount
  rw [hz]
  rfl

/-- The identity over all outcomes is refused, unless a dimension has a negative count. -/
theorem withinManova_failsWith {measures : List (RepeatedMeasure α)} (h : ∀ m ∈ measures, m.Typed)
    (responses : List String) :
    FailsWith (fun f => f.IsRefusal ∨
      f = .negativeSize ∧ ∃ m ∈ measures, ∃ n < 0, m.count = .int n)
      (withinManova measures responses) := by
  obtain ⟨z, hz, hneg⟩ := exists_outcomeCount (fun m hm => (h m hm).count) responses
  unfold withinManova
  rw [hz]
  refine FailsWith.bind (FailsWith.ok z) fun z' hz' => ?_
  obtain rfl := Except.ok.inj hz'
  refine FailsWith.bind ((checkShape_failsWith z z).mono ?_) fun _ _ => FailsWith.pure _
  rintro f (hf | ⟨rfl, hside⟩)
  · exact .inl hf
  · exact .inr ⟨rfl, hneg (hside.elim id id)⟩

end Contrast

end StudyPower
