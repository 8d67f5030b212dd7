import Mathlib
import StudyPower.Proofs.Bundle.Conformance
import StudyPower.Proofs.Bundle.Guided
import StudyPower.Proofs.Contrast.Faults
import StudyPower.Proofs.Mat.Product

/-!
# Cell means

The design matrix of cell means repeats a row of the identity for each member of a group.  Which
group a row belongs to is read off the sums of the sizes of the groups before it, so that a group
without members has no row, and the groups are the columns that are orthogonal to each other, each
with its size as its square.

## Main definitions

* `rowOrigins counts` — the group of each row, when group `g` has `counts[g]` rows.
* `InGroup counts g i` — row `i` is one of the rows of group `g`.
* `IsCellMeans X counts` — `X` has a one where the row is in the group, and zeros elsewhere.
* `Scalar.Fits α r c` — an array of these sides can be stored.

## Main statements

* `existsUnique_inGroup` — every row is in one group.
* `isCellMeans_repeatRows` — repeating the rows of an identity gives cell means.
* `IsCellMeans.gram`, `IsCellMeans.eq_identity` — the groups as columns.
* `StudyDesign.designMatrix_by_groups` — **the design matrix of a guided design, for all groups and
  relative sizes.**
-/

namespace StudyPower

open Mat Finset Except

/-! ### The rows of a group -/

/-- The number of rows before those of group `g`. -/
def rowsBefore (counts : List ℕ) (g : ℕ) : ℕ := (counts.take g).sum

/-- Row `i` is one of the rows of group `g`. -/
def InGroup (counts : List ℕ) (g i : ℕ) : Prop :=
  rowsBefore counts g ≤ i ∧ i < rowsBefore counts (g + 1)

instance (counts : List ℕ) (g i : ℕ) : Decidable (InGroup counts g i) :=
  inferInstanceAs (Decidable (_ ∧ _))

theorem rowsBefore_succ {counts : List ℕ} {g : ℕ} (hg : g < counts.length) :
    rowsBefore counts (g + 1) = rowsBefore counts g + counts[g] := by
  rw [rowsBefore, rowsBefore, List.take_succ_eq_append_getElem hg, List.sum_append,
    List.sum_singleton]

theorem rowsBefore_of_length_le {counts : List ℕ} {g : ℕ} (hg : counts.length ≤ g) :
    rowsBefore counts g = counts.sum := by
  rw [rowsBefore, List.take_of_length_le hg]

theorem rowsBefore_append {counts : List ℕ} {g : ℕ} (hg : g ≤ counts.length) (rest : List ℕ) :
    rowsBefore (counts ++ rest) g = rowsBefore counts g := by
  rw [rowsBefore, rowsBefore, List.take_append_of_le_length hg]

/-- The group of each row. -/
def rowOrigins (counts : List ℕ) : List ℕ :=
  ((List.range counts.length).zip counts).flatMap fun (g, n) => List.replicate n g

theorem rowOrigins_append_singleton (counts : List ℕ) (n : ℕ) :
    rowOrigins (counts ++ [n]) = rowOrigins counts ++ List.replicate n counts.length := by
  have hlength : (List.range counts.length).length = counts.length := List.length_range
  rw [rowOrigins, List.length_append, List.length_singleton, List.range_succ,
    List.zip_append hlength, List.flatMap_append]
  simp [rowOrigins]

@[simp] theorem length_rowOrigins (counts : List ℕ) :
    (rowOrigins counts).length = counts.sum := by
  induction counts using List.reverseRecOn with
  | nil => rfl
  | append_singleton counts n ih =>
    rw [rowOrigins_append_singleton, List.length_append, ih, List.length_replicate,
      List.sum_append, List.sum_singleton]

/-- A row of a group comes from that group. -/
theorem getElem?_rowOrigins {counts : List ℕ} {g i : ℕ} (hg : g < counts.length)
    (hi : InGroup counts g i) : (rowOrigins counts)[i]? = some g := by
  induction counts using List.reverseRecOn with
  | nil => exact absurd hg (Nat.not_lt_zero g)
  | append_singleton counts n ih =>
    rw [List.length_append, List.length_singleton] at hg
    rw [rowOrigins_append_singleton]
    obtain ⟨hlo, hhi⟩ := hi
    rcases Nat.lt_or_ge g counts.length with hlt | hge
    · -- a group before the last, whose rows are those that it had without the last
      rw [rowsBefore_append hlt.le] at hlo
      rw [rowsBefore_append hlt] at hhi
      have hin := ih hlt ⟨hlo, hhi⟩
      obtain ⟨hbound, -⟩ := List.getElem?_eq_some_iff.mp hin
      rw [List.getElem?_append_left hbound, hin]
    · obtain rfl : g = counts.length := by omega
      rw [rowsBefore_append le_rfl, rowsBefore_of_length_le le_rfl] at hlo
      rw [rowsBefore_of_length_le (by simp), List.sum_append, List.sum_singleton] at hhi
      rw [List.getElem?_append_right (by rwa [length_rowOrigins]), length_rowOrigins,
        List.getElem?_replicate, if_pos (by omega)]

/-- Every row is in one group, and in no other. -/
theorem existsUnique_inGroup {counts : List ℕ} {i : ℕ} (hi : i < counts.sum) :
    ∃! g, g < counts.length ∧ InGroup counts g i := by
  have hexists : ∃ g < counts.length, InGroup counts g i := by
    induction counts using List.reverseRecOn with
    | nil => exact absurd hi (Nat.not_lt_zero i)
    | append_singleton counts n ih =>
      rcases Nat.lt_or_ge i counts.sum with hlt | hge
      · obtain ⟨g, hg, hlo, hhi⟩ := ih hlt
        refine ⟨g, by simp; omega, ?_, ?_⟩
        · rwa [rowsBefore_append hg.le]
        · rwa [rowsBefore_append hg]
      · refine ⟨counts.length, by simp, ?_, ?_⟩
        · rwa [rowsBefore_append le_rfl, rowsBefore_of_length_le le_rfl]
        · rwa [rowsBefore_of_length_le (by simp)]
  obtain ⟨g, hg, hin⟩ := hexists
  refine ⟨g, ⟨hg, hin⟩, ?_⟩
  -- the row comes from either group
  rintro h ⟨hh, hin'⟩
  exact Option.some.inj ((getElem?_rowOrigins hh hin').symm.trans (getElem?_rowOrigins hg hin))

/-- A group has as many rows as its size says. -/
theorem card_inGroup {counts : List ℕ} {g : ℕ} (hg : g < counts.length) :
    ((range counts.sum).filter (InGroup counts g)).card = counts[g] := by
  have hle : rowsBefore counts (g + 1) ≤ counts.sum := by
    rw [rowsBefore, ← List.sum_take_add_sum_drop counts (g + 1)]
    exact Nat.le_add_right _ _
  have hinterval : (range counts.sum).filter (InGroup counts g) =
      Ico (rowsBefore counts g) (rowsBefore counts (g + 1)) := by
    ext i
    rw [mem_filter, mem_range, mem_Ico, InGroup]
    exact ⟨fun h => h.2, fun h => ⟨by omega, h⟩⟩
  rw [hinterval, Nat.card_Ico, rowsBefore_succ hg, Nat.add_sub_cancel_left]

/-! ### Matrices of cell means -/

/-- The matrix has a row for each member of a group and a column for each group, with a one where
the row is in the group. -/
structure IsCellMeans {R : Type*} [Zero R] [One R] (X : Mat R) (counts : List ℕ) : Prop where
  /-- There is a row for each member. -/
  rows : X.rows = counts.sum
  /-- There is a column for each group. -/
  cols : X.cols = counts.length
  /-- A member has a one in the column of its group, and zeros elsewhere. -/
  get : ∀ i < counts.sum, ∀ g < counts.length, X.get i g = if InGroup counts g i then 1 else 0

namespace IsCellMeans

variable {R : Type*} {X : Mat R} {counts : List ℕ}

/-- Zeros and ones may stand for numbers of another kind. -/
theorem map {S : Type*} [Zero R] [One R] [Zero S] [One S] (h : IsCellMeans X counts) {value : R → S}
    (hzero : value 0 = 0) (hone : value 1 = 1) : IsCellMeans (X.map value) counts where
  rows := h.rows
  cols := h.cols
  get := by
    intro i hi g hg
    rw [Mat.map, get_ofFn _ (h.rows ▸ hi) (h.cols ▸ hg), h.get i hi g hg]
    by_cases hin : InGroup counts g i
    · rw [if_pos hin, if_pos hin, hone]
    · rw [if_neg hin, if_neg hin, hzero]

/-- The columns are orthogonal, and the square of each is the size of its group. -/
theorem gram [NonAssocSemiring R] (h : IsCellMeans X counts) :
    X.transpose * X = ofFn counts.length counts.length fun g k =>
      if g = k then ((counts.getD g 0 : ℕ) : R) else 0 := by
  refine ext_get h.cols h.cols fun g k hg hk => ?_
  have hg' : g < counts.length := h.cols ▸ hg
  have hk' : k < counts.length := h.cols ▸ hk
  have hproduct : ∀ i ∈ range counts.sum, X.transpose.get g i * X.get i k =
      if g = k ∧ InGroup counts g i then 1 else 0 := by
    intro i hi
    have hi' := mem_range.mp hi
    rw [get_transpose, h.get i hi' g hg', h.get i hi' k hk']
    by_cases hin : InGroup counts g i
    · by_cases hkin : InGroup counts k i
      · -- both groups have the row, so they are one
        obtain rfl := (existsUnique_inGroup hi').unique ⟨hg', hin⟩ ⟨hk', hkin⟩
        simp [hin]
      · have hne : g ≠ k := fun heq => hkin (heq ▸ hin)
        simp [hin, hkin, hne]
    · simp [hin]
  rw [get_mul, get_ofFn _ hg' hk', cols_transpose, h.rows, sum_congr rfl hproduct]
  by_cases hgk : g = k
  · simp only [hgk, true_and, if_true]
    rw [sum_boole, card_inGroup hk', List.getD_eq_getElem _ _ hk']
  · simp [hgk]

/-- With one member in each group the matrix is the identity. -/
theorem eq_identity [Zero R] [One R] {k : ℕ} (h : IsCellMeans X (List.replicate k 1)) :
    X = identity k := by
  have hlength : (List.replicate k 1).length = k := List.length_replicate
  have hsum : (List.replicate k 1).sum = k := by simp
  refine ext_get (h.rows.trans hsum) (h.cols.trans hlength) fun i g hi hg => ?_
  have hi' : i < k := by rw [h.rows, hsum] at hi; exact hi
  have hg' : g < k := by rw [h.cols, hlength] at hg; exact hg
  have hbefore : ∀ j ≤ k, rowsBefore (List.replicate k 1) j = j := by
    intro j hj
    rw [rowsBefore, List.take_replicate, Nat.min_eq_left hj, List.sum_replicate, smul_eq_mul,
      Nat.mul_one]
  have hin : InGroup (List.replicate k 1) g i ↔ i = g := by
    unfold InGroup
    rw [hbefore g hg'.le, hbefore (g + 1) hg']
    omega
  rw [h.get i (hsum.symm ▸ hi') g (hlength.symm ▸ hg'), get_identity hi' hg']
  exact if_congr hin rfl rfl

end IsCellMeans

/-- Repeating each row of an identity as often as its group has members gives cell means. -/
theorem isCellMeans_repeatRows {R : Type*} [Zero R] [One R] (counts : List ℕ) :
    IsCellMeans ((identity counts.length : Mat R).repeatRows counts) counts where
  rows := length_rowOrigins counts
  cols := rfl
  get := by
    intro i hi g hg
    refine (get_ofFn _ (by rwa [← length_rowOrigins] at hi) hg).trans ?_
    obtain ⟨g', ⟨hg', hin⟩, -⟩ := existsUnique_inGroup hi
    have horigin : (rowOrigins counts)[i]? = some g' := getElem?_rowOrigins hg' hin
    change (identity counts.length : Mat R).get ((rowOrigins counts)[i]?.getD counts.length) g = _
    rw [horigin, Option.getD_some, get_identity hg' hg]
    by_cases heq : g' = g
    · rw [if_pos heq, if_pos (heq ▸ hin)]
    · -- the row is in no other group
      rw [if_neg heq, if_neg fun hin' =>
        heq ((existsUnique_inGroup hi).unique ⟨hg', hin⟩ ⟨hg, hin'⟩)]

/-! ### Relative sizes -/

section Sizes

variable {α : Type}

theorem checkNatural_eq_ok_iff {value : Datum α} {name : String} {n : ℕ} :
    checkNatural value name = .ok n ↔ value = .int n := by
  constructor
  · intro h
    unfold checkNatural at h
    split at h
    · next z =>
      split at h
      · cases h
      · next hz =>
        obtain rfl := Except.ok.inj h
        rw [Int.toNat_of_nonneg (by omega)]
    · cases h
  · rintro rfl
    unfold checkNatural
    dsimp only
    rw [if_neg (Int.not_lt.mpr (Int.natCast_nonneg n)), Int.toNat_natCast]

theorem checkNatural_failsWith_kind (value : Datum α) (name : String) :
    FailsWith (fun f => f.kind = .validation) (checkNatural value name) := by
  unfold checkNatural
  split
  · split
    · exact FailsWith.error rfl
    · exact FailsWith.ok _
  · exact FailsWith.error rfl

/-- Relative sizes that pass are natural numbers. -/
theorem checkGroupSizes_eq_ok_iff {sizes : List (Datum α)} {counts : List ℕ} :
    StudyDesign.checkGroupSizes sizes = .ok counts ↔ sizes = counts.map fun n => .int n := by
  have hfst : (sizes.zip (List.range sizes.length)).map Prod.fst = sizes :=
    List.map_fst_zip (by rw [List.length_range])
  unfold StudyDesign.checkGroupSizes
  simp only [List.mapM_eq_ok_iff, checkNatural_eq_ok_iff]
  -- a size that passes is read off the size alone, not off the number of its group
  conv_rhs => rw [← hfst, ← List.forall₂_eq_eq_eq]
  rw [List.forall₂_map_left_iff, List.forall₂_map_right_iff]

theorem checkGroupSizes_failsWith (sizes : List (Datum α)) :
    FailsWith (fun f => f.kind = .validation) (StudyDesign.checkGroupSizes sizes) :=
  FailsWith.mapM fun _ _ => checkNatural_failsWith_kind _ _

/-- Sizes that are natural numbers are so one by one. -/
theorem exists_counts_iff {sizes : List (Datum α)} :
    (∃ counts : List ℕ, sizes = counts.map fun n => .int n) ↔
      ∀ size ∈ sizes, ∃ n : ℕ, size = .int n := by
  rw [← List.exists_forall₂_iff]
  refine exists_congr fun counts => ?_
  rw [← List.forall₂_map_right_iff (f := fun n : ℕ => (.int n : Datum α)), List.forall₂_eq_eq_eq]

end Sizes

/-! ### The design matrix -/

section Design

variable {α : Type} [Scalar α]

/-- An array with these sides can be stored. -/
def Scalar.Fits (α : Type) [Scalar α] (r c : ℕ) : Prop := checkShape (α := α) r c = .ok (r, c)

/-- Where storage is no concern, every array can be stored. -/
theorem Scalar.fits_of_entrySize (h : Scalar.entrySize α = 0) (r c : ℕ) : Scalar.Fits α r c :=
  checkShape_eq_ok h r c

/-- A shape that cannot be stored does not make a design invalid. -/
theorem checkShape_failsWith_kind (r c : ℤ) :
    FailsWith (fun f => f.isInvalidDesign = false) (checkShape r c : Except (Fault α) (ℕ × ℕ)) := by
  unfold checkShape
  dsimp only
  split
  · exact FailsWith.throw_bind rfl
  · refine FailsWith.bind (storage_failsWith.mono ?_) fun storage _ => ?_
    · rintro f (⟨rfl, -⟩ | ⟨rfl, -⟩)
      · rfl
      · rfl
    · split
      · exact FailsWith.throw_bind rfl
      · exact FailsWith.pure _

namespace StudyDesign

variable {d : StudyDesign α} {k : ℕ}

theorem designMatrix_eq_map (hguided : d.isMatrixMode = false) :
    d.designMatrix = some <$> d.cellMeans := by
  unfold designMatrix
  rw [hguided, if_neg Bool.false_ne_true]
  rfl

theorem cellMeans_of_none (hk : d.groupCount = k) (htwo : 2 ≤ k) (hsizes : d.groupSizes = none)
    (hfits : Scalar.Fits α k k) : d.cellMeans = .ok (identity k) := by
  unfold cellMeans
  rw [hk, hsizes]
  dsimp only
  rw [if_neg (by omega), if_neg (by omega), hfits]
  rfl

/-- With relative sizes, their number is checked first, then each of them, then the shape. -/
theorem cellMeans_of_some (hk : d.groupCount = k) (htwo : 2 ≤ k) {sizes : List (Datum α)}
    (hsizes : d.groupSizes = some sizes) :
    d.cellMeans =
      if sizes.length ≠ k then .error (.groupSizeCount k sizes.length)
      else do
        let counts ← checkGroupSizes sizes
        discard <| checkShape (counts.sum : ℕ) k
        return (identity k).repeatRows counts := by
  unfold cellMeans
  rw [hk, hsizes]
  dsimp only
  rw [if_neg (by omega), if_neg (by omega)]
  simp only [List.sum_eq_foldl]
  rfl

/-- The groups are refused for their shape exactly when there is none. -/
theorem cellMeans_dimension_iff (hk : d.groupCount = k) :
    (∃ f, d.cellMeans = .error f ∧ f.kind = .dimension) ↔ k = 0 := by
  constructor
  · rintro ⟨f, hf, hkind⟩
    by_contra hzero
    have hother : FailsWith (fun f => f.kind ≠ .dimension) d.cellMeans := by
      have hshape : ∀ r c : ℤ, FailsWith (fun f : Fault α => f.kind ≠ .dimension)
          (checkShape r c : Except (Fault α) (ℕ × ℕ)) := by
        refine fun r c => (checkShape_failsWith_kind r c).mono fun f hf hkind => ?_
        unfold Fault.isInvalidDesign at hf
        rw [hkind] at hf
        cases hf
      unfold cellMeans
      dsimp only
      rw [hk, if_neg hzero]
      split
      · exact FailsWith.pure _
      · split
        · exact FailsWith.bind (hshape _ _) fun _ _ => FailsWith.pure _
        · split
          · exact FailsWith.throw (by rintro ⟨⟩)
          · refine FailsWith.bind ?_ fun counts _ => ?_
            · exact (checkGroupSizes_failsWith _).mono fun f hf => by rw [hf]; decide
            · exact FailsWith.bind (hshape _ _).map fun _ _ => FailsWith.pure _
    exact hother f hf hkind
  · rintro rfl
    refine ⟨.noCategories, ?_, rfl⟩
    unfold cellMeans
    dsimp only
    rw [hk, if_pos rfl]
    rfl

/-- Relative sizes are refused exactly when they are not as many as the groups, or one of them is no
natural number. -/
theorem cellMeans_validation_iff (hk : d.groupCount = k) (htwo : 2 ≤ k) {sizes : List (Datum α)}
    (hsizes : d.groupSizes = some sizes) :
    (∃ f, d.cellMeans = .error f ∧ f.kind = .validation) ↔
      sizes.length ≠ k ∨ ∃ size ∈ sizes, ∀ n : ℕ, size ≠ .int n := by
  rw [cellMeans_of_some hk htwo hsizes]
  by_cases hlength : sizes.length = k
  · rw [if_neg (not_not.mpr hlength)]
    cases hcounts : checkGroupSizes sizes with
    | error f =>
      refine iff_of_true ⟨f, rfl, checkGroupSizes_failsWith sizes f hcounts⟩ (.inr ?_)
      by_contra hall
      push Not at hall
      obtain ⟨counts, hnatural⟩ := exists_counts_iff.mpr hall
      rw [checkGroupSizes_eq_ok_iff.mpr hnatural] at hcounts
      cases hcounts
    | ok counts =>
      have hnatural := checkGroupSizes_eq_ok_iff.mp hcounts
      refine iff_of_false ?_ ?_
      · -- only the shape is left to be refused
        rintro ⟨f, hf, hkind⟩
        have hshape : f.isInvalidDesign = false :=
          (checkShape_failsWith_kind (α := α) (counts.sum : ℕ) k).map.bind
            (fun _ _ => FailsWith.pure _) f hf
        unfold Fault.isInvalidDesign at hshape
        rw [hkind] at hshape
        cases hshape
      · rintro (hne | ⟨size, hsize, hother⟩)
        · exact hne hlength
        · obtain ⟨n, hn⟩ := exists_counts_iff.mp ⟨counts, hnatural⟩ size hsize
          exact hother n hn
  · rw [if_pos hlength]
    exact iff_of_true ⟨_, rfl, rfl⟩ (.inl hlength)

theorem cellMeans_of_counts (hk : d.groupCount = k) (htwo : 2 ≤ k) {counts : List ℕ}
    (hsizes : d.groupSizes = some (counts.map fun n => .int n)) (hlength : counts.length = k)
    (hfits : Scalar.Fits α counts.sum k) :
    d.cellMeans = .ok ((identity counts.length).repeatRows counts) := by
  rw [cellMeans_of_some hk htwo hsizes, List.length_map, if_neg (not_not.mpr hlength),
    checkGroupSizes_eq_ok_iff.mpr rfl]
  change (discard (checkShape (α := α) (counts.sum : ℕ) k) >>= fun _ => _) = _
  rw [hfits, hlength]
  rfl

/-- **The design matrix of a guided design, for all groups and relative sizes.**  It is refused for
its shape exactly when there is no group, and for its relative sizes exactly when they are not one
natural number for each of at least two groups.  Otherwise, as long as it can be stored, each row
has its one in the column of the only group that it is in, and zeros elsewhere. -/
theorem designMatrix_by_groups (hguided : d.isMatrixMode = false)
    (hk : (d.factors.map (·.levels)).prod = k) :
    ((∃ f, d.designMatrix = .error f ∧ f.kind = .dimension) ↔ k = 0) ∧
    (k = 1 → d.designMatrix = .ok (some (filled 1 1 1))) ∧
    (2 ≤ k → d.groupSizes = none → Scalar.Fits α k k → d.designMatrix = .ok (some (identity k))) ∧
    ∀ sizes, 2 ≤ k → d.groupSizes = some sizes →
      ((∃ f, d.designMatrix = .error f ∧ f.kind = .validation) ↔
        sizes.length ≠ k ∨ ∃ size ∈ sizes, ∀ n : ℕ, size ≠ .int n) ∧
      ∀ counts : List ℕ, sizes = counts.map (fun n => .int n) → counts.length = k →
        Scalar.Fits α counts.sum k →
        ∃ X, d.designMatrix = .ok (some X) ∧ IsCellMeans X counts ∧
          (∀ i < counts.sum, ∃! g, g < counts.length ∧ InGroup counts g i) ∧
          (∀ (R : Type) [CommSemiring R] (value : α → R), value 0 = 0 → value 1 = 1 →
            (X.map value).transpose * X.map value =
              ofFn k k fun g h => if g = h then ((counts.getD g 0 : ℕ) : R) else 0) ∧
          (counts = List.replicate k 1 → X = identity k) := by
  have hcount : d.groupCount = k := by rw [groupCount_eq_prod, hk]
  have herror : ∀ P : Fault α → Prop, (∃ f, d.designMatrix = .error f ∧ P f) ↔
      ∃ f, d.cellMeans = .error f ∧ P f := by
    intro P
    rw [designMatrix_eq_map hguided]
    cases d.cellMeans with
    | error f => exact ⟨fun ⟨_, h, hP⟩ => ⟨f, rfl, Except.error.inj h ▸ hP⟩,
        fun ⟨_, h, hP⟩ => ⟨f, rfl, Except.error.inj h ▸ hP⟩⟩
    | ok X => exact iff_of_false (fun ⟨_, h, _⟩ => by cases h) (fun ⟨_, h, _⟩ => by cases h)
  have hok : ∀ {X}, d.cellMeans = .ok X → d.designMatrix = .ok (some X) := by
    intro X hX
    rw [designMatrix_eq_map hguided, hX]
    rfl
  refine ⟨?_, ?_, ?_, ?_⟩
  · rw [herror, cellMeans_dimension_iff hcount]
  · rintro rfl
    refine hok ?_
    unfold cellMeans
    dsimp only
    rw [hcount]
    rfl
  · intro htwo hnone hfits
    exact hok (cellMeans_of_none hcount htwo hnone hfits)
  · intro sizes htwo hsizes
    refine ⟨by rw [herror, cellMeans_validation_iff hcount htwo hsizes], ?_⟩
    rintro counts rfl hlength hfits
    have hmeans : IsCellMeans ((identity counts.length : Mat α).repeatRows counts) counts :=
      isCellMeans_repeatRows counts
    refine ⟨_, hok (cellMeans_of_counts hcount htwo hsizes hlength hfits), hmeans,
      fun i hi => existsUnique_inGroup hi, ?_, ?_⟩
    · intro R _ value hzero hone
      rw [(hmeans.map hzero hone).gram, hlength]
    · rintro hones
      rw [hones] at hmeans ⊢
      exact hmeans.eq_identity

/-- The trial in schools with pupils of three of its four groups. -/
def unevenTrial : StudyDesign ℚ := { schoolTrial with
  groupSizes := some [.int 2, .int 0, .int 1, .int 3] }

/-- The second group has no row, and the third begins where the first has ended. -/
theorem designMatrix_by_groups_unevenTrial :
    ∃ X, unevenTrial.designMatrix = .ok (some X) ∧ IsCellMeans X [2, 0, 1, 3] ∧
      (∀ i < 6, ¬ InGroup [2, 0, 1, 3] 1 i) ∧ InGroup [2, 0, 1, 3] 2 2 := by
  obtain ⟨-, -, -, hsome⟩ := designMatrix_by_groups (d := unevenTrial) (k := 4) rfl rfl
  obtain ⟨-, hcounts⟩ := hsome _ (by decide) rfl
  obtain ⟨X, hX, hmeans, -⟩ :=
    hcounts [2, 0, 1, 3] rfl rfl (Scalar.fits_of_entrySize rfl 6 4)
  exact ⟨X, hX, hmeans, by decide, by decide⟩

end StudyDesign

end Design

end StudyPower
