import Mathlib
import StudyPower.Proofs.Bundle.Escapes

/-!
# Numbers that acceptance does not look at

The covariance of a guided design is built from the matrices, standard deviations and parameters of
its covariance structures, from the correlations of its clusters and from the points at which it
measures.  A design is accepted by what the sizes of its matrices are, and none of these numbers
changes a size.  So they may be replaced by any others, real or not, as long as those of a dimension
under test stay: an accepted design stays accepted.

## Main definitions

* `Datum.Alike`, `RepeatedMeasure.Alike`, `Cluster.Alike`, `Covariance.Alike` — two declarations are
  the same apart from real numbers.
* `StudyDesign.replace d ms ks cs` — the design `d` with other dimensions, clusters and covariances.
* `StudyDesign.IsReplacement d ms ks cs` — these differ from those of `d` in numbers that are not
  under test.

## Main statements

* `Covariance.Alike.exists_toMat` — structures that are alike have matrices of one shape.
* `StudyDesign.IsReplacement.withinContrast_eq` — the contrast within participants stays the same.
* `StudyDesign.IsReplacement.shape_built` — so do the shapes of all matrices.
* `StudyDesign.IsReplacement.exists_assemble` — **other numbers do not make an accepted design
  refused.**
-/

namespace List

variable {α β γ δ : Type}

/-- Two lists that are related member by member have related results member by member. -/
theorem exists_forall₂_of_forall₂ {R : α → β → Prop} {P : α → γ → Prop} {Q : β → δ → Prop}
    {S : γ → δ → Prop} {xs : List α} {ys : List β} {zs : List γ} (hR : Forall₂ R xs ys)
    (hP : Forall₂ P xs zs) (h : ∀ x y z, R x y → P x z → ∃ w, Q y w ∧ S z w) :
    ∃ ws, Forall₂ Q ys ws ∧ Forall₂ S zs ws := by
  induction hR generalizing zs with
  | nil =>
    obtain rfl := forall₂_nil_left_iff.mp hP
    exact ⟨[], .nil, .nil⟩
  | cons hxy _ ih =>
    obtain ⟨z, zs, hz, hzs, rfl⟩ := forall₂_cons_left_iff.mp hP
    obtain ⟨w, hQ, hS⟩ := h _ _ _ hxy hz
    obtain ⟨ws, hQs, hSs⟩ := ih hzs
    exact ⟨w :: ws, .cons hQ hQs, .cons hS hSs⟩

theorem foldlM_eq_of_forall₂ {ε : Type} {R : α → β → Prop} {f : γ → α → Except ε γ}
    {g : γ → β → Except ε γ} {xs : List α} {ys : List β} (hR : Forall₂ R xs ys)
    (h : ∀ c x y, R x y → f c x = g c y) (c : γ) : xs.foldlM f c = ys.foldlM g c := by
  induction hR generalizing c with
  | nil => rfl
  | cons hxy _ ih =>
    rw [foldlM_cons, foldlM_cons, h c _ _ hxy]
    exact bind_congr ih

theorem rel_find?_of_forall₂ {R : α → β → Prop} {p : α → Bool} {q : β → Bool} {xs : List α}
    {ys : List β} (hR : Forall₂ R xs ys) (h : ∀ x y, R x y → p x = q y) :
    Option.Rel R (xs.find? p) (ys.find? q) := by
  induction hR with
  | nil => exact .none
  | cons hxy _ ih =>
    rw [find?_cons, find?_cons, ← h _ _ hxy]
    split
    · exact .some hxy
    · exact ih

theorem mapM_eq_of_forall₂ {ε : Type} {R : α → β → Prop} {f : α → Except ε γ} {g : β → Except ε γ}
    {xs : List α} {ys : List β} (hR : Forall₂ R xs ys) (h : ∀ x y, R x y → f x = g y) :
    xs.mapM f = ys.mapM g := by
  induction hR with
  | nil => rfl
  | cons hxy _ ih => rw [mapM_cons, mapM_cons, h _ _ hxy, ih]

end List

namespace StudyPower

open Mat Contrast

variable {α : Type} [Scalar α]

/-! ### Declarations that differ in numbers -/

/-- Two declared values are the same, or both are real numbers. -/
inductive Datum.Alike : Datum α → Datum α → Prop
  /-- They are the same. -/
  | same (x : Datum α) : Alike x x
  /-- Both are real numbers. -/
  | real (x y : α) : Alike (.real x) (.real y)

namespace Datum.Alike

variable {x y : Datum α}

theorem isSome_real? (h : x.Alike y) (hx : x.real?.isSome) : y.real?.isSome := by
  cases h with
  | same => exact hx
  | real => rfl

omit [Scalar α] in
theorem ne_null (h : x.Alike y) (hx : x ≠ .null) : y ≠ .null := by
  cases h with
  | same => exact hx
  | real => nofun

omit [Scalar α] in
theorem eq_null (h : x.Alike y) (hx : x = .null) : y = .null := by
  cases h with
  | same => exact hx
  | real => cases hx

theorem exists_toReal (h : x.Alike y) {a : α} (hx : x.toReal = .ok a) : ∃ b, y.toReal = .ok b := by
  cases h with
  | same => exact ⟨a, hx⟩
  | real _ b => exact ⟨b, rfl⟩

theorem exists_toEntry (h : x.Alike y) {a : α} (hx : x.toEntry = .ok a) :
    ∃ b, y.toEntry = .ok b := by
  cases h with
  | same => exact ⟨a, hx⟩
  | real _ b => exact ⟨b, rfl⟩

end Datum.Alike

/-- Two dimensions are the same apart from the points at which measurements are taken. -/
structure RepeatedMeasure.Alike (m m' : RepeatedMeasure α) : Prop where
  /-- They have one name. -/
  dimension : m.dimension = m'.dimension
  /-- They declare the same number of measurements. -/
  count : m.count = m'.count
  /-- They declare as many points, if any, which differ in numbers. -/
  spacing : Option.Rel (List.Forall₂ Datum.Alike) m.spacing m'.spacing

/-- Two cluster levels are the same apart from their correlations. -/
structure Cluster.Alike (c c' : Cluster α) : Prop where
  /-- They have one name. -/
  name : c.name = c'.name
  /-- They declare the same group size. -/
  size : c.size = c'.size
  /-- Their correlations differ in numbers. -/
  correlation : c.correlation.Alike c'.correlation

/-- Two covariance structures are the same apart from their numbers. -/
structure Covariance.Alike (c c' : Covariance α) : Prop where
  /-- They describe one dimension. -/
  name : c.name = c'.name
  /-- They are of one kind. -/
  kind : c.kind = c'.kind
  /-- Their bases differ in numbers. -/
  base : c.base.Alike c'.base
  /-- Their decays differ in numbers. -/
  decay : c.decay.Alike c'.decay
  /-- They give as many standard deviations, if any. -/
  deviations : c.deviations.map List.length = c'.deviations.map List.length
  /-- Their matrices have one shape, if they have any. -/
  matrix : c.matrix.map Mat.shape = c'.matrix.map Mat.shape

/-- There are as many points, and as many values. -/
structure Points.Alike (p p' : Points α) : Prop where
  /-- There are as many points. -/
  count : p.count = p'.count
  /-- If the first have values, the second have as many. -/
  values : ∀ xs, p.values = .ok xs → ∃ xs', p'.values = .ok xs' ∧ xs'.length = xs.length

omit [Scalar α] in
theorem Points.Alike.refl (p : Points α) : p.Alike p := ⟨rfl, fun xs hxs => ⟨xs, hxs, rfl⟩⟩

theorem RepeatedMeasure.Alike.exists_points {m m' : RepeatedMeasure α} (h : m.Alike m')
    {p : Points α} (hp : m.points = .ok p) : ∃ p', m'.points = .ok p' ∧ p.Alike p' := by
  have hspacing := h.spacing
  unfold RepeatedMeasure.points at hp ⊢
  generalize m.spacing = s at hspacing hp
  generalize m'.spacing = s' at hspacing ⊢
  cases hspacing with
  | none =>
    rw [← h.count]
    exact ⟨p, hp, .refl p⟩
  | some hall =>
    refine ⟨_, rfl, ?_⟩
    obtain rfl := Except.ok.inj hp
    refine ⟨congrArg Except.ok hall.length_eq, fun xs hxs => ?_⟩
    obtain ⟨xs', hxs', hlength⟩ := List.exists_forall₂_of_forall₂ (S := fun _ _ => True) hall
      (List.mapM_eq_ok_iff.mp hxs) fun d d' x hd hx => by
        obtain ⟨x', hx'⟩ := hd.exists_toEntry hx
        exact ⟨x', hx', trivial⟩
    exact ⟨xs', List.mapM_eq_ok_iff.mpr hxs', hlength.length_eq.symm⟩

/-! ### Covariance structures -/

namespace Covariance

theorem hasSize_congr {m m' : Mat α} (h : m.shape = m'.shape) (size : Datum α) :
    hasSize m size = hasSize m' size := by
  obtain ⟨hrows, hcols⟩ := Prod.mk.inj h
  rw [hasSize, hasSize, hrows, hcols]

/-- Matrices of one shape have the expected size together. -/
theorem map_shape_filter {m m' : Option (Mat α)} (h : m.map Mat.shape = m'.map Mat.shape)
    (size : Datum α) :
    (m.filter (hasSize · size)).map Mat.shape = (m'.filter (hasSize · size)).map Mat.shape := by
  cases m with
  | none =>
    rw [Option.map_none, eq_comm, Option.map_eq_none_iff] at h
    rw [h]
  | some m =>
    obtain ⟨m', rfl, hshape⟩ := Option.map_eq_some_iff.mp h.symm
    rw [Option.filter_some, Option.filter_some, hasSize_congr hshape]
    split
    · exact h
    · rfl

theorem outcome_ofSize (name : String) (size : Datum α) (m : Option (Mat α)) :
    (ofSize name size m).outcome = .ok (m.filter (hasSize · size)) := by
  unfold ofSize
  split
  · next hm => rw [hm, Journal.outcome_pure]
  · next hm => rw [hm]; rfl

/-- Correlations of one shape are scaled to one shape by as many deviations. -/
theorem map_shape_withDeviations {C C' : Mat α} (h : C.shape = C'.shape) {s s' : Option (List α)}
    (hs : s.map List.length = s'.map List.length) :
    (withDeviations C s).map Mat.shape = (withDeviations C' s').map Mat.shape := by
  obtain ⟨hrows, hcols⟩ := Prod.mk.inj h
  unfold withDeviations
  cases s with
  | none =>
    rw [Option.map_none, eq_comm, Option.map_eq_none_iff] at hs
    rw [hs]
    exact congrArg some h
  | some xs =>
    obtain ⟨xs', rfl, hlength⟩ := Option.map_eq_some_iff.mp hs.symm
    dsimp only
    rw [hlength, hrows]
    split
    · exact congrArg some (Prod.ext rfl hcols)
    · rfl

theorem real?_of_operand {operator : String} {parameter : Datum α} {x : α}
    (h : operand operator parameter = .ok x) : parameter.real? = some x := by
  unfold operand at h
  split at h
  · next hx => rw [hx, Except.ok.inj h]
  · cases h

/-- One measurement needs no parameter, and several need a number as base. -/
theorem decaying_of_ok {base decay : Datum α} {xs : List α} {C : Mat α}
    (h : decaying base decay xs = .ok C) : C.shape = (xs.length, xs.length) ∧ xs ≠ [] ∧
      (xs.length = 1 ∨ base.real?.isSome) := by
  have hbuilt : ∀ (first : Except (Fault α) α) (entry : α → α → ℕ → ℕ → α),
      (do
        let decay ← first
        let base ← operand "** or pow()" base
        return Mat.ofFn xs.length xs.length (entry decay base)) = .ok C →
      C.shape = (xs.length, xs.length) ∧ base.real?.isSome := by
    intro first entry h
    simp only [Except.bind_eq_ok_iff, Except.pure_eq_ok_iff] at h
    obtain ⟨_, -, x, hx, rfl⟩ := h
    exact ⟨rfl, by rw [real?_of_operand hx]; rfl⟩
  unfold decaying at h
  split at h
  · next hone =>
    rw [← Except.pure_eq_ok_iff.mp h, hone]
    refine ⟨rfl, ?_, .inl rfl⟩
    rintro rfl
    cases hone
  · dsimp only at h
    split at h
    · next hnear _ =>
      have hne : xs ≠ [] := by
        rintro rfl
        cases hnear
      split at h
      · exact ⟨(hbuilt _ _ h).1, hne, .inr (hbuilt _ _ h).2⟩
      · exact ⟨(hbuilt _ _ h).1, hne, .inr (hbuilt _ _ h).2⟩
    · cases h

/-- Numbers as parameters are enough for a measurement or several. -/
theorem exists_decaying {base decay : Datum α} {xs : List α} (hxs : xs ≠ [])
    (hbase : base.real?.isSome) (hdecay : decay.real?.isSome) :
    ∃ C, decaying base decay xs = .ok C := by
  cases hC : decaying base decay xs with
  | ok C => exact ⟨C, rfl⟩
  | error f => exact absurd (StudyDesign.decaying_failsWith hbase hdecay xs f hC).2 hxs

/-- Neither the points nor the parameters change the shape of decaying correlations. -/
theorem exists_decaying_alike {base base' decay decay' : Datum α} {xs xs' : List α}
    (hbase : base.Alike base') (hdecay : decay'.real?.isSome) (hlength : xs'.length = xs.length)
    {C : Mat α} (h : decaying base decay xs = .ok C) :
    ∃ C', decaying base' decay' xs' = .ok C' ∧ C.shape = C'.shape := by
  obtain ⟨hshape, hne, hparameter⟩ := decaying_of_ok h
  have hne' : xs' ≠ [] := by
    rw [← List.length_pos_iff, hlength]
    exact List.length_pos_iff.mpr hne
  have hexists : ∃ C', decaying base' decay' xs' = .ok C' := by
    rcases hparameter with hone | hsome
    · exact ⟨Mat.filled 1 1 1, by rw [decaying, if_pos (hlength.trans hone)]; rfl⟩
    · exact exists_decaying hne' (hbase.isSome_real? hsome) hdecay
  obtain ⟨C', hC'⟩ := hexists
  exact ⟨C', hC', by rw [hshape, (decaying_of_ok hC').1, hlength]⟩

variable {c c' : Covariance α}

theorem Alike.exists_decayingMat (h : c.Alike c') (hdecay : c'.decay.real?.isSome) {size : Datum α}
    {p p' : Points α} (hp : p.Alike p') {B : Option (Mat α)}
    (hB : (c.decayingMat size p).outcome = .ok B) :
    ∃ B', (c'.decayingMat size p').outcome = .ok B' ∧ B.map Mat.shape = B'.map Mat.shape := by
  unfold decayingMat at hB ⊢
  simp only [Journal.outcome_bind_eq_ok_iff, Journal.outcome_monadLift, ← hp.count] at hB ⊢
  obtain ⟨n, hn, hB⟩ := hB
  split at hB
  · next hsize =>
    simp only [Journal.outcome_bind_eq_ok_iff, Journal.outcome_monadLift, Except.bind_eq_ok_iff,
      outcome_ofSize, Except.ok.injEq] at hB
    obtain ⟨C, ⟨xs, hxs, hC⟩, rfl⟩ := hB
    obtain ⟨xs', hxs', hlength⟩ := hp.values xs hxs
    obtain ⟨C', hC', hshape⟩ := exists_decaying_alike h.base hdecay hlength hC
    refine ⟨_, ⟨n, hn, ?_⟩, map_shape_filter (map_shape_withDeviations hshape h.deviations) size⟩
    rw [if_pos hsize]
    simp only [Journal.outcome_bind_eq_ok_iff, Journal.outcome_monadLift, Except.bind_eq_ok_iff,
      outcome_ofSize]
    exact ⟨C', ⟨xs', hxs', hC'⟩, rfl⟩
  · next hsize =>
    obtain rfl := Except.ok.inj hB
    exact ⟨none, ⟨n, hn, by rw [if_neg hsize]; rfl⟩, rfl⟩

/-- The matrix of a covariance is the declared one. -/
theorem outcome_toMat_of_covariance (hkind : c.kind = .covariance) (size : Datum α)
    (points : Option (Points α)) :
    (c.toMat size points).outcome = .ok (c.matrix.filter (hasSize · size)) := by
  unfold toMat
  rw [hkind]
  exact outcome_ofSize c.name size c.matrix

/-- That of a correlation is the declared one, scaled by the deviations. -/
theorem outcome_toMat_of_correlation (hkind : c.kind = .correlation) (size : Datum α)
    (points : Option (Points α)) :
    (c.toMat size points).outcome = .ok ((c.matrix.filter (hasSize · size)).bind fun C =>
      (withDeviations C c.deviations).filter (hasSize · size)) := by
  unfold toMat
  rw [hkind]
  dsimp only
  split
  · next C hC => rw [hC, outcome_ofSize, Option.bind_some]
  · next hC => rw [hC]; rfl

/-- A decaying correlation without its base or its decay has no matrix. -/
theorem outcome_toMat_of_incomplete (hkind : c.kind = .decaying)
    (h : c.base = .null ∨ c.decay = .null) (size : Datum α) (points : Option (Points α)) :
    (c.toMat size points).outcome = .ok none := by
  unfold toMat
  rw [hkind]
  dsimp only
  split
  · rfl
  · rfl
  · next hbase hdecay => exact (h.elim hbase hdecay).elim

/-- With both of them it is put together at the points, or at `1, 2, …`. -/
theorem outcome_toMat_of_complete (hkind : c.kind = .decaying) (hbase : c.base ≠ .null)
    (hdecay : c.decay ≠ .null) (size : Datum α) (points : Option (Points α)) :
    (c.toMat size points).outcome =
      match points with
      | some p => (c.decayingMat size p).outcome
      | none => size.toRangeEnd >>= fun n => (c.decayingMat size (.equallySpaced n)).outcome := by
  unfold toMat
  rw [hkind]
  dsimp only
  split
  · next h => exact absurd h hbase
  · next h _ => exact absurd h hdecay
  · cases points with
    | some p => rfl
    | none => rw [Journal.outcome_bind, Journal.outcome_monadLift]

/-- Structures that are alike have matrices of one shape. -/
theorem Alike.exists_toMat (h : c.Alike c') (hparameter : c.decay.IsParameter) {size : Datum α}
    {points points' : Option (Points α)} (hpoints : Option.Rel Points.Alike points points')
    {B : Option (Mat α)} (hB : (c.toMat size points).outcome = .ok B) :
    ∃ B', (c'.toMat size points').outcome = .ok B' ∧ B.map Mat.shape = B'.map Mat.shape := by
  cases hkind : c.kind with
  | covariance =>
    rw [outcome_toMat_of_covariance hkind, Except.ok.injEq] at hB
    rw [outcome_toMat_of_covariance (h.kind.symm.trans hkind), ← hB]
    exact ⟨_, rfl, map_shape_filter h.matrix size⟩
  | correlation =>
    rw [outcome_toMat_of_correlation hkind, Except.ok.injEq] at hB
    rw [outcome_toMat_of_correlation (h.kind.symm.trans hkind), ← hB]
    refine ⟨_, rfl, ?_⟩
    have hfilter := map_shape_filter h.matrix size
    cases hC : c.matrix.filter (hasSize · size) with
    | none =>
      rw [hC, Option.map_none, eq_comm, Option.map_eq_none_iff] at hfilter
      rw [hfilter]
      rfl
    | some C =>
      rw [hC] at hfilter
      obtain ⟨C', hC', hshape⟩ := Option.map_eq_some_iff.mp hfilter.symm
      rw [hC']
      exact map_shape_filter (map_shape_withDeviations hshape.symm h.deviations) size
  | decaying =>
    have hkind' := h.kind.symm.trans hkind
    by_cases hnull : c.base = .null ∨ c.decay = .null
    · rw [outcome_toMat_of_incomplete hkind hnull] at hB
      rw [outcome_toMat_of_incomplete hkind' (hnull.imp h.base.eq_null h.decay.eq_null),
        ← Except.ok.inj hB]
      exact ⟨none, rfl, rfl⟩
    · obtain ⟨hbase, hdecay⟩ := not_or.mp hnull
      have hsome := h.decay.isSome_real? (hparameter.resolve_left hdecay)
      rw [outcome_toMat_of_complete hkind hbase hdecay] at hB
      rw [outcome_toMat_of_complete hkind' (h.base.ne_null hbase) (h.decay.ne_null hdecay)]
      cases hpoints with
      | none =>
        obtain ⟨n, hn, hB⟩ := Except.bind_eq_ok_iff.mp hB
        rw [hn]
        exact h.exists_decayingMat hsome (.refl _) hB
      | some hp => exact h.exists_decayingMat hsome hp hB

end Covariance

/-! ### Blocks -/

/-- What is put under test depends on what the mapped names are looked up to. -/
theorem testedBlocks_congr {levels levels' : Levels α} {kind : HypothesisKind}
    {mappings : List (EffectMapping α)}
    (h : ∀ m ∈ mappings, levels.count m.target = levels'.count m.target ∧
      levels.points m.target = levels'.points m.target) :
    testedBlocks levels kind mappings = testedBlocks levels' kind mappings := by
  have hcomparison : ∀ m ∈ mappings, comparison levels m = comparison levels' m := by
    intro m hm
    rw [comparison, comparison, (h m hm).2]
  unfold testedBlocks
  cases mappings with
  | nil => cases kind <;> rfl
  | cons first rest =>
    have hfirst : first ∈ first :: rest := List.mem_cons_self
    cases kind with
    | mainEffect | manova =>
      dsimp only
      rw [(h first hfirst).1]
    | trend =>
      dsimp only
      rw [hcomparison first hfirst]
    | interaction =>
      refine List.foldlM_eq_of_forall₂ (R := fun m m' => m = m' ∧ m ∈ first :: rest)
        (List.forall₂_same.mpr fun m hm => ⟨rfl, hm⟩) ?_ []
      rintro tested m _ ⟨rfl, hm⟩
      rw [hcomparison m hm]

omit [Scalar α] in
/-- Sizes are compared by shape. -/
theorem Conforming.congr {M M' : MatrixRole → Option (Mat α)}
    (hshapes : ∀ role, (M role).map Mat.shape = (M' role).map Mat.shape) (h : Conforming M) :
    Conforming M' := by
  have hsome : ∀ {role m'}, M' role = some m' →
      ∃ m, M role = some m ∧ m.rows = m'.rows ∧ m.cols = m'.cols := by
    intro role m' hm'
    have hshape := hshapes role
    rw [hm', Option.map_some] at hshape
    obtain ⟨m, hm, hm'⟩ := Option.map_eq_some_iff.mp hshape
    exact ⟨m, hm, Prod.mk.inj hm'⟩
  exact {
    means := by
      intro x β hx hβ
      obtain ⟨x, hx, -, hxcols⟩ := hsome hx
      obtain ⟨β, hβ, hβrows, -⟩ := hsome hβ
      rw [← hxcols, ← hβrows, h.means x β hx hβ]
    coefficients := by
      intro β r hβ hr
      obtain ⟨β, hβ, -, hβcols⟩ := hsome hβ
      obtain ⟨r, hr, -, hrcols⟩ := hsome hr
      rw [← hβcols, ← hrcols, h.coefficients β r hβ hr]
    between := by
      intro c β hc hβ
      obtain ⟨c, hc, -, hccols⟩ := hsome hc
      obtain ⟨β, hβ, hβrows, -⟩ := hsome hβ
      rw [← hccols, ← hβrows, h.between c β hc hβ]
    betweenRandom := by
      intro c r hc hr
      obtain ⟨c, hc, hcrows, -⟩ := hsome hc
      obtain ⟨r, hr, hrrows, -⟩ := hsome hr
      rw [← hcrows, ← hrrows, h.betweenRandom c r hc hr]
    covariate := by
      intro c r m hc hr hm
      obtain ⟨c, hc, -⟩ := hsome hc
      obtain ⟨r, hr, -, hrcols⟩ := hsome hr
      obtain ⟨m, hm, hmrows, -⟩ := hsome hm
      rw [← hrcols, ← hmrows, h.covariate c r m hc hr hm]
    within := by
      intro β u hβ hu
      obtain ⟨β, hβ, -, hβcols⟩ := hsome hβ
      obtain ⟨u, hu, hurows, -⟩ := hsome hu
      rw [← hβcols, ← hurows, h.within β u hβ hu]
    thetaNull := by
      intro t c u ht hc hu
      obtain ⟨t, ht, htrows, htcols⟩ := hsome ht
      obtain ⟨c, hc, hcrows, -⟩ := hsome hc
      obtain ⟨u, hu, -, hucols⟩ := hsome hu
      rw [← hcrows, ← hucols, ← h.thetaNull t c u ht hc hu, Mat.shape, Mat.shape, htrows, htcols]
    covariance := by
      intro β s hβ hs
      obtain ⟨β, hβ, -, hβcols⟩ := hsome hβ
      rcases hs with hs | hs
      · obtain ⟨s, hs, hsrows, -⟩ := hsome hs
        rw [← hβcols, ← hsrows, h.covariance β s hβ (.inl hs)]
      · obtain ⟨s, hs, hsrows, -⟩ := hsome hs
        rw [← hβcols, ← hsrows, h.covariance β s hβ (.inr hs)] }

theorem shape_kronAll_congr {ms ms' : List (Mat α)} (h : ms.map Mat.shape = ms'.map Mat.shape) :
    (kronAll ms).shape = (kronAll ms').shape := by
  have hfst := congrArg (List.map Prod.fst) h
  have hsnd := congrArg (List.map Prod.snd) h
  rw [List.map_map, List.map_map] at hfst hsnd
  rw [Mat.shape, Mat.shape, rows_kronAll, cols_kronAll, rows_kronAll, cols_kronAll]
  exact Prod.ext (congrArg List.prod hfst) (congrArg List.prod hsnd)

/-- Matrices of one shape can be repeated together. -/
theorem exists_repeatDown_alike {n : Option ℕ} {m m' x : Mat α} (hshape : m.shape = m'.shape)
    (h : repeatDown n m = .ok x) : ∃ x', repeatDown n m' = .ok x' ∧ x.shape = x'.shape := by
  unfold repeatDown at h ⊢
  cases n with
  | none =>
    rw [← Except.pure_eq_ok_iff.mp h]
    exact ⟨m', rfl, hshape⟩
  | some n =>
    obtain ⟨hrows, hcols⟩ := Prod.mk.inj hshape
    simp only [Except.bind_eq_ok_iff, Except.pure_eq_ok_iff] at h ⊢
    obtain ⟨shape, hfits, rfl⟩ := h
    refine ⟨_, ⟨shape, hfits, rfl⟩, ?_⟩
    rw [Mat.shape, Mat.shape, rows_kron, cols_kron, rows_kron, cols_kron, hrows, hcols]

namespace StudyDesign

/-- The design with other dimensions, clusters and covariances. -/
def replace (d : StudyDesign α) (ms : List (RepeatedMeasure α)) (ks : List (Cluster α))
    (cs : List (Covariance α)) : StudyDesign α :=
  { d with measures := ms, clusters := ks, covariances := cs }

/-- Dimensions, clusters and covariances that differ from those of a design in numbers.  Dimensions
under test stay as they are. -/
structure IsReplacement (d : StudyDesign α) (ms : List (RepeatedMeasure α)) (ks : List (Cluster α))
    (cs : List (Covariance α)) : Prop where
  /-- The dimensions differ in the points at which measurements are taken. -/
  measures : List.Forall₂ RepeatedMeasure.Alike d.measures ms
  /-- What the hypothesis maps does not differ. -/
  tested : ∀ h, d.primaryHypothesis = some h → ∀ m ∈ h.within,
    findMeasure m.target d.measures = findMeasure m.target ms
  /-- The clusters differ in their correlations. -/
  clusters : List.Forall₂ Cluster.Alike d.clusters ks
  /-- The covariance structures differ in their numbers. -/
  covariances : List.Forall₂ Covariance.Alike d.covariances cs
  /-- The decays are numbers where they are given. -/
  decays : ∀ c ∈ d.covariances, c.decay.IsParameter

end StudyDesign

omit [Scalar α] in
theorem Cluster.Alike.members_eq {c c' : Cluster α} (h : c.Alike c') : c.members = c'.members := by
  unfold Cluster.members
  rw [h.name, h.size]

theorem Cluster.Alike.exists_clusterBlock {c c' : Cluster α} (h : c.Alike c') {B : Mat α}
    (hB : StudyDesign.clusterBlock c = .ok B) :
    ∃ B', StudyDesign.clusterBlock c' = .ok B' ∧ B.shape = B'.shape := by
  unfold StudyDesign.clusterBlock at hB ⊢
  simp only [Except.bind_eq_ok_iff, Except.pure_eq_ok_iff, ← h.members_eq] at hB ⊢
  obtain ⟨n, hn, ρ, hρ, shape, hshape, rfl⟩ := hB
  obtain ⟨ρ', hρ'⟩ := h.correlation.exists_toReal hρ
  exact ⟨_, ⟨n, hn, ρ', hρ', shape, hshape, rfl⟩, rfl⟩

namespace StudyDesign

variable {d : StudyDesign α} {ms : List (RepeatedMeasure α)} {ks : List (Cluster α)}
  {cs : List (Covariance α)} {limits : Limits}

namespace IsReplacement

theorem covariance_rel (h : d.IsReplacement ms ks cs) (name : String) :
    Option.Rel Covariance.Alike (d.covariance name) ((d.replace ms ks cs).covariance name) :=
  List.rel_find?_of_forall₂ h.covariances fun c c' hc => by rw [hc.name]

/-- The structure with a name has a matrix of the shape that it had. -/
theorem exists_toMat (h : d.IsReplacement ms ks cs) {name : String} {c : Covariance α}
    (hc : d.covariance name = some c) {size : Datum α} {points points' : Option (Points α)}
    (hpoints : Option.Rel Points.Alike points points') {B : Mat α}
    (hB : (c.toMat size points).outcome = .ok (some B)) :
    ∃ c' B', (d.replace ms ks cs).covariance name = some c' ∧
      (c'.toMat size points').outcome = .ok (some B') ∧ B.shape = B'.shape := by
  have hrel := h.covariance_rel name
  rw [hc] at hrel
  generalize (d.replace ms ks cs).covariance name = found at hrel ⊢
  cases hrel with
  | some halike =>
    have hdecay := h.decays c (List.mem_of_find?_eq_some hc)
    obtain ⟨block, hblock, hshape⟩ := halike.exists_toMat hdecay hpoints hB
    obtain ⟨B', rfl, hB'⟩ := Option.map_eq_some_iff.mp hshape.symm
    exact ⟨_, B', rfl, hblock, hB'.symm⟩

/-- The covariance along a dimension keeps its shape. -/
theorem exists_measureBlock (h : d.IsReplacement ms ks cs) {m m' : RepeatedMeasure α}
    (hm : m.Alike m') {B : Mat α} (hB : (d.measureBlock m).outcome = .ok B) :
    ∃ B', ((d.replace ms ks cs).measureBlock m').outcome = .ok B' ∧ B.shape = B'.shape := by
  obtain ⟨c, p, hc, hp, hB⟩ := outcome_measureBlock_eq_ok_iff.mp hB
  obtain ⟨p', hp', hpp⟩ := hm.exists_points hp
  obtain ⟨c', B', hc', hB', hshape⟩ := h.exists_toMat hc (.some hpp) hB
  rw [hm.dimension] at hc'
  rw [hm.count] at hB'
  exact ⟨B', outcome_measureBlock_eq_ok_iff.mpr ⟨c', p', hc', hp', hB'⟩, hshape⟩

/-- So does the covariance of the responses. -/
theorem exists_responseBlock (h : d.IsReplacement ms ks cs) {B : Mat α}
    (hB : d.responseBlock.outcome = .ok B) :
    ∃ B', (d.replace ms ks cs).responseBlock.outcome = .ok B' ∧ B.shape = B'.shape := by
  obtain ⟨c, hc, hB⟩ := outcome_responseBlock_eq_ok_iff.mp hB
  obtain ⟨c', B', hc', hB', hshape⟩ := h.exists_toMat hc .none hB
  exact ⟨B', outcome_responseBlock_eq_ok_iff.mpr ⟨c', hc', hB'⟩, hshape⟩

/-- The product of all blocks keeps its shape. -/
theorem exists_guidedSigma (h : d.IsReplacement ms ks cs) {S : Mat α}
    (hS : d.guidedSigma.outcome = .ok S) :
    ∃ S', (d.replace ms ks cs).guidedSigma.outcome = .ok S' ∧ S.shape = S'.shape := by
  unfold guidedSigma at hS ⊢
  simp only [Journal.outcome_bind_eq_ok_iff, Journal.outcome_monadLift, Journal.outcome_pure,
    Journal.outcome_mapM_eq_ok_iff, List.mapM_eq_ok_iff, Except.ok.injEq] at hS ⊢
  obtain ⟨clusters, hclusters, measures, hmeasures, responses, hresponses, rfl⟩ := hS
  obtain ⟨clusters', hclusters', hcshapes⟩ := List.exists_forall₂_of_forall₂ h.clusters hclusters
    fun c c' B hc hB => hc.exists_clusterBlock hB
  obtain ⟨measures', hmeasures', hmshapes⟩ := List.exists_forall₂_of_forall₂ h.measures hmeasures
    fun m m' B hm hB => h.exists_measureBlock hm hB
  obtain ⟨responses', hresponses', hrshape⟩ := h.exists_responseBlock hresponses
  refine ⟨_, ⟨clusters', hclusters', measures', hmeasures', responses', hresponses', rfl⟩, ?_⟩
  refine shape_kronAll_congr ?_
  rw [List.map_append, List.map_append, List.map_append, List.map_append, List.map_singleton,
    List.map_singleton, hrshape, List.map_eq_map_of_forall₂ (fun _ _ hB => hB) hcshapes,
    List.map_eq_map_of_forall₂ (fun _ _ hB => hB) hmshapes]

/-! ### Matrices -/

/-- The covariance of the errors keeps its shape. -/
theorem exists_sigmaError (h : d.IsReplacement ms ks cs) {s : Option (Mat α)}
    (hs : d.sigmaError.outcome = .ok s) :
    ∃ s', (d.replace ms ks cs).sigmaError.outcome = .ok s' ∧
      s.map Mat.shape = s'.map Mat.shape := by
  cases hmode : d.isMatrixMode with
  | true =>
    refine ⟨s, ?_, rfl⟩
    unfold sigmaError at hs ⊢
    rw [if_pos hmode] at hs
    rw [if_pos (show (d.replace ms ks cs).isMatrixMode = true from hmode)]
    exact hs
  | false =>
    have hmode' : (d.replace ms ks cs).isMatrixMode = false := hmode
    obtain ⟨S, hS, hsquare, rfl⟩ := sigmaError_of_guided hmode hs
    obtain ⟨S', hS', hshape⟩ := h.exists_guidedSigma hS
    obtain ⟨hrows, hcols⟩ := Prod.mk.inj hshape
    refine ⟨some S'.symmetricPart, ?_, congrArg some hshape⟩
    unfold sigmaError symmetric
    rw [hmode', if_neg Bool.false_ne_true]
    simp only [Journal.outcome_bind_eq_ok_iff, Journal.outcome_monadLift,
      Except.check_bind_eq_ok_iff, checkSquare_eq_ok_iff, Except.pure_eq_ok_iff]
    exact ⟨S', hS', hrows.symm.trans (hsquare.trans hcols), rfl⟩

/-- So does that of the outcomes beside a covariate. -/
theorem exists_sigmaOutcome (h : d.IsReplacement ms ks cs) {s : Option (Mat α)}
    (hs : d.sigmaOutcome.outcome = .ok s) :
    ∃ s', (d.replace ms ks cs).sigmaOutcome.outcome = .ok s' ∧
      s.map Mat.shape = s'.map Mat.shape := by
  cases hmode : d.isMatrixMode with
  | true =>
    refine ⟨s, ?_, rfl⟩
    unfold sigmaOutcome at hs ⊢
    rw [if_pos hmode] at hs
    rw [if_pos (show (d.replace ms ks cs).isMatrixMode = true from hmode)]
    exact hs
  | false =>
    have hmode' : (d.replace ms ks cs).isMatrixMode = false := hmode
    unfold sigmaOutcome at hs ⊢
    rw [hmode, if_neg Bool.false_ne_true] at hs
    rw [hmode', if_neg Bool.false_ne_true]
    exact h.exists_sigmaError hs

/-- The sizes of clusters stay. -/
theorem clusterSize_eq (h : d.IsReplacement ms ks cs) :
    (d.replace ms ks cs).clusterSize = d.clusterSize := by
  have hmembers : d.clusters.mapM Cluster.members = ks.mapM Cluster.members :=
    List.mapM_eq_of_forall₂ h.clusters fun c c' hc => hc.members_eq
  have hempty : d.clusters.isEmpty = ks.isEmpty := by
    rw [Bool.eq_iff_iff, List.isEmpty_iff_length_eq_zero, List.isEmpty_iff_length_eq_zero,
      h.clusters.length_eq]
  unfold clusterSize
  rw [hmembers, hempty]
  rfl

/-- A part that is repeated for each cluster member stays. -/
theorem betaEffects_eq (h : d.IsReplacement ms ks cs) :
    (d.replace ms ks cs).betaEffects = d.betaEffects := by
  unfold betaEffects
  rw [h.clusterSize_eq]
  rfl

/-- The contrast within participants looks at the points of what is mapped, and only counts the
other measurements. -/
theorem guidedWithin_eq (h : d.IsReplacement ms ks cs) {g : Hypothesis α}
    (hprimary : d.primaryHypothesis = some g) :
    (d.replace ms ks cs).guidedWithin g = d.guidedWithin g := by
  by_cases hkind : g.kind = .manova
  · have hcount : outcomeCount ms d.responses = outcomeCount d.measures d.responses := by
      unfold outcomeCount
      rw [List.foldlM_eq_of_forall₂ h.measures fun n m m' hm => by rw [hm.count]]
    unfold guidedWithin
    rw [hkind]
    change withinManova ms d.responses = withinManova d.measures d.responses
    unfold withinManova
    rw [hcount]
  · have htested : testedBlocks (measureLevels ms) g.kind g.within =
        testedBlocks (measureLevels d.measures) g.kind g.within := by
      refine testedBlocks_congr fun m hm => ?_
      have hfind := h.tested g hprimary m hm
      exact ⟨congrArg (RepeatedMeasure.count <$> ·) hfind.symm,
        congrArg (· >>= RepeatedMeasure.points) hfind.symm⟩
    have hproduct : ∀ tested : Blocks α, Contrast.within tested ms d.responses =
        Contrast.within tested d.measures d.responses := by
      intro tested
      have hblocks : d.measures.mapM (Contrast.measureBlock tested) =
          ms.mapM (Contrast.measureBlock tested) := by
        refine List.mapM_eq_of_forall₂ h.measures fun m m' hm => ?_
        unfold Contrast.measureBlock
        rw [hm.dimension, hm.count]
      unfold Contrast.within
      rw [hblocks]
    rw [StudyDesign.guidedWithin_eq _ hkind, StudyDesign.guidedWithin_eq _ hkind]
    change (testedBlocks (measureLevels ms) g.kind g.within >>= fun tested =>
      Contrast.within tested ms d.responses) = _
    rw [htested]
    exact bind_congr hproduct

/-- The contrast within participants stays the same. -/
theorem withinContrast_eq (h : d.IsReplacement ms ks cs) :
    (d.replace ms ks cs).withinContrast = d.withinContrast := by
  have hprimary' : (d.replace ms ks cs).primaryHypothesis = d.primaryHypothesis := rfl
  have hmode : (d.replace ms ks cs).isMatrixMode = d.isMatrixMode := rfl
  unfold withinContrast
  rw [hprimary', hmode, h.clusterSize_eq]
  cases hprimary : d.primaryHypothesis with
  | none => rfl
  | some g =>
    dsimp only
    rw [h.guidedWithin_eq hprimary]
    rfl

/-- The covariance with the covariate keeps its shape when that of the outcomes does. -/
theorem exists_sigmaOutcomeCovariate (h : d.IsReplacement ms ks cs)
    {covariate outcome outcome' : Option (Mat α)}
    (houtcome : outcome.map Mat.shape = outcome'.map Mat.shape) {x : Option (Mat α)}
    (hx : (d.sigmaOutcomeCovariate covariate outcome).outcome = .ok x) :
    ∃ x', ((d.replace ms ks cs).sigmaOutcomeCovariate covariate outcome').outcome = .ok x' ∧
      x.map Mat.shape = x'.map Mat.shape := by
  have hliteral : (d.replace ms ks cs).matrix .sigmaOutcomeGaussian =
      d.matrix .sigmaOutcomeGaussian := rfl
  have hmode : (d.replace ms ks cs).isMatrixMode = d.isMatrixMode := rfl
  unfold sigmaOutcomeCovariate at hx ⊢
  rw [hliteral, hmode, h.clusterSize_eq]
  cases hcross : d.matrix .sigmaOutcomeGaussian with
  | none =>
    rw [hcross] at hx
    exact ⟨x, hx, rfl⟩
  | some cross =>
    rw [hcross] at hx
    dsimp only at hx ⊢
    split at hx
    · next hliteral =>
      rw [if_pos hliteral]
      exact ⟨x, hx, rfl⟩
    · next hguided =>
      rw [if_neg hguided]
      split at hx
      · cases hx
      · cases hx
      · next variance S hvariance =>
        obtain ⟨S', rfl, hshape⟩ := Option.map_eq_some_iff.mp houtcome.symm
        obtain ⟨hrows, hcols⟩ := Prod.mk.inj hshape
        rw [hvariance]
        dsimp only
        rw [hrows, hcols]
        split at hx
        · cases hx
        · next hfits =>
          rw [if_neg hfits]
          split at hx
          · cases hx
          · next hcolumn =>
            rw [if_neg hcolumn]
            simp only [Journal.outcome_bind_eq_ok_iff, Journal.outcome_monadLift,
              Journal.outcome_noteMat, Journal.outcome_pure, Except.ok.injEq] at hx ⊢
            obtain ⟨-, -, n, hn, y, hy, rfl⟩ := hx
            have hscaled : (scaleFirstColumn cross (variance.get 0 0) S).shape =
                (scaleFirstColumn cross (variance.get 0 0) S').shape := rfl
            obtain ⟨y', hy', hyshape⟩ := exists_repeatDown_alike hscaled hy
            exact ⟨some y', ⟨(), trivial, n, hn, y', hy', rfl⟩, congrArg some hyshape⟩

/-- The rules on the design as a whole look at names. -/
theorem checkAdmissible_eq (h : d.IsReplacement ms ks cs) :
    (d.replace ms ks cs).checkAdmissible limits = d.checkAdmissible limits := by
  have hdimensions : d.measures.map (·.dimension) = ms.map (·.dimension) :=
    List.map_eq_map_of_forall₂ (fun _ _ hm => hm.dimension) h.measures
  have hnames : d.covariances.map (·.name) = cs.map (·.name) :=
    List.map_eq_map_of_forall₂ (fun _ _ hc => hc.name) h.covariances
  unfold checkAdmissible
  rw [hdimensions, hnames]
  rfl

/-- A design that is replaced builds its covariances too, of the shapes that they had. -/
theorem exists_previewCovariances (h : d.IsReplacement ms ks cs)
    {xs : List (MatrixRole × Option (Mat α))} (hxs : d.previewCovariances.outcome = .ok xs) :
    ∃ xs', (d.replace ms ks cs).previewCovariances.outcome = .ok xs' ∧
      xs.map (fun entry => (entry.1, entry.2.map Mat.shape)) =
        xs'.map fun entry => (entry.1, entry.2.map Mat.shape) := by
  cases hg : d.gaussianCovariate with
  | true =>
    have hg' : (d.replace ms ks cs).gaussianCovariate = true := hg
    obtain ⟨y, hy, z, hz, rfl⟩ := (previewCovariances_of_gaussian hg).mp hxs
    obtain ⟨y', hy', hyshape⟩ := h.exists_sigmaOutcome hy
    obtain ⟨z', hz', hzshape⟩ := h.exists_sigmaOutcomeCovariate hyshape hz
    refine ⟨_, (previewCovariances_of_gaussian hg').mpr ⟨y', hy', z', hz', rfl⟩, ?_⟩
    simp only [List.map_cons, List.map_nil, hyshape, hzshape]
    rfl
  | false =>
    have hg' : (d.replace ms ks cs).gaussianCovariate = false := hg
    obtain ⟨s, hs, rfl⟩ := (previewCovariances_of_not_gaussian hg).mp hxs
    obtain ⟨s', hs', hsshape⟩ := h.exists_sigmaError hs
    refine ⟨_, (previewCovariances_of_not_gaussian hg').mpr ⟨s', hs', rfl⟩, ?_⟩
    simp only [List.map_cons, List.map_nil, hsshape]

/-- The matrices that the builders make keep their shapes. -/
theorem shape_built (h : d.IsReplacement ms ks cs) (hbuilds : d.Builds limits)
    (role : MatrixRole) :
    (d.built role).map Mat.shape = ((d.replace ms ks cs).built role).map Mat.shape := by
  have hcovariances : ∀ r ∈ d.covarianceRoles,
      (d.built r).map Mat.shape = ((d.replace ms ks cs).built r).map Mat.shape := by
    intro r hr
    obtain ⟨xs', hxs', hshapes⟩ := h.exists_previewCovariances hbuilds.covariances
    obtain rfl := previewCovariances_of_ok hxs'
    have hroles : (d.replace ms ks cs).covarianceRoles = d.covarianceRoles := rfl
    rw [hroles, List.map_map, List.map_map, List.map_inj_left] at hshapes
    exact (Prod.mk.inj (hshapes r hr)).2
  have hflag : (d.replace ms ks cs).gaussianCovariate = d.gaussianCovariate := rfl
  cases role with
  | design | betweenContrast | betweenContrastRandom => rfl
  | beta | betaRandom =>
    unfold built
    rw [h.betaEffects_eq]
  | withinContrast =>
    unfold built
    rw [h.withinContrast_eq]
  | thetaNull =>
    unfold built
    rw [h.withinContrast_eq]
    rfl
  | sigmaError =>
    cases hg : d.gaussianCovariate with
    | true => simp [built, hflag, hg]
    | false => exact hcovariances _ (by simp [covarianceRoles, hg])
  | sigmaOutcome | sigmaGaussian | sigmaOutcomeGaussian =>
    cases hg : d.gaussianCovariate with
    | true => exact hcovariances _ (by simp [covarianceRoles, hg])
    | false => simp [built, hflag, hg]

theorem builds (h : d.IsReplacement ms ks cs) (hbuilds : d.Builds limits) :
    (d.replace ms ks cs).Builds limits := by
  obtain ⟨xs', hxs', -⟩ := h.exists_previewCovariances hbuilds.covariances
  exact {
    admissible := h.checkAdmissible_eq.trans hbuilds.admissible
    design := hbuilds.design
    means := by
      unfold built
      rw [h.betaEffects_eq]
      exact hbuilds.means
    between := hbuilds.between
    within := by
      unfold built
      rw [h.withinContrast_eq]
      exact hbuilds.within
    covariances := previewCovariances_of_ok hxs' ▸ hxs' }

end IsReplacement

/-! ### Acceptance -/

/-- **Other numbers do not make an accepted design refused.** -/
theorem IsReplacement.exists_assemble (h : d.IsReplacement ms ks cs)
    (hd : ∃ b, (d.assemble limits).outcome = .ok b) :
    ∃ b, ((d.replace ms ks cs).assemble limits).outcome = .ok b := by
  rw [exists_assemble_iff] at hd ⊢
  obtain ⟨hbuilds, hrequires, hconforming⟩ := hd
  have hshapes := h.shape_built hbuilds
  refine ⟨h.builds hbuilds, fun role hrole => ?_, hconforming.congr hshapes⟩
  obtain ⟨m, hm, hrows, hcols⟩ := hrequires role hrole
  have hshape := hshapes role
  rw [hm, Option.map_some, eq_comm] at hshape
  obtain ⟨m', hm', hshape⟩ := Option.map_eq_some_iff.mp hshape
  obtain ⟨hrows', hcols'⟩ := Prod.mk.inj hshape
  exact ⟨m', hm', by omega, by omega⟩

end StudyDesign

end StudyPower
