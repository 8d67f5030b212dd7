import StudyPower.Journal
import StudyPower.Literal
import Mathlib.Data.List.Forall2

/-!
# Computations that succeed

A computation that ends with a result has gone through every step before it, so what a design is
assembled from can be read off the fact that it was assembled.

## Main statements

* `Except.bind_eq_ok_iff`, `Journal.outcome_bind_eq_ok_iff` — a sequence succeeds when both of its
  parts do.
* `List.mapM_eq_ok_iff` — a list of computations succeeds member by member.
* `checkConformable_eq_ok_iff` and its kin, `checkShape_of_ok` — what it means to pass a check.
-/

namespace Except

variable {ε α β : Type}

/-- A sequence succeeds when its first part does, and its second part on that result. -/
theorem bind_eq_ok_iff {x : Except ε α} {f : α → Except ε β} {b : β} :
    x >>= f = .ok b ↔ ∃ a, x = .ok a ∧ f a = .ok b := by
  cases x <;> simp [Bind.bind, Except.bind]

/-- What follows a check succeeds when the check passes and it does so itself. -/
theorem check_bind_eq_ok_iff {x : Except ε Unit} {y : Except ε β} {b : β} :
    (x >>= fun _ => y) = .ok b ↔ x = .ok () ∧ y = .ok b := by
  rw [bind_eq_ok_iff]
  constructor
  · rintro ⟨⟨⟩, hx, hy⟩
    exact ⟨hx, hy⟩
  · rintro ⟨hx, hy⟩
    exact ⟨(), hx, hy⟩

@[simp] theorem pure_eq_ok_iff {a b : α} : (pure a : Except ε α) = .ok b ↔ a = b := by
  simp [Pure.pure, Except.pure]

@[simp] theorem throw_eq_ok_iff {e : ε} {b : α} : (throw e : Except ε α) = .ok b ↔ False := by
  simp [throw, throwThe, MonadExceptOf.throw]

theorem map_eq_ok_iff {x : Except ε α} {f : α → β} {b : β} :
    f <$> x = .ok b ↔ ∃ a, x = .ok a ∧ f a = b := by
  cases x <;> simp [Functor.map, Except.map]

/-- A result that can be read off a computation is the result of that computation. -/
theorem eq_ok_of_toOption {x : Except ε α} {a : α} (h : x.toOption = some a) : x = .ok a := by
  cases x with
  | error e => simp [Except.toOption] at h
  | ok b => rw [Option.some.inj h]

theorem exists_eq_ok_of_isSome {x : Except ε α} (h : x.toOption.isSome) : ∃ a, x = .ok a := by
  obtain ⟨a, ha⟩ := Option.isSome_iff_exists.mp h
  exact ⟨a, eq_ok_of_toOption ha⟩

theorem exists_eq_ok_of_any {x : Except ε α} {p : α → Bool} (h : x.toOption.any p = true) :
    ∃ a, x = .ok a ∧ p a = true := by
  cases x with
  | error e => cases h
  | ok a => exact ⟨a, rfl, h⟩

end Except

namespace Option

variable {ε α β : Type}

theorem mapM_eq_ok_some_iff {f : α → Except ε β} {x : Option α} {b : β} :
    x.mapM f = .ok (some b) ↔ ∃ a, x = some a ∧ f a = .ok b := by
  cases x with
  | none => simp
  | some a => simp [Except.map_eq_ok_iff]

end Option

namespace List

variable {ε α β : Type}

/-- A list of computations succeeds member by member. -/
theorem mapM_eq_ok_iff {f : α → Except ε β} {xs : List α} {ys : List β} :
    xs.mapM f = .ok ys ↔ Forall₂ (fun x y => f x = .ok y) xs ys := by
  induction xs generalizing ys with
  | nil => cases ys <;> simp
  | cons x xs ih =>
    simp only [List.mapM_cons, Except.bind_eq_ok_iff, Except.pure_eq_ok_iff]
    constructor
    · rintro ⟨y, hy, ys', hys, rfl⟩
      exact .cons hy (ih.mp hys)
    · intro h
      cases h with
      | cons hy hys => exact ⟨_, hy, _, ih.mpr hys, rfl⟩

/-- Two lists that agree member by member have the same images. -/
theorem map_eq_map_of_forall₂ {γ : Type} {R : α → β → Prop} {f : α → γ} {g : β → γ} {xs : List α}
    {ys : List β} (hR : ∀ x y, R x y → f x = g y) (h : Forall₂ R xs ys) : xs.map f = ys.map g := by
  induction h with
  | nil => rfl
  | cons hxy _ ih => rw [List.map_cons, List.map_cons, hR _ _ hxy, ih]

theorem exists_mem_of_forall₂ {R : α → β → Prop} {xs : List α} {ys : List β} (h : Forall₂ R xs ys)
    {x : α} (hx : x ∈ xs) : ∃ y ∈ ys, R x y := by
  induction h with
  | nil => exact absurd hx not_mem_nil
  | cons hxy _ ih =>
    rcases mem_cons.mp hx with rfl | hmem
    · exact ⟨_, mem_cons_self, hxy⟩
    · obtain ⟨y, hy, hR⟩ := ih hmem
      exact ⟨y, mem_cons_of_mem _ hy, hR⟩

theorem exists_of_forall₂ {R : α → β → Prop} {xs : List α} {ys : List β} (h : Forall₂ R xs ys)
    {x : α} (hx : x ∈ xs) : ∃ y, R x y :=
  (exists_mem_of_forall₂ h hx).imp fun _ => And.right

/-- A list is related to some other list when each of its members is related to something. -/
theorem exists_forall₂_iff {R : α → β → Prop} {xs : List α} :
    (∃ ys, Forall₂ R xs ys) ↔ ∀ x ∈ xs, ∃ y, R x y := by
  refine ⟨fun ⟨ys, h⟩ x hx => exists_of_forall₂ h hx, fun h => ?_⟩
  induction xs with
  | nil => exact ⟨[], .nil⟩
  | cons x xs ih =>
    obtain ⟨⟨y, hy⟩, hrest⟩ := forall_mem_cons.mp h
    obtain ⟨ys, hys⟩ := ih hrest
    exact ⟨y :: ys, .cons hy hys⟩

end List

namespace StudyPower.Journal

variable {α β γ : Type}

/-- A sequence succeeds when its first part does, and its second part on that result. -/
theorem outcome_bind_eq_ok_iff {j : Journal α β} {f : β → Journal α γ} {c : γ} :
    (j >>= f).outcome = .ok c ↔ ∃ b, j.outcome = .ok b ∧ (f b).outcome = .ok c := by
  rw [outcome_bind, Except.bind_eq_ok_iff]

instance : LawfulMonad (Journal α) := by
  refine LawfulMonad.mk' _ ?_ (fun _ _ => rfl) ?_
  · rintro β ⟨notes, outcome⟩
    cases outcome with
    | error e => rfl
    | ok b => exact congrArg (Journal.mk · (.ok b)) (List.append_nil notes)
  · rintro β γ δ ⟨notes, outcome⟩ f g
    cases outcome with
    | error e => rfl
    | ok b =>
      change Journal.bind (Journal.bind _ f) g = Journal.bind _ fun b => Journal.bind (f b) g
      simp only [Journal.bind]
      cases (f b).outcome with
      | error e => rfl
      | ok c => simp only [List.append_assoc]

/-- A list of computations succeeds member by member. -/
theorem outcome_mapM_eq_ok_iff {f : β → Journal α γ} {xs : List β} {ys : List γ} :
    (xs.mapM f).outcome = .ok ys ↔ List.Forall₂ (fun x y => (f x).outcome = .ok y) xs ys := by
  induction xs generalizing ys with
  | nil => cases ys <;> simp
  | cons x xs ih =>
    simp only [List.mapM_cons, outcome_bind_eq_ok_iff, outcome_pure, Except.ok.injEq]
    constructor
    · rintro ⟨y, hy, ys', hys, rfl⟩
      exact .cons hy (ih.mp hys)
    · intro h
      cases h with
      | cons hy hys => exact ⟨_, hy, _, ih.mpr hys, rfl⟩

end StudyPower.Journal

/-! ### Checks -/

namespace StudyPower

variable {α : Type}

theorem checkConformable_eq_ok_iff {m n : ℕ} {left right : String} :
    checkConformable (α := α) m n left right = .ok () ↔ m = n := by
  unfold checkConformable
  rw [← Int.ofNat_inj]
  split
  · next h => simpa using h
  · next h => simpa using h

theorem checkSquare_eq_ok_iff {m : Mat α} {name : String} :
    checkSquare m name = .ok () ↔ m.rows = m.cols := by
  unfold checkSquare
  split
  · next h => simpa using h
  · next h => simpa using h

theorem checkNonempty_eq_ok_iff {m : Mat α} {name : String} :
    checkNonempty m name = .ok () ↔ 0 < m.rows ∧ 0 < m.cols := by
  unfold checkNonempty
  split
  · next h =>
    simp only [reduceCtorEq, false_iff]
    omega
  · next h =>
    simp only [true_iff]
    omega

/-- A shape that passes is the one that was asked for. -/
theorem checkShape_of_ok [Scalar α] {r c : Int} {shape : ℕ × ℕ}
    (h : checkShape (α := α) r c = .ok shape) : shape = (r.toNat, c.toNat) := by
  unfold checkShape at h
  simp only at h
  split at h
  · simp [Except.bind_eq_ok_iff] at h
  · simp only [Except.bind_eq_ok_iff] at h
    obtain ⟨storage, -, h⟩ := h
    split at h
    · simp [Except.map_eq_ok_iff] at h
    · exact (Except.pure_eq_ok_iff.mp h).symm

/-- Where storage is no concern, every shape passes. -/
theorem checkShape_eq_ok [Scalar α] (hstorage : Scalar.entrySize α = 0) (r c : ℕ) :
    checkShape (α := α) r c = .ok (r, c) := by
  have hside : ∀ n : ℕ, checkStorage (α := α) 0 n = .ok 0 := by
    intro n
    unfold checkStorage
    rcases Nat.eq_zero_or_pos n with rfl | hn
    · rfl
    · rw [if_neg (by omega), if_neg (by omega), Int.zero_mul, if_neg (by decide)]
  unfold checkShape
  rw [hstorage]
  simp only [ne_eq, not_true_eq_false, decide_false, Bool.false_and, Bool.or_self,
    Bool.false_eq_true, if_false, List.foldlM_cons, List.foldlM_nil, Except.bind_eq_ok_iff,
    Except.pure_eq_ok_iff]
  exact ⟨0, ⟨0, hside r, 0, hside c, rfl⟩, if_neg (by decide)⟩

end StudyPower
