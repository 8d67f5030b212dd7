import StudyPower.Proofs.Success

/-!
# Computations that fail

What a computation can fail with is read off its steps: a fault of a sequence is a fault of its
first part, or of its second part on the result of the first.

## Main definitions

* `Except.FailsWith P x` — every fault of `x` satisfies `P`.
* `Except.fault? x` — the fault of `x`, when it fails.

## Main statements

* `Except.FailsWith.bind`, `Except.FailsWith.mapM`, `Except.FailsWith.foldlM` — a sequence, a list
  of computations and a fold fail with what their steps fail with.
-/

namespace Except

variable {ε α β : Type}

/-- Every fault of a computation satisfies `P`. -/
def FailsWith (P : ε → Prop) (x : Except ε α) : Prop := ∀ e, x = .error e → P e

/-- The fault of a computation, when it fails. -/
def fault? : Except ε α → Option ε
  | .error e => some e
  | .ok _ => none

theorem eq_error_of_fault? {x : Except ε α} {e : ε} (h : x.fault? = some e) : x = .error e := by
  cases x with
  | error e' => rw [Option.some.inj h]
  | ok a => cases h

namespace FailsWith

variable {P Q : ε → Prop} {x : Except ε α}

@[simp] theorem ok (a : α) : FailsWith P (.ok a : Except ε α) := by
  intro e h
  cases h

@[simp] theorem pure (a : α) : FailsWith P (Pure.pure a : Except ε α) := ok a

theorem error {e : ε} (h : P e) : FailsWith P (.error e : Except ε α) := by
  intro e' he
  cases he
  exact h

theorem throw {e : ε} (h : P e) : FailsWith P (MonadExcept.throw e : Except ε α) := error h

/-- What follows a fault does not run. -/
theorem throw_bind {e : ε} {f : α → Except ε β} (h : P e) :
    FailsWith P ((MonadExcept.throw e : Except ε α) >>= f) :=
  error h

theorem mono (h : FailsWith P x) (himp : ∀ e, P e → Q e) : FailsWith Q x :=
  fun e he => himp e (h e he)

/-- A sequence fails with what its first part fails with, or its second part on that result. -/
theorem bind {f : α → Except ε β} (hx : FailsWith P x)
    (hf : ∀ a, x = .ok a → FailsWith P (f a)) : FailsWith P (x >>= f) := by
  intro e he
  cases hxe : x with
  | error e' =>
    rw [hxe] at he
    cases he
    exact hx e hxe
  | ok a =>
    rw [hxe] at he
    exact hf a hxe e he

theorem map {f : α → β} (hx : FailsWith P x) : FailsWith P (f <$> x) := by
  intro e he
  cases x with
  | error e' =>
    cases he
    exact hx e rfl
  | ok a => cases he

/-- A list of computations fails with what its members fail with. -/
theorem mapM {f : α → Except ε β} {xs : List α} (h : ∀ x ∈ xs, FailsWith P (f x)) :
    FailsWith P (xs.mapM f) := by
  induction xs with
  | nil => simp
  | cons x xs ih =>
    rw [List.mapM_cons]
    refine bind (h x (List.mem_cons_self ..)) fun y _ => ?_
    exact bind (ih fun z hz => h z (List.mem_cons_of_mem _ hz)) fun ys _ => pure _

theorem forM {f : α → Except ε PUnit} {xs : List α} (h : ∀ x ∈ xs, FailsWith P (f x)) :
    FailsWith P (xs.forM f) := by
  induction xs with
  | nil => exact pure _
  | cons x xs ih =>
    refine bind (h x (List.mem_cons_self ..)) fun _ _ => ?_
    exact ih fun z hz => h z (List.mem_cons_of_mem _ hz)

theorem foldlM {f : β → α → Except ε β} {xs : List α} {b : β}
    (h : ∀ b, ∀ x ∈ xs, FailsWith P (f b x)) : FailsWith P (xs.foldlM f b) := by
  induction xs generalizing b with
  | nil => exact pure _
  | cons x xs ih =>
    rw [List.foldlM_cons]
    refine bind (h b x (List.mem_cons_self ..)) fun y _ => ?_
    exact ih fun b z hz => h b z (List.mem_cons_of_mem _ hz)

theorem optionMapM {f : α → Except ε β} {x : Option α} (h : ∀ a, x = some a → FailsWith P (f a)) :
    FailsWith P (x.mapM f) := by
  cases x with
  | none => exact pure _
  | some a => exact map (h a rfl)

end FailsWith

end Except

namespace StudyPower.Journal

open Except

variable {α β γ : Type} {P : Fault α → Prop}

theorem failsWith_bind {j : Journal α β} {f : β → Journal α γ} (hj : FailsWith P j.outcome)
    (hf : ∀ b, j.outcome = .ok b → FailsWith P (f b).outcome) :
    FailsWith P (j >>= f).outcome := by
  rw [outcome_bind]
  exact hj.bind hf

theorem failsWith_mapM {f : β → Journal α γ} {xs : List β}
    (h : ∀ x ∈ xs, FailsWith P (f x).outcome) : FailsWith P (xs.mapM f).outcome := by
  induction xs with
  | nil => exact FailsWith.pure _
  | cons x xs ih =>
    rw [List.mapM_cons]
    refine failsWith_bind (h x (List.mem_cons_self ..)) fun y _ => ?_
    exact failsWith_bind (ih fun z hz => h z (List.mem_cons_of_mem _ hz)) fun ys _ =>
      FailsWith.pure _

end StudyPower.Journal
