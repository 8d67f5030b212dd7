import StudyPower.Design.Draft
import StudyPower.Proofs.Scalar.Propagation
import StudyPower.Proofs.Success

/-!
# Designs that went through their checks

A design is edited by checking its draft again.  A design that went through the checks once goes
through them again unchanged, so an edit changes the fields that it names and nothing else.  Its
matrices are converted from arrays again, and that changes none of them.

## Main definitions

* `StudyDesign.IsChecked` — the design came out of a draft.

## Main statements

* `NdArray.toMat_ofMat`, `Literals.check_ofMats_eq_ok_iff` — matrices that are converted again.
* `StudyDesign.isChecked_iff` — only the literal matrices can keep a design from being checked.
* `StudyDesign.withGoal_of_isChecked` — a checked design with another goal differs there only.
-/

namespace StudyPower

variable {α : Type}

/-! ### Words and lists read back -/

theorem ofWord?_viewMode (t : ViewMode) : Term.ofWord? (Term.word t) = some t := by
  cases t <;> decide

theorem ofWord?_goal (t : Goal) : Term.ofWord? (Term.word t) = some t := by
  cases t <;> decide

theorem ofWord?_statisticalTest (t : StatisticalTest) : Term.ofWord? (Term.word t) = some t := by
  cases t <;> decide

theorem ofWord?_powerMethod (t : PowerMethod) : Term.ofWord? (Term.word t) = some t := by
  cases t <;> decide

namespace StudyDesign

/-- A word that is looked up under itself is read as its member. -/
theorem toTerm_wordDatum {τ : Type} [Term τ] {t : τ}
    (h : Term.ofWord? (Term.word t) = some t) : (wordDatum t : Datum α).toTerm τ = .ok t := by
  unfold Datum.toTerm wordDatum
  dsimp only
  rw [h]

/-- A sequence is read back when its members are. -/
theorem toSequence_listDatum {β : Type} (read : Datum α → Except (Fault α) β) (f : β → Datum α)
    (hread : ∀ x, read (f x) = .ok x) (xs : Option (List β)) :
    (listDatum f xs).toSequence read = .ok xs := by
  cases xs with
  | none => rfl
  | some xs =>
    have hmembers : (xs.map f).mapM read = .ok xs := by
      rw [List.mapM_eq_ok_iff, List.forall₂_map_left_iff, List.forall₂_same]
      exact fun x _ => hread x
    unfold listDatum Datum.toSequence
    change (do return some (← (xs.map f).mapM read)) = _
    rw [hmembers]
    rfl

end StudyDesign

/-! ### Matrices read back -/

/-- An entry of rows of one length, by its place among all entries. -/
theorem getElem?_flatten_of_length {rows : List (List α)} {c : ℕ}
    (h : ∀ row ∈ rows, row.length = c) (i : ℕ) {j : ℕ} (hj : j < c) :
    rows.flatten[i * c + j]? = rows[i]?.bind (·[j]?) := by
  induction rows generalizing i with
  | nil => simp
  | cons row rows ih =>
    obtain ⟨hrow, hrows⟩ := List.forall_mem_cons.mp h
    rw [List.flatten_cons]
    cases i with
    | zero =>
      rw [Nat.zero_mul, Nat.zero_add, List.getElem?_append_left (by omega)]
      rfl
    | succ i =>
      have hplace : (i + 1) * c + j - row.length = i * c + j := by
        rw [hrow, Nat.succ_mul]
        omega
      rw [List.getElem?_append_right (by rw [hrow, Nat.succ_mul]; omega), hplace, ih hrows]
      rfl

theorem Mat.getElem?_toList [Zero α] (m : Mat α) {i j : ℕ} (hi : i < m.rows) (hj : j < m.cols) :
    m.toList[i * m.cols + j]? = some (m.get i j) := by
  have hlength : ∀ row ∈ m.toRows, row.length = m.cols := by
    intro row hrow
    obtain ⟨entries, -, rfl⟩ := List.mem_map.mp hrow
    exact Vector.length_toList
  rw [toList, getElem?_flatten_of_length hlength i hj]
  simp [toRows, get, hi, hj]

theorem Mat.ofArray_toList [Zero α] (m : Mat α) :
    ofArray m.rows m.cols m.toList.toArray = m := by
  refine ext_get rfl rfl fun i j (hi : i < m.rows) (hj : j < m.cols) => ?_
  rw [ofArray, get_ofFn _ hi hj, List.getElem?_toArray, getElem?_toList m hi hj]
  rfl

/-- A matrix is read back from its array. -/
theorem NdArray.toMat_ofMat [Zero α] (m : Mat α) (name : String) :
    (ofMat m).toMat name = .ok m :=
  congrArg Except.ok (Mat.ofArray_toList m)

variable [Scalar α]

theorem checkFinite_eq_ok_iff {m : Mat α} {name : String} :
    checkFinite m.toList name = .ok () ↔ m.AllFinite := by
  rw [Mat.allFinite_iff, ← List.all_eq_true]
  unfold checkFinite
  split
  · next h => exact iff_of_true rfl h
  · next h => exact iff_of_false nofun h

theorem Literal.check_eq_ok_iff {name : String} {l : Literal α} {p : String × Mat α} :
    l.check name = .ok p ↔ ∃ a, l.toArray name = .ok a ∧ ∃ m, a.toMat name = .ok m ∧
      checkFinite m.toList name = .ok () ∧ (name, m) = p := by
  unfold check
  rw [Except.bind_eq_ok_iff]
  refine exists_congr fun a => and_congr_right fun _ => ?_
  rw [Except.bind_eq_ok_iff]
  refine exists_congr fun m => and_congr_right fun _ => ?_
  rw [Except.check_bind_eq_ok_iff, Except.pure_eq_ok_iff]

/-- A matrix that is converted again stays as it is. -/
theorem Literal.check_ofMat (name : String) (m : Mat α) :
    (Literal.array (.ofMat m)).check name =
      checkFinite m.toList name >>= fun _ => .ok (name, m) := by
  unfold check toArray
  change ((NdArray.ofMat m).toMat name >>= fun m => do
    checkFinite m.toList name
    return (name, m)) = _
  rw [NdArray.toMat_ofMat]
  rfl

theorem Literals.check_ofMats (ms : List (String × Mat α)) :
    (ofMats ms).check =
      ms.mapM fun p => checkFinite p.2.toList p.1 >>= fun _ => .ok (p.1, p.2) := by
  have hcheck : (ofMats ms).check =
      (ms.map fun p => (p.1, Literal.array (.ofMat p.2))).mapM fun p => p.2.check p.1 := rfl
  rw [hcheck, List.mapM_map]
  simp only [Function.comp_def, Literal.check_ofMat]

/-- The matrices of a design are checked to themselves exactly if their entries are real. -/
theorem Literals.check_ofMats_eq_ok_iff {ms ms' : List (String × Mat α)} :
    (ofMats ms).check = .ok ms' ↔
      ms = ms' ∧ ∀ p ∈ ms, checkFinite p.2.toList p.1 = .ok () := by
  rw [check_ofMats, List.mapM_eq_ok_iff]
  simp only [Except.check_bind_eq_ok_iff, Except.ok.injEq]
  constructor
  · intro h
    induction h with
    | nil => exact ⟨rfl, fun _ hp => absurd hp List.not_mem_nil⟩
    | cons hp _ ih =>
      obtain ⟨hfinite, rfl⟩ := hp
      obtain ⟨rfl, hrest⟩ := ih
      exact ⟨rfl, List.forall_mem_cons.mpr ⟨hfinite, hrest⟩⟩
  · rintro ⟨rfl, h⟩
    exact List.forall₂_same.mpr fun p hp => ⟨h p hp, rfl⟩

/-- Literal matrices that were checked have real entries only. -/
theorem Literals.finite_of_check {l : Literals α} {ms : List (String × Mat α)}
    (h : l.check = .ok ms) : ∀ p ∈ ms, checkFinite p.2.toList p.1 = .ok () := by
  unfold check at h
  simp only [Except.bind_eq_ok_iff, List.mapM_eq_ok_iff, Literal.check_eq_ok_iff] at h
  obtain ⟨literals, -, hliterals⟩ := h
  clear * - hliterals
  induction hliterals with
  | nil => exact fun _ hp => absurd hp List.not_mem_nil
  | cons hp _ ih =>
    obtain ⟨a, -, m, -, hfinite, rfl⟩ := hp
    exact List.forall_mem_cons.mpr ⟨hfinite, ih⟩

/-! ### Designs read back -/

namespace StudyDesign

variable {d : StudyDesign α}

/-- The design came out of the checks of a draft. -/
def IsChecked (d : StudyDesign α) : Prop := ∃ draft : Draft α, draft.check = .ok d

theorem finite_of_isChecked (h : d.IsChecked) :
    ∀ p ∈ d.matrices, checkFinite p.2.toList p.1 = .ok () := by
  obtain ⟨draft, hcheck⟩ := h
  unfold Draft.check at hcheck
  simp only [Except.bind_eq_ok_iff, Except.pure_eq_ok_iff] at hcheck
  obtain ⟨_, -, _, -, _, -, _, -, _, -, _, -, _, -, _, -, _, -, _, -, _, -, _, -, _, -, _, -, _, -,
    _, -, _, -, ms, hms, rfl⟩ := hcheck
  exact Literals.finite_of_check hms

/-- Everything but the literal matrices is read back as it is, whatever the goal. -/
theorem check_draft_with (goal : Goal) (l : Literals α) :
    { d.draft with goal := wordDatum goal, matrices := l }.check =
      l.check >>= fun ms => .ok { d with goal, matrices := ms } := by
  have hview := toTerm_wordDatum (α := α) (ofWord?_viewMode d.view)
  have hgoal := toTerm_wordDatum (α := α) (ofWord?_goal goal)
  have htests := toSequence_listDatum (α := α) _ _
    (fun t => toTerm_wordDatum (ofWord?_statisticalTest t)) d.tests
  have hmethods := toSequence_listDatum (α := α) _ _
    (fun t => toTerm_wordDatum (ofWord?_powerMethod t)) d.powerMethods
  have hreals := toSequence_listDatum (α := α) Datum.toReal .real fun _ => rfl
  have hvalues := toSequence_listDatum (α := α) .ok id fun _ => rfl
  unfold Draft.check draft
  dsimp only
  rw [hview, hgoal, htests, hmethods]
  simp only [hreals, hvalues]
  rfl

theorem check_draft_assign_goal (hfinite : ∀ p ∈ d.matrices, checkFinite p.2.toList p.1 = .ok ())
    (goal : Goal) : (d.draft.assign (.goal (wordDatum goal))).check = .ok { d with goal } := by
  have hmatrices : (Literals.ofMats d.matrices).check = .ok d.matrices :=
    Literals.check_ofMats_eq_ok_iff.mpr ⟨rfl, hfinite⟩
  change { d.draft with goal := wordDatum goal, matrices := .ofMats d.matrices }.check = _
  rw [check_draft_with, hmatrices]
  rfl

/-- Only the literal matrices can keep a design from being checked. -/
theorem isChecked_iff :
    d.IsChecked ↔ ∀ p ∈ d.matrices, checkFinite p.2.toList p.1 = .ok () :=
  ⟨finite_of_isChecked, fun h => ⟨_, check_draft_assign_goal h d.goal⟩⟩

theorem isChecked_iff_allFinite : d.IsChecked ↔ ∀ p ∈ d.matrices, p.2.AllFinite := by
  simp only [isChecked_iff, checkFinite_eq_ok_iff]

/-- A checked design with another goal is checked again, and differs there only. -/
theorem withGoal_of_isChecked (h : d.IsChecked) (goal : Goal) :
    d.withGoal goal = .ok { d with goal } :=
  check_draft_assign_goal (finite_of_isChecked h) goal

end StudyDesign

end StudyPower
