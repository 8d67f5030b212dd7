import StudyPower.Stopwatch
import Mathlib.Algebra.Ring.Int.Defs
import Mathlib.Data.List.Induction
import Mathlib.Data.List.Nodup

/-!
# What a stopwatch has gone through

What a stopwatch answers is read off the operations before.  The latest start counts for the next
stop, the latest stop that succeeded for the total, and every duration for the sum under its name.
A client may time sections within sections and pass failures on or catch them; a section counts when
it ends, and it ends also when its body fails.

## Main definitions

* `Stopwatch.Operation`, `Stopwatch.Client` — what can be done with a stopwatch, one by one and with
  nested sections and failures; readings of the clock are part of it.
* `Stopwatch.Step`, `Stopwatch.Client.run` — what an operation does, and the steps of a client.
* `Stopwatch.names`, `Stopwatch.sumUnder`, `Stopwatch.IsElapsed`, `Stopwatch.report` — what the
  result says, in terms of the steps before.
* `Stopwatch.Reflects h w` — the stopwatch `w` shows what the steps `h` have left.

## Main statements

* `Stopwatch.Reflects.step` — the next step keeps the stopwatch in line with the steps so far.
* `Stopwatch.Client.linked_run` — each step of a client takes the stopwatch where the last left it.
* `Stopwatch.Client.replies_follow_history` — **every answer to a client is the one that the steps
  before call for.**
-/

namespace List

/-- A member is erased when it stands further left too. -/
theorem eraseDups_concat {α : Type*} [DecidableEq α] (l : List α) (x : α) :
    (l ++ [x]).eraseDups = if x ∈ l then l.eraseDups else l.eraseDups ++ [x] := by
  rw [eraseDups_append]
  by_cases h : x ∈ l
  · simp [h, removeAll]
  · simp [h, removeAll, eraseDups_cons]

theorem nodup_eraseDups {α : Type*} [DecidableEq α] (l : List α) : l.eraseDups.Nodup := by
  induction l using List.reverseRecOn with
  | nil => exact nodup_nil
  | append_singleton l x ih =>
    rw [eraseDups_concat]
    split
    · exact ih
    · next hx =>
      rw [← mem_eraseDups] at hx
      refine nodup_append.mpr ⟨ih, nodup_singleton x, fun y hy z hz => ?_⟩
      obtain rfl := mem_singleton.mp hz
      exact ne_of_mem_of_not_mem hy hx

/-- Looking a name up among values that depend on their names only. -/
theorem lookup_map_self {α β : Type*} [DecidableEq α] (l : List α) (f : α → β) (x : α) :
    (l.map fun y => (y, f y)).lookup x = if x ∈ l then some (f x) else none := by
  induction l with
  | nil => rfl
  | cons y l ih =>
    rw [map_cons, lookup_cons, ih]
    by_cases h : x = y
    · simp [h]
    · simp [h, beq_false_of_ne h]

end List

namespace StudyPower.Stopwatch

variable {τ : Type}

/-! ### Operations -/

/-- An operation on a stopwatch, with the readings of the clock that it takes. -/
inductive Operation (τ : Type) where
  /-- Start measuring the total. -/
  | start (now : τ)
  /-- Take the total. -/
  | stop (now : τ)
  /-- Add a duration under a name. -/
  | record (name : String) (duration : τ)
  /-- A section ends. -/
  | timeSection (name : String) (began ended : τ)
  /-- Ask for the result. -/
  | result
  deriving DecidableEq

/-- The reading at a start. -/
def Operation.startReading? : Operation τ → Option τ
  | start now => some now
  | _ => none

/-- The duration that an operation adds, with its name. -/
def Operation.entry? [Sub τ] : Operation τ → Option (String × τ)
  | record name duration => some (name, duration)
  | timeSection name began ended => some (name, ended - began)
  | _ => none

/-- What an operation on a stopwatch leads to. -/
structure Step (τ : Type) where
  /-- The operation. -/
  operation : Operation τ
  /-- The stopwatch before. -/
  earlier : Stopwatch τ
  /-- The answer: the result when it was asked for. -/
  reply : Except StopwatchFault (Option (List (String × τ)))
  /-- The stopwatch afterwards. -/
  later : Stopwatch τ

/-- Did the operation fail? -/
def Step.fails (s : Step τ) : Bool :=
  match s.reply with
  | .ok _ => false
  | .error _ => true

/-- The step is a stop that succeeded. -/
def Step.Stops (s : Step τ) : Prop := (∃ now, s.operation = .stop now) ∧ s.fails = false

section Steps

variable [Zero τ] [Add τ] [Sub τ] {o : Operation τ} {w : Stopwatch τ}

/-- The answer to an operation and the stopwatch that it leaves, if it succeeds. -/
def Operation.outcome (w : Stopwatch τ) : Operation τ →
    Except StopwatchFault (Stopwatch τ × Option (List (String × τ)))
  | start now => .ok (w.start now, none)
  | stop now => (w.stop now).map (·, none)
  | record name duration => .ok (w.record name duration, none)
  | timeSection name began ended => .ok (w.timeSection name began ended, none)
  | result => w.result.map fun sums => (w, some sums)

/-- An operation on a stopwatch.  One that fails has no other stopwatch to leave. -/
def Operation.step (o : Operation τ) (w : Stopwatch τ) : Step τ :=
  match o.outcome w with
  | .ok (later, sums) => ⟨o, w, .ok sums, later⟩
  | .error f => ⟨o, w, .error f, w⟩

@[simp] theorem operation_step (o : Operation τ) (w : Stopwatch τ) :
    (o.step w).operation = o := by
  unfold Operation.step
  split <;> rfl

@[simp] theorem earlier_step (o : Operation τ) (w : Stopwatch τ) : (o.step w).earlier = w := by
  unfold Operation.step
  split <;> rfl

/-! ### What a step does -/

theorem step_stop_of_none {now : τ} (hw : w.startedAt = none) :
    (Operation.stop now).step w = ⟨.stop now, w, .error .stoppedBeforeStart, w⟩ := by
  simp only [Operation.step, Operation.outcome, stop, hw, Except.map]

theorem step_stop_of_some {now began : τ} (hw : w.startedAt = some began) :
    (Operation.stop now).step w =
      ⟨.stop now, w, .ok none, { w with total := some (now - began) }⟩ := by
  simp only [Operation.step, Operation.outcome, stop, hw, Except.map]

theorem step_result_of_none (hw : w.total = none) :
    Operation.result.step w = ⟨.result, w, .error .readBeforeStop, w⟩ := by
  simp only [Operation.step, Operation.outcome, result, hw, Except.map]

theorem step_result_of_some {t : τ} (hw : w.total = some t) :
    Operation.result.step w =
      ⟨.result, w, .ok (some ((totalName, (w.sums.lookup totalName).getD t) ::
        w.sums.filter fun entry => entry.1 ≠ totalName)), w⟩ := by
  simp only [Operation.step, Operation.outcome, result, hw, Except.map]

theorem fails_stop_iff {now : τ} :
    ((Operation.stop now).step w).fails = true ↔ w.startedAt = none := by
  cases hw : w.startedAt with
  | none => simp [step_stop_of_none hw, Step.fails]
  | some began => simp [step_stop_of_some hw, Step.fails]

theorem fails_result_iff : (Operation.result.step w).fails = true ↔ w.total = none := by
  cases hw : w.total with
  | none => simp [step_result_of_none hw, Step.fails]
  | some t => simp [step_result_of_some hw, Step.fails]

/-- Only a stop and the result can fail. -/
theorem eq_stop_or_result_of_fails (h : (o.step w).fails = true) :
    (∃ now, o = .stop now) ∨ o = .result := by
  cases o with
  | start | record | timeSection => cases h
  | stop now => exact .inl ⟨now, rfl⟩
  | result => exact .inr rfl

theorem later_of_fails (h : (o.step w).fails = true) : (o.step w).later = w := by
  unfold Operation.step at h ⊢
  split
  · next hok =>
    rw [hok] at h
    cases h
  · rfl

theorem startedAt_step (o : Operation τ) (w : Stopwatch τ) :
    (o.step w).later.startedAt = o.startReading?.or w.startedAt := by
  cases o with
  | start | record | timeSection => rfl
  | stop now =>
    cases hw : w.startedAt with
    | none => rw [step_stop_of_none hw, hw]; rfl
    | some began => rw [step_stop_of_some hw]; exact hw
  | result =>
    cases hw : w.total with
    | none => rw [step_result_of_none hw]; rfl
    | some t => rw [step_result_of_some hw]; rfl

/-- A stop that succeeds takes the time since the latest start. -/
theorem total_of_stops (h : (o.step w).Stops) :
    ∃ now began, o = .stop now ∧ w.startedAt = some began ∧
      (o.step w).later.total = some (now - began) := by
  obtain ⟨⟨now, ho⟩, hfails⟩ := h
  rw [operation_step] at ho
  subst ho
  cases hw : w.startedAt with
  | none =>
    rw [fails_stop_iff.mpr hw] at hfails
    cases hfails
  | some began => exact ⟨now, began, rfl, rfl, by rw [step_stop_of_some hw]⟩

theorem total_of_not_stops (h : ¬ (o.step w).Stops) : (o.step w).later.total = w.total := by
  cases o with
  | start | record | timeSection => rfl
  | stop now =>
    cases hw : w.startedAt with
    | none => rw [step_stop_of_none hw]
    | some began =>
      rw [step_stop_of_some hw] at h
      exact absurd ⟨⟨now, rfl⟩, rfl⟩ h
  | result =>
    cases hw : w.total with
    | none => rw [step_result_of_none hw, hw]
    | some t => rw [step_result_of_some hw, hw]

theorem later_of_entry {name : String} {d : τ} (h : o.entry? = some (name, d)) :
    (o.step w).later = w.record name d := by
  cases o with
  | start | stop | result => cases h
  | record | timeSection =>
    cases h
    rfl

theorem sums_of_entry_none (h : o.entry? = none) : (o.step w).later.sums = w.sums := by
  cases o with
  | start => rfl
  | record | timeSection => cases h
  | stop now =>
    cases hw : w.startedAt with
    | none => rw [step_stop_of_none hw]
    | some began => rw [step_stop_of_some hw]
  | result =>
    cases hw : w.total with
    | none => rw [step_result_of_none hw]
    | some t => rw [step_result_of_some hw]

/-! ### Clients -/

/-- What is done with a stopwatch, in sequence and with sections within sections. -/
inductive Client (τ : Type) where
  /-- Nothing. -/
  | done
  /-- The client fails, for a reason of its own. -/
  | fail
  /-- An operation; when it fails, the client fails. -/
  | call (o : Operation τ)
  /-- One client and, unless it fails, another one. -/
  | andThen (first second : Client τ)
  /-- A client whose failure is caught. -/
  | attempt (body : Client τ)
  /-- A section around a client, whose failure is passed on. -/
  | within (name : String) (began : τ) (body : Client τ) (ended : τ)

/-- What becomes of a client. -/
structure Run (τ : Type) where
  /-- The steps, in the order in which they are taken. -/
  steps : List (Step τ)
  /-- The stopwatch at the end. -/
  later : Stopwatch τ
  /-- Did the client fail? -/
  fails : Bool

/-- Let a client use a stopwatch. -/
def Client.run : Client τ → Stopwatch τ → Run τ
  | done, w => ⟨[], w, false⟩
  | fail, w => ⟨[], w, true⟩
  | call o, w => ⟨[o.step w], (o.step w).later, (o.step w).fails⟩
  | andThen first second, w =>
    let r := first.run w
    if r.fails then r
    else
      let r' := second.run r.later
      ⟨r.steps ++ r'.steps, r'.later, r'.fails⟩
  | attempt body, w => { body.run w with fails := false }
  | within name began body ended, w =>
    let r := body.run w
    -- the section ends whether or not its body fails
    let s := (Operation.timeSection name began ended).step r.later
    ⟨r.steps ++ [s], s.later, r.fails⟩

/-- Clients one after the other, whether or not they fail. -/
def Client.inTurn : List (Client τ) → Client τ
  | [] => done
  | c :: cs => andThen (attempt c) (inTurn cs)

/-! ### Steps in a row -/

/-- Steps that follow one another from one stopwatch to another. -/
def Linked : Stopwatch τ → List (Step τ) → Stopwatch τ → Prop
  | u, [], w => u = w
  | u, s :: steps, w => s = s.operation.step u ∧ Linked s.later steps w

variable {u v : Stopwatch τ} {h h' : List (Step τ)} {s : Step τ}

theorem Linked.append (hu : Linked u h v) (hv : Linked v h' w) : Linked u (h ++ h') w := by
  induction h generalizing u with
  | nil =>
    cases hu
    exact hv
  | cons s h ih => exact ⟨hu.1, ih hu.2⟩

theorem Linked.exists_of_append (hu : Linked u (h ++ h') w) :
    ∃ v, Linked u h v ∧ Linked v h' w := by
  induction h generalizing u with
  | nil => exact ⟨u, rfl, hu⟩
  | cons s h ih =>
    obtain ⟨hs, hrest⟩ := hu
    obtain ⟨v, hv, hw⟩ := ih hrest
    exact ⟨v, ⟨hs, hv⟩, hw⟩

theorem linked_step (o : Operation τ) (w : Stopwatch τ) : Linked w [o.step w] (o.step w).later :=
  ⟨by rw [operation_step], rfl⟩

/-- Each step of a client takes the stopwatch where the last left it. -/
theorem Client.linked_run (c : Client τ) (w : Stopwatch τ) :
    Linked w (c.run w).steps (c.run w).later := by
  induction c generalizing w with
  | done => rfl
  | fail => rfl
  | call o => exact linked_step o w
  | andThen first second ihfirst ihsecond =>
    unfold run
    dsimp only
    split
    · exact ihfirst w
    · exact (ihfirst w).append (ihsecond _)
  | attempt body ih => exact ih w
  | within name began body ended ih => exact (ih w).append (linked_step _ _)

end Steps

/-! ### What the steps so far have left -/

/-- The readings at the starts. -/
def starts (h : List (Step τ)) : List τ := h.filterMap (·.operation.startReading?)

/-- The durations that were added, with their names. -/
def entries [Sub τ] (h : List (Step τ)) : List (String × τ) := h.filterMap (·.operation.entry?)

/-- The names under which durations were added, once for each duration. -/
def names [Sub τ] (h : List (Step τ)) : List String := (entries h).map (·.1)

/-- The time is that of the latest stop that succeeded, since the latest start before it. -/
def IsElapsed [Sub τ] (h : List (Step τ)) (t : τ) : Prop :=
  ∃ before s after now began, h = before ++ s :: after ∧ s.operation = .stop now ∧
    s.fails = false ∧ (∀ r ∈ after, ¬ r.Stops) ∧ (starts before).getLast? = some began ∧
    t = now - began

/-- The sum of the durations under a name, from the first to the last. -/
def sumUnder [Zero τ] [Add τ] [Sub τ] (h : List (Step τ)) (name : String) : τ :=
  (((entries h).filter fun e => e.1 = name).map (·.2)).foldl (· + ·) 0

/-- What is answered when the result is asked for: first the total, then the sum under every other
name, in order of first use.  A sum under the name of the total stands in its place. -/
def report [Zero τ] [Add τ] [Sub τ] (h : List (Step τ)) (total : τ) : List (String × τ) :=
  (totalName, if totalName ∈ names h then sumUnder h totalName else total) ::
    ((names h).eraseDups.filter fun name => name ≠ totalName).map fun name =>
      (name, sumUnder h name)

section Concat

variable {h : List (Step τ)} {s : Step τ}

theorem starts_concat (h : List (Step τ)) (s : Step τ) :
    starts (h ++ [s]) = starts h ++ s.operation.startReading?.toList := by
  unfold starts
  rw [List.filterMap_append, List.filterMap_cons]
  cases s.operation.startReading? <;> rfl

/-- There is a latest start when there is a start. -/
theorem getLast?_starts_eq_none_iff :
    (starts h).getLast? = none ↔ ∀ r ∈ h, ∀ t, r.operation ≠ .start t := by
  rw [List.getLast?_eq_none_iff, starts, List.filterMap_eq_nil_iff]
  refine forall₂_congr fun r _ => ?_
  cases r.operation <;> simp [Operation.startReading?]

variable [Sub τ]

theorem entries_concat (h : List (Step τ)) (s : Step τ) :
    entries (h ++ [s]) = entries h ++ s.operation.entry?.toList := by
  unfold entries
  rw [List.filterMap_append, List.filterMap_cons]
  cases s.operation.entry? <;> rfl

/-- A step that is no stop leaves the latest stop the latest one. -/
theorem IsElapsed.concat {t : τ} (ht : IsElapsed h t) (hs : ¬ s.Stops) :
    IsElapsed (h ++ [s]) t := by
  obtain ⟨before, stop, after, now, began, rfl, hstop, hok, hafter, hbegan, rfl⟩ := ht
  refine ⟨before, stop, after ++ [s], now, began, by simp, hstop, hok, fun r hr => ?_, hbegan, rfl⟩
  rcases List.mem_append.mp hr with hr | hr
  · exact hafter r hr
  · rwa [List.mem_singleton.mp hr]

variable [Zero τ] [Add τ]

theorem sumUnder_concat {name : String} {d : τ} (hs : s.operation.entry? = some (name, d))
    (x : String) :
    sumUnder (h ++ [s]) x = if x = name then sumUnder h x + d else sumUnder h x := by
  unfold sumUnder
  rw [entries_concat, hs, Option.toList_some, List.filter_append, List.map_append,
    List.foldl_append]
  by_cases hx : x = name
  · simp [hx]
  · simp [hx, Ne.symm hx]

theorem sumUnder_of_not_mem {name : String} (hname : name ∉ names h) : sumUnder h name = 0 := by
  have hnone : (entries h).filter (fun e => e.1 = name) = [] := by
    rw [List.filter_eq_nil_iff]
    intro e he
    simpa using fun heq : e.1 = name => hname (heq ▸ List.mem_map_of_mem he)
  rw [sumUnder, hnone, List.map_nil, List.foldl_nil]

end Concat

section History

/-- A duration is added to the sum under its name, which comes last when it is new. -/
theorem addTo_map [Zero τ] [Add τ] {l : List String} (hl : l.Nodup) {f : String → τ}
    {name : String} (hnew : name ∉ l → f name = 0) (d : τ) :
    addTo name d (l.map fun x => (x, f x)) =
      (if name ∈ l then l else l ++ [name]).map fun x =>
        (x, if x = name then f x + d else f x) := by
  induction l with
  | nil => simp [addTo, hnew]
  | cons x l ih =>
    obtain ⟨hx, hl⟩ := List.nodup_cons.mp hl
    rw [List.map_cons, addTo]
    by_cases hxn : x = name
    · subst hxn
      have hrest : ∀ y ∈ l, (y, if y = x then f y + d else f y) = (y, f y) := by
        intro y hy
        rw [if_neg (ne_of_mem_of_not_mem hy hx)]
      rw [if_pos rfl, if_pos List.mem_cons_self, List.map_cons, if_pos rfl,
        List.map_congr_left hrest]
    · have hmem : name ∈ x :: l ↔ name ∈ l := by simp [Ne.symm hxn]
      rw [if_neg hxn, ih hl fun h => hnew (mt hmem.mp h)]
      simp only [hmem]
      split <;> simp [hxn]

variable [Zero τ] [Add τ] [Sub τ] {h : List (Step τ)} {w : Stopwatch τ}

/-- The stopwatch shows what the steps so far have left. -/
structure Reflects (h : List (Step τ)) (w : Stopwatch τ) : Prop where
  /-- It knows the latest start. -/
  startedAt : w.startedAt = (starts h).getLast?
  /-- It has the sums by name. -/
  sums : w.sums = (names h).eraseDups.map fun name => (name, sumUnder h name)
  /-- Without a total, no stop has succeeded. -/
  total_none : w.total = none → ∀ s ∈ h, ¬ s.Stops
  /-- The total is that of the latest stop. -/
  total_some : ∀ t, w.total = some t → IsElapsed h t

theorem reflects_nil : Reflects [] ({} : Stopwatch τ) where
  startedAt := rfl
  sums := rfl
  total_none := by
    intro _ s hs
    cases hs
  total_some := by
    intro t ht
    cases ht

namespace Reflects

/-- Every duration that is added is found in the sum under its name. -/
theorem sums_step (hr : Reflects h w) (o : Operation τ) :
    (o.step w).later.sums = (names (h ++ [o.step w])).eraseDups.map fun name =>
      (name, sumUnder (h ++ [o.step w]) name) := by
  cases ho : o.entry? with
  | none =>
    have hentries : entries (h ++ [o.step w]) = entries h := by
      rw [entries_concat, operation_step, ho, Option.toList_none, List.append_nil]
    rw [sums_of_entry_none ho, hr.sums]
    unfold names sumUnder
    rw [hentries]
  | some e =>
    obtain ⟨name, d⟩ := e
    have hentry : (o.step w).operation.entry? = some (name, d) := by rw [operation_step, ho]
    have hnames : names (h ++ [o.step w]) = names h ++ [name] := by
      unfold names
      rw [entries_concat, hentry, Option.toList_some, List.map_append, List.map_singleton]
    have hnew : name ∉ (names h).eraseDups → sumUnder h name = 0 := by
      intro hname
      rw [List.mem_eraseDups] at hname
      exact sumUnder_of_not_mem hname
    rw [later_of_entry ho, record, hr.sums, addTo_map (List.nodup_eraseDups _) hnew, hnames,
      List.eraseDups_concat]
    simp only [List.mem_eraseDups, sumUnder_concat hentry]

/-- The next step keeps the stopwatch in line with the steps so far. -/
theorem step (hr : Reflects h w) (o : Operation τ) :
    Reflects (h ++ [o.step w]) (o.step w).later where
  startedAt := by
    rw [startedAt_step, hr.startedAt, starts_concat, operation_step, List.getLast?_append]
    cases o.startReading? <;> rfl
  sums := hr.sums_step o
  total_none := by
    intro hnone s hs hstops
    by_cases ho : (o.step w).Stops
    · obtain ⟨now, began, -, -, htotal⟩ := total_of_stops ho
      rw [hnone] at htotal
      cases htotal
    · rw [total_of_not_stops ho] at hnone
      rcases List.mem_append.mp hs with hs | hs
      · exact hr.total_none hnone s hs hstops
      · rw [List.mem_singleton.mp hs] at hstops
        exact ho hstops
  total_some := by
    intro t ht
    by_cases ho : (o.step w).Stops
    · obtain ⟨now, began, hstop, hbegan, htotal⟩ := total_of_stops ho
      obtain rfl := Option.some.inj (ht.symm.trans htotal)
      rw [hr.startedAt] at hbegan
      have hoperation : (o.step w).operation = .stop now := by rw [operation_step, hstop]
      refine ⟨h, o.step w, [], now, began, rfl, hoperation, ho.2, ?_, hbegan, rfl⟩
      intro r hr
      cases hr
    · rw [total_of_not_stops ho] at ht
      exact (hr.total_some t ht).concat ho

/-- Steps in a row keep the stopwatch in line with all steps. -/
theorem steps {h' : List (Step τ)} {v : Stopwatch τ} (hr : Reflects h w) (hlinked : Linked w h' v) :
    Reflects (h ++ h') v := by
  induction h' generalizing h w with
  | nil =>
    cases hlinked
    rwa [List.append_nil]
  | cons s h' ih =>
    obtain ⟨hs, hrest⟩ := hlinked
    have hnext := hr.step s.operation
    rw [← hs] at hnext
    have hall := ih hnext hrest
    rwa [List.append_assoc, List.singleton_append] at hall

/-- What is answered when the result is asked for. -/
theorem reply_result (hr : Reflects h w) {t : τ} (ht : w.total = some t) :
    (Operation.result.step w).reply = .ok (some (report h t)) := by
  have hfirst : (w.sums.lookup totalName).getD t =
      if totalName ∈ names h then sumUnder h totalName else t := by
    rw [hr.sums, List.lookup_map_self]
    simp only [List.mem_eraseDups]
    split <;> rfl
  rw [step_result_of_some ht, hfirst, hr.sums, List.filter_map]
  rfl

end Reflects

/-! ### Answers -/

/-- The step does what the steps before it call for. -/
structure Step.Follows (h : List (Step τ)) (s : Step τ) : Prop where
  /-- A stop fails when there was no start before. -/
  stop_fails : ∀ now, s.operation = .stop now →
    (s.fails = true ↔ ∀ r ∈ h, ∀ t, r.operation ≠ .start t)
  /-- The result fails when no stop has succeeded before. -/
  result_fails : s.operation = .result → (s.fails = true ↔ ∀ r ∈ h, ¬ r.Stops)
  /-- Nothing else fails. -/
  fails_only : s.fails = true → (∃ now, s.operation = .stop now) ∨ s.operation = .result
  /-- A failing operation leaves the stopwatch as it was. -/
  unchanged : s.fails = true → s.later = s.earlier
  /-- A section that ends is recorded. -/
  ends : ∀ name began ended, s.operation = .timeSection name began ended →
    s.later = s.earlier.record name (ended - began)
  /-- The result is the one of the steps before. -/
  reports : s.operation = .result → s.fails = false →
    ∃ t, IsElapsed h t ∧ s.reply = .ok (some (report h t))

theorem Reflects.follows (hr : Reflects h w) (o : Operation τ) : (o.step w).Follows h where
  stop_fails := by
    intro now ho
    rw [operation_step] at ho
    rw [ho, fails_stop_iff, hr.startedAt, getLast?_starts_eq_none_iff]
  result_fails := by
    intro ho
    rw [operation_step] at ho
    rw [ho, fails_result_iff]
    constructor
    · exact hr.total_none
    · intro hnone
      by_contra htotal
      obtain ⟨t, ht⟩ := Option.ne_none_iff_exists'.mp htotal
      obtain ⟨before, s, after, now, began, rfl, hs, hok, -⟩ := hr.total_some t ht
      exact hnone s (by simp) ⟨⟨now, hs⟩, hok⟩
  fails_only := by
    intro hfails
    rw [operation_step]
    exact eq_stop_or_result_of_fails hfails
  unchanged := by
    intro hfails
    rw [earlier_step, later_of_fails hfails]
  ends := by
    intro name began ended ho
    rw [operation_step] at ho
    subst ho
    rfl
  reports := by
    intro ho hok
    rw [operation_step] at ho
    subst ho
    cases ht : w.total with
    | none =>
      rw [fails_result_iff.mpr ht] at hok
      cases hok
    | some t => exact ⟨t, hr.total_some t ht, hr.reply_result ht⟩

namespace Client

/-- **Every answer to a client is the one that the steps before call for.**  Each step of a client
takes a fresh stopwatch where the last left it, and does what the steps before call for: a stop
needs a start and the result a stop, what fails changes nothing, and the result is the time of the
latest stop and the sums by name.  A section whose body fails does so too, and leaves the stopwatch
that its body left with its own time recorded. -/
theorem replies_follow_history (c : Client τ) :
    Linked {} (c.run {}).steps (c.run {}).later ∧
      (∀ h s rest, (c.run {}).steps = h ++ s :: rest → s.Follows h) ∧
      ∀ name began ended w, (c.run w).fails = true →
        ((within name began c ended).run w).fails = true ∧
          ((within name began c ended).run w).later =
            (c.run w).later.record name (ended - began) := by
  refine ⟨c.linked_run {}, fun h s rest hsteps => ?_, fun name began ended w hfails =>
    ⟨hfails, rfl⟩⟩
  have hlinked := c.linked_run {}
  rw [hsteps] at hlinked
  obtain ⟨w, hbefore, hs, -⟩ := hlinked.exists_of_append
  have hreflects := reflects_nil.steps hbefore
  rw [hs]
  exact hreflects.follows s.operation

/-- A section in which another one fails. -/
def assembling : Client Int :=
  within "assemble" 3 (andThen (call (.record "queued" 10)) (within "compute" 4 fail 6)) 9

/-- The first stop fails, and the second start has no stop of its own yet when the result is asked
for. -/
def busyClient : Client Int :=
  inTurn [call (.stop 1), call (.start 2), assembling, call (.record "queued" 5),
    call (.stop 20), call (.start 30), call .result]

/-- The steps before the result is asked for. -/
def busySteps : List (Step Int) := (busyClient.run {}).steps.take 8

theorem replies_follow_history_busyClient :
    (busyClient.run {}).steps = busySteps ++ [Operation.result.step (busyClient.run {}).later] ∧
      (Operation.result.step (busyClient.run {}).later).Follows busySteps ∧
      (Operation.result.step (busyClient.run {}).later).reply =
        .ok (some [("total_seconds", 18), ("queued", 15), ("compute", 2), ("assemble", 6)]) ∧
      (assembling.run {}).fails = true ∧
      ((within "assemble" 1 assembling 30).run {}).fails = true ∧
      ((within "assemble" 1 assembling 30).run {}).later =
        (assembling.run {}).later.record "assemble" 29 :=
  have hsteps : (busyClient.run {}).steps =
      busySteps ++ [Operation.result.step (busyClient.run {}).later] := rfl
  ⟨hsteps, (replies_follow_history busyClient).2.1 _ _ [] hsteps, rfl, rfl,
    (replies_follow_history assembling).2.2 "assemble" 1 30 {} rfl⟩

end Client

end History

end StudyPower.Stopwatch
