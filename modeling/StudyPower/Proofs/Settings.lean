import StudyPower.Proofs.Success
import StudyPower.Proofs.Scalar.Symmetry
import StudyPower.Settings

/-!
# Settings that an environment gives

Three variables of an environment give settings.  All of them are read before any value is checked,
so a text that is no number is reported before a number that is out of range, and of two faults of
one kind the one of the earlier variable is reported.  A variable that is absent or blank leaves the
standard value, and no other variable counts.

## Main definitions

* `Settings.Variable` — the variables, in the order in which they are looked at.
* `Settings.Environment.Sets env name s` — a variable is set to a text that is not blank.
* `Settings.Gives`, with `Settings.realOf` and `Settings.integerOf` — the number that a variable is
  set to, if any.
* `Settings.Unreadable`, `Settings.OutOfRange`, `Settings.Reports` — what is wrong with a variable,
  and which of several faults is reported.
* `Settings.GivenBy`, `Settings.InRange` — where the values of settings come from and what holds of
  them.

## Main statements

* `Settings.failsAt_cases` — of three computations in a row, the first that fails ends the row.
* `Settings.ofEnvironment_cases` — what an environment that gives no settings, and one that gives
  some, looks like.
* `Settings.ofEnvironment_by_variables` — **the settings that an environment gives, variable by
  variable.**
-/

namespace StudyPower

/-- Only a number is greater than another one. -/
theorem Double.isNaN_eq_false_of_lt {x y : Float} (h : x < y) : y.isNaN = false := by
  have hlt : Scalar.lt x y = true := decide_eq_true h
  rw [Double.lt_eq] at hlt
  change y.toModel.unpack.isNaN = false
  cases hy : y.toModel.unpack with
  | notANumber =>
    have hnone : x.toModel.unpack.compare .notANumber = none := by
      cases x.toModel.unpack <;> rfl
    rw [hy, Float.Model.UnpackedFloat.lt, hnone] at hlt
    cases hlt
  | infinity | zero | finite => rfl

namespace Settings

/-! ### Variables -/

/-- The variables that give settings. -/
inductive Variable where
  /-- The deadline in seconds. -/
  | timeout
  /-- The number of workers. -/
  | maxWorkers
  /-- The length of messages. -/
  | maxMessageLength
  deriving DecidableEq, Repr

/-- The name of a variable in a scope. -/
def Variable.name (scope : String) : Variable → String
  | timeout => scope ++ "_TIMEOUT_SECONDS"
  | maxWorkers => scope ++ "_MAX_WORKERS"
  | maxMessageLength => scope ++ "_MAX_MESSAGE_LENGTH"

/-- The place of a variable in the order in which they are looked at. -/
def Variable.rank : Variable → ℕ
  | timeout => 0
  | maxWorkers => 1
  | maxMessageLength => 2

/-- A variable is set to a text that is not blank. -/
structure Environment.Sets (env : Environment) (name s : String) : Prop where
  /-- The text is the value of the variable. -/
  value : env.lookup name = some s
  /-- Some character of it is not blank. -/
  notBlank : ∃ c ∈ s.toList, Text.isBlank c = false

theorem Environment.lookup?_eq_some_iff {env : Environment} {name s : String} :
    Environment.lookup? env name = some s ↔ Environment.Sets env name s := by
  unfold Environment.lookup? isBlankText
  rw [Option.filter_eq_some_iff]
  constructor
  · rintro ⟨hvalue, hblank⟩
    exact ⟨hvalue, by simpa using hblank⟩
  · rintro ⟨hvalue, hblank⟩
    exact ⟨hvalue, by simpa using hblank⟩

theorem Environment.lookup?_eq_none_iff {env : Environment} {name : String} :
    Environment.lookup? env name = none ↔ ∀ s, ¬ Environment.Sets env name s := by
  simp only [← Environment.lookup?_eq_some_iff, Option.eq_none_iff_forall_ne_some, ne_eq]

/-- The real number that a text stands for. -/
def realOf (name s : String) : Except SettingsFault Float :=
  match Decimal.readNumeral? s with
  | some n => .ok (Double.ofNumeral n)
  | none => .error (.unreadableReal name s)

/-- The integer that a text stands for. -/
def integerOf (name s : String) : Except SettingsFault ℤ :=
  match Decimal.readInteger s with
  | .ok n => .ok n
  | .error cause => .error (.unreadableInteger name s cause)

/-- What the text of a variable stands for, nothing when the variable is not set. -/
inductive Gives {α : Type} (convert : String → String → Except SettingsFault α) (env : Environment)
    (name : String) : Option α → Prop
  /-- The variable is absent or blank. -/
  | unset (h : ∀ s, ¬ Environment.Sets env name s) : Gives convert env name none
  /-- Its text stands for a value. -/
  | set {s : String} {x : α} (sets : Environment.Sets env name s)
      (converts : convert name s = .ok x) : Gives convert env name (some x)

variable {scope workerLabel : String} {env : Environment} {v : Variable} {f : SettingsFault}

/-- The fault says that a variable is set to a text that is no number of its kind. -/
inductive Unreadable (scope : String) (env : Environment) : Variable → SettingsFault → Prop
  /-- The deadline is no numeral. -/
  | real {s : String} (sets : Environment.Sets env (Variable.timeout.name scope) s)
      (reads : Decimal.readNumeral? s = none) :
      Unreadable scope env .timeout (.unreadableReal (Variable.timeout.name scope) s)
  /-- The number of workers or the length of messages is no integer. -/
  | integer {v : Variable} {s : String} {cause : Decimal.IntegerFault} (kind : v ≠ .timeout)
      (sets : Environment.Sets env (v.name scope) s)
      (reads : Decimal.readInteger s = .error cause) :
      Unreadable scope env v (.unreadableInteger (v.name scope) s cause)

/-- The fault says that a variable is set to a number that is out of range. -/
inductive OutOfRange (scope : String) (env : Environment) : Variable → SettingsFault → Prop
  /-- The deadline is not positive, or not a number at all. -/
  | timeout {x : Float} (gives : Gives realOf env (Variable.timeout.name scope) (some x))
      (range : ¬ 0.0 < x) : OutOfRange scope env .timeout (.timeoutNotPositive x)
  /-- There are fewer workers than one. -/
  | maxWorkers {n : ℤ} (gives : Gives integerOf env (Variable.maxWorkers.name scope) (some n))
      (range : n < 1) : OutOfRange scope env .maxWorkers (.tooFewWorkers (.int n))
  /-- Messages are shorter than one character. -/
  | maxMessageLength {n : ℤ}
      (gives : Gives integerOf env (Variable.maxMessageLength.name scope) (some n))
      (range : n < 1) : OutOfRange scope env .maxMessageLength (.messagesTooShort (.int n))

/-- The fault that is reported: that of the first variable whose text is no number, and when there
is none, that of the first variable whose number is out of range. -/
inductive Reports (scope : String) (env : Environment) : SettingsFault → Prop
  /-- A text is no number. -/
  | unreadable {v : Variable} {f : SettingsFault} (h : Unreadable scope env v f)
      (first : ∀ u g, u.rank < v.rank → ¬ Unreadable scope env u g) : Reports scope env f
  /-- Every text is a number, and one is out of range. -/
  | outOfRange {v : Variable} {f : SettingsFault} (readable : ∀ u g, ¬ Unreadable scope env u g)
      (h : OutOfRange scope env v f)
      (first : ∀ u g, u.rank < v.rank → ¬ OutOfRange scope env u g) : Reports scope env f

theorem Reports.exists_fault (h : Reports scope env f) :
    (∃ v f, Unreadable scope env v f) ∨
      (∀ v f, ¬ Unreadable scope env v f) ∧ ∃ v f, OutOfRange scope env v f := by
  cases h with
  | unreadable h first => exact .inl ⟨_, _, h⟩
  | outOfRange readable h first => exact .inr ⟨readable, _, _, h⟩

/-- Values of an environment are never of a kind that cannot be used. -/
theorem Reports.ne_unusable (h : Reports scope env f) (g : Fault Float) : f ≠ .unusable g := by
  rintro rfl
  cases h with
  | unreadable h first => cases h
  | outOfRange readable h first => cases h

/-- A text that is no number is reported with the name of its variable. -/
theorem Unreadable.exists_message (h : Unreadable scope env v f) :
    ∃ rest, f.message = v.name scope ++ ": cannot parse " ++ rest := by
  unfold SettingsFault.message
  cases h with
  | real sets reads =>
    simp only [String.append_assoc]
    exact ⟨_, rfl⟩
  | @integer v s cause kind sets reads =>
    cases cause with
    | malformed | tooLong =>
      simp only [String.append_assoc]
      exact ⟨_, rfl⟩

/-! ### One after the other -/

/-- The computation for this variable, of three computations, fails with this fault. -/
def FailsAt {ε α β γ : Type} (a : Except ε α) (b : Except ε β) (c : Except ε γ) :
    Variable → ε → Prop
  | .timeout, e => a = .error e
  | .maxWorkers, e => b = .error e
  | .maxMessageLength, e => c = .error e

/-- The first of three computations that fails ends the sequence. -/
theorem failsAt_cases {ε α β γ δ : Type} (a : Except ε α) (b : Except ε β) (c : Except ε γ)
    (k : α → β → γ → Except ε δ) :
    (∃ v e, FailsAt a b c v e ∧ (∀ u g, u.rank < v.rank → ¬ FailsAt a b c u g) ∧
        (a >>= fun x => b >>= fun y => c >>= fun z => k x y z) = .error e) ∨
      (∀ u g, ¬ FailsAt a b c u g) ∧ ∃ x y z, a = .ok x ∧ b = .ok y ∧ c = .ok z ∧
        (a >>= fun x => b >>= fun y => c >>= fun z => k x y z) = k x y z := by
  cases a with
  | error e => exact .inl ⟨.timeout, e, rfl, fun u g hu => absurd hu (Nat.not_lt_zero _), rfl⟩
  | ok x =>
    cases b with
    | error e =>
      refine .inl ⟨.maxWorkers, e, rfl, fun u g hu h => ?_, rfl⟩
      cases u with
      | timeout => cases h
      | maxWorkers | maxMessageLength => exact absurd hu (by decide)
    | ok y =>
      cases c with
      | error e =>
        refine .inl ⟨.maxMessageLength, e, rfl, fun u g hu h => ?_, rfl⟩
        cases u with
        | timeout | maxWorkers => cases h
        | maxMessageLength => exact absurd hu (by decide)
      | ok z =>
        refine .inr ⟨fun u g h => ?_, x, y, z, rfl, rfl, rfl, rfl⟩
        cases u with
        | timeout | maxWorkers | maxMessageLength => cases h

/-! ### Reading a variable -/

section Reading

variable {α : Type} {convert : String → String → Except SettingsFault α} {name : String}

/-- The value of a variable, by a conversion of its text. -/
def read (convert : String → String → Except SettingsFault α) (env : Environment) (name : String) :
    Except SettingsFault (Option α) :=
  match Environment.lookup? env name with
  | none => .ok none
  | some s => some <$> convert name s

theorem read_of_unset (h : ∀ s, ¬ Environment.Sets env name s) :
    read convert env name = .ok none := by
  rw [read, Environment.lookup?_eq_none_iff.mpr h]

theorem read_of_sets {s : String} (h : Environment.Sets env name s) :
    read convert env name = some <$> convert name s := by
  rw [read, Environment.lookup?_eq_some_iff.mpr h]

theorem readReal_eq_read (env : Environment) (name : String) :
    readReal env name = read realOf env name := by
  unfold readReal read realOf
  cases Environment.lookup? env name with
  | none => rfl
  | some s =>
    dsimp only
    cases Decimal.readNumeral? s <;> rfl

theorem readInteger_eq_read (env : Environment) (name : String) :
    readInteger env name = read integerOf env name := by
  unfold readInteger read integerOf
  cases Environment.lookup? env name with
  | none => rfl
  | some s =>
    dsimp only
    cases Decimal.readInteger s <;> rfl

theorem read_eq_ok_iff {x : Option α} :
    read convert env name = .ok x ↔ Gives convert env name x := by
  constructor
  · intro h
    by_cases hset : ∃ s, Environment.Sets env name s
    · obtain ⟨s, hs⟩ := hset
      rw [read_of_sets hs, Except.map_eq_ok_iff] at h
      obtain ⟨y, hy, rfl⟩ := h
      exact .set hs hy
    · rw [not_exists] at hset
      rw [read_of_unset hset] at h
      cases h
      exact .unset hset
  · rintro (hunset | ⟨sets, converts⟩)
    · exact read_of_unset hunset
    · rw [read_of_sets sets, converts]
      rfl

theorem read_eq_error_iff :
    read convert env name = .error f ↔
      ∃ s, Environment.Sets env name s ∧ convert name s = .error f := by
  simp only [← Environment.lookup?_eq_some_iff]
  unfold read
  cases Environment.lookup? env name with
  | none => simp
  | some s =>
    simp only [Option.some.injEq, exists_eq_left']
    cases convert name s <;> simp [Functor.map, Except.map]

theorem Gives.eq {x y : Option α} (hx : Gives convert env name x) (hy : Gives convert env name y) :
    x = y :=
  Except.ok.inj ((read_eq_ok_iff.mpr hx).symm.trans (read_eq_ok_iff.mpr hy))

theorem read_congr {env' : Environment} (h : env'.lookup name = env.lookup name) :
    read convert env' name = read convert env name := by
  unfold read Environment.lookup?
  rw [h]

end Reading

theorem realOf_eq_error_iff {name s : String} :
    realOf name s = .error f ↔
      Decimal.readNumeral? s = none ∧ .unreadableReal name s = f := by
  unfold realOf
  cases Decimal.readNumeral? s with
  | none => simp
  | some n => simp

theorem integerOf_eq_error_iff {name s : String} :
    integerOf name s = .error f ↔
      ∃ cause, Decimal.readInteger s = .error cause ∧ .unreadableInteger name s cause = f := by
  unfold integerOf
  cases Decimal.readInteger s with
  | ok n => simp
  | error cause => simp

theorem unreadable_timeout_iff :
    Unreadable scope env .timeout f ↔
      read realOf env (Variable.timeout.name scope) = .error f := by
  simp only [read_eq_error_iff, realOf_eq_error_iff]
  constructor
  · rintro (⟨sets, reads⟩ | ⟨kind, -, -⟩)
    · exact ⟨_, sets, reads, rfl⟩
    · exact absurd rfl kind
  · rintro ⟨s, sets, reads, rfl⟩
    exact .real sets reads

theorem unreadable_iff_of_ne_timeout (hv : v ≠ .timeout) :
    Unreadable scope env v f ↔ read integerOf env (v.name scope) = .error f := by
  simp only [read_eq_error_iff, integerOf_eq_error_iff]
  constructor
  · rintro (_ | ⟨-, sets, reads⟩)
    · exact absurd rfl hv
    · exact ⟨_, sets, _, reads, rfl⟩
  · rintro ⟨s, sets, cause, reads, rfl⟩
    exact .integer hv sets reads

/-! ### Checking a value

The standard values are within their ranges. -/

/-- A count below one is refused. -/
theorem throw_if_isBelowOne (n : ℤ) (g : SettingsFault) :
    (do if ← isBelowOne (.int n) then throw g : Except SettingsFault Unit) =
      if n < 1 then .error g else .ok () := by
  change (if decide (n < 1) then .error g else .ok () : Except SettingsFault Unit) = _
  by_cases h : n < 1
  · rw [if_pos h, if_pos (decide_eq_true h)]
  · rw [if_neg h, if_neg (by simpa using h)]

theorem checkWorkers_int (n : ℤ) :
    checkWorkers (.int n) = if n < 1 then .error (.tooFewWorkers (.int n)) else .ok () :=
  throw_if_isBelowOne n _

theorem checkMessageLength_int (n : ℤ) :
    checkMessageLength (.int n) =
      if n < 1 then .error (.messagesTooShort (.int n)) else .ok () :=
  throw_if_isBelowOne n _

theorem standard_timeout_pos (workerLabel : String) : 0.0 < (standard workerLabel).timeout := by
  change (0.0 : Float) < 300.0
  decide

theorem checkTimeout_eq_error_iff {x : Option Float}
    (hx : Gives realOf env (Variable.timeout.name scope) x) :
    checkTimeout (x.getD (standard workerLabel).timeout) = .error f ↔
      OutOfRange scope env .timeout f := by
  constructor
  · intro h
    cases x with
    | none =>
      rw [Option.getD_none, checkTimeout, if_pos (standard_timeout_pos workerLabel)] at h
      cases h
    | some x =>
      rw [Option.getD_some, checkTimeout] at h
      split at h
      · cases h
      · next hrange =>
        cases h
        exact .timeout hx hrange
  · rintro ⟨gives, range⟩
    obtain rfl := hx.eq gives
    rw [Option.getD_some, checkTimeout, if_neg range]

/-- A declared count, or else a count that passes, is refused when it is below one. -/
theorem checkCount_eq_error_iff {checkCount : Datum Float → Except SettingsFault Unit}
    {fault : Datum Float → SettingsFault} {base : Datum Float}
    (hcheck : ∀ n : ℤ, checkCount (.int n) = if n < 1 then .error (fault (.int n)) else .ok ())
    (hbase : checkCount base = .ok ()) (n : Option ℤ) :
    checkCount ((n.map .int).getD base) = .error f ↔
      ∃ k, n = some k ∧ k < 1 ∧ fault (.int k) = f := by
  cases n with
  | none => simp [hbase]
  | some k =>
    rw [Option.map_some, Option.getD_some, hcheck]
    by_cases hk : k < 1 <;> simp [hk]

theorem checkWorkers_eq_error_iff {n : Option ℤ}
    (hn : Gives integerOf env (Variable.maxWorkers.name scope) n) :
    checkWorkers ((n.map .int).getD (standard workerLabel).maxWorkers) = .error f ↔
      OutOfRange scope env .maxWorkers f := by
  rw [checkCount_eq_error_iff checkWorkers_int rfl]
  constructor
  · rintro ⟨k, rfl, hrange, rfl⟩
    exact .maxWorkers hn hrange
  · rintro (_ | ⟨gives, range⟩ | _)
    exact ⟨_, hn.eq gives, range, rfl⟩

theorem checkMessageLength_eq_error_iff {n : Option ℤ}
    (hn : Gives integerOf env (Variable.maxMessageLength.name scope) n) :
    checkMessageLength ((n.map .int).getD (standard workerLabel).maxMessageLength) = .error f ↔
      OutOfRange scope env .maxMessageLength f := by
  rw [checkCount_eq_error_iff checkMessageLength_int rfl]
  constructor
  · rintro ⟨k, rfl, hrange, rfl⟩
    exact .maxMessageLength hn hrange
  · rintro (_ | _ | ⟨gives, range⟩)
    exact ⟨_, hn.eq gives, range, rfl⟩

/-! ### The settings of an environment -/

/-- The values of settings are those that the variables are set to, and the standard ones where they
are not set. -/
structure GivenBy (s : Settings) (scope workerLabel : String) (env : Environment) : Prop where
  /-- The deadline. -/
  timeout : ∃ x, Gives realOf env (Variable.timeout.name scope) x ∧
    s.timeout = x.getD (standard workerLabel).timeout
  /-- The number of workers. -/
  maxWorkers : ∃ n, Gives integerOf env (Variable.maxWorkers.name scope) n ∧
    s.maxWorkers = (n.map .int).getD (standard workerLabel).maxWorkers
  /-- The length of messages. -/
  maxMessageLength : ∃ n, Gives integerOf env (Variable.maxMessageLength.name scope) n ∧
    s.maxMessageLength = (n.map .int).getD (standard workerLabel).maxMessageLength
  /-- No variable gives the name that workers are numbered under. -/
  workerLabel : s.workerLabel = (standard workerLabel).workerLabel

/-- Settings that computations can run with. -/
structure InRange (s : Settings) : Prop where
  /-- The deadline is positive. -/
  timeout : 0.0 < s.timeout
  /-- So it is a number. -/
  timeout_isNumber : s.timeout.isNaN = false
  /-- There is at least one worker, unless the cap is the standard one. -/
  maxWorkers : s.maxWorkers = .null ∨ ∃ n : ℤ, s.maxWorkers = .int n ∧ 1 ≤ n
  /-- Messages have at least one character. -/
  maxMessageLength : ∃ n : ℤ, s.maxMessageLength = .int n ∧ 1 ≤ n
  /-- At least one worker may run. -/
  workerCap : ∃ n : ℤ, s.workerCap = .int n ∧ 1 ≤ n

/-- The settings with these values, and the standard ones where there is none. -/
def withValues (workerLabel : String) (timeout : Option Float)
    (maxWorkers maxMessageLength : Option ℤ) : Settings where
  timeout := timeout.getD (standard workerLabel).timeout
  maxWorkers := (maxWorkers.map .int).getD (standard workerLabel).maxWorkers
  maxMessageLength := (maxMessageLength.map .int).getD (standard workerLabel).maxMessageLength
  workerLabel := (standard workerLabel).workerLabel

theorem ofEnvironment_eq : ofEnvironment scope workerLabel env =
    (read realOf env (Variable.timeout.name scope) >>= fun x =>
      read integerOf env (Variable.maxWorkers.name scope) >>= fun m =>
        read integerOf env (Variable.maxMessageLength.name scope) >>= fun n =>
          check (withValues workerLabel x m n)) := by
  simp only [← readReal_eq_read, ← readInteger_eq_read]
  rfl

theorem check_eq (s : Settings) : s.check =
    (checkTimeout s.timeout >>= fun _ => checkWorkers s.maxWorkers >>= fun _ =>
      checkMessageLength s.maxMessageLength >>= fun _ => .ok s) := rfl

theorem unreadable_iff :
    Unreadable scope env v f ↔ FailsAt (read realOf env (Variable.timeout.name scope))
      (read integerOf env (Variable.maxWorkers.name scope))
      (read integerOf env (Variable.maxMessageLength.name scope)) v f := by
  cases v with
  | timeout => exact unreadable_timeout_iff
  | maxWorkers | maxMessageLength => exact unreadable_iff_of_ne_timeout (by decide)

theorem outOfRange_iff {x : Option Float} {m n : Option ℤ}
    (hx : Gives realOf env (Variable.timeout.name scope) x)
    (hm : Gives integerOf env (Variable.maxWorkers.name scope) m)
    (hn : Gives integerOf env (Variable.maxMessageLength.name scope) n) :
    OutOfRange scope env v f ↔ FailsAt (checkTimeout (withValues workerLabel x m n).timeout)
      (checkWorkers (withValues workerLabel x m n).maxWorkers)
      (checkMessageLength (withValues workerLabel x m n).maxMessageLength) v f := by
  cases v with
  | timeout => exact (checkTimeout_eq_error_iff hx).symm
  | maxWorkers => exact (checkWorkers_eq_error_iff hm).symm
  | maxMessageLength => exact (checkMessageLength_eq_error_iff hn).symm

/-- The variables are read in turn, and then their values are checked in turn. -/
theorem ofEnvironment_cases (scope workerLabel : String) (env : Environment) :
    (∃ f, ofEnvironment scope workerLabel env = .error f ∧ Reports scope env f) ∨
      ∃ s : Settings, ofEnvironment scope workerLabel env = .ok s ∧
        (∀ v f, ¬ Unreadable scope env v f) ∧ (∀ v f, ¬ OutOfRange scope env v f) ∧
        s.GivenBy scope workerLabel env := by
  rw [ofEnvironment_eq]
  rcases failsAt_cases (read realOf env (Variable.timeout.name scope))
      (read integerOf env (Variable.maxWorkers.name scope))
      (read integerOf env (Variable.maxMessageLength.name scope))
      (fun x m n => check (withValues workerLabel x m n)) with
    ⟨v, f, hf, hfirst, hread⟩ | ⟨hreadable, x, m, n, hx, hm, hn, hread⟩
  · simp only [← unreadable_iff] at hf hfirst
    exact .inl ⟨f, hread, .unreadable hf hfirst⟩
  simp only [← unreadable_iff] at hreadable
  rw [read_eq_ok_iff] at hx hm hn
  rcases failsAt_cases (checkTimeout (withValues workerLabel x m n).timeout)
      (checkWorkers (withValues workerLabel x m n).maxWorkers)
      (checkMessageLength (withValues workerLabel x m n).maxMessageLength)
      (fun _ _ _ => .ok (withValues workerLabel x m n)) with
    ⟨v, f, hf, hfirst, hcheck⟩ | ⟨hrange, -, -, -, -, -, -, hcheck⟩
  · simp only [← outOfRange_iff hx hm hn] at hf hfirst
    exact .inl ⟨f, hread.trans hcheck, .outOfRange hreadable hf hfirst⟩
  · simp only [← outOfRange_iff hx hm hn] at hrange
    exact .inr ⟨_, hread.trans hcheck, hreadable, hrange, ⟨x, hx, rfl⟩, ⟨m, hm, rfl⟩, ⟨n, hn, rfl⟩,
      rfl⟩

/-- Values that are not out of range, and standard values, are within their ranges. -/
theorem GivenBy.inRange {s : Settings} (h : s.GivenBy scope workerLabel env)
    (hrange : ∀ v f, ¬ OutOfRange scope env v f) : s.InRange := by
  obtain ⟨x, hx, htimeout⟩ := h.timeout
  obtain ⟨m, hm, hworkers⟩ := h.maxWorkers
  obtain ⟨n, hn, hlength⟩ := h.maxMessageLength
  have hpositive : 0.0 < s.timeout := by
    rw [htimeout]
    cases x with
    | none => exact standard_timeout_pos workerLabel
    | some x => exact not_not.mp fun hneg => hrange _ _ (.timeout hx hneg)
  have hcount : s.maxWorkers = .null ∨ ∃ k : ℤ, s.maxWorkers = .int k ∧ 1 ≤ k := by
    rw [hworkers]
    cases m with
    | none => exact .inl rfl
    | some k => exact .inr ⟨k, rfl, not_lt.mp fun hk => hrange _ _ (.maxWorkers hm hk)⟩
  refine ⟨hpositive, Double.isNaN_eq_false_of_lt hpositive, hcount, ?_, ?_⟩
  · rw [hlength]
    cases n with
    | none => exact ⟨50, rfl, by decide⟩
    | some k => exact ⟨k, rfl, not_lt.mp fun hk => hrange _ _ (.maxMessageLength hn hk)⟩
  · unfold workerCap
    rcases hcount with hnull | ⟨k, hk, hpos⟩
    · rw [hnull]
      exact ⟨standardWorkerCap, rfl, by decide⟩
    · rw [hk]
      exact ⟨k, rfl, hpos⟩

/-- Other variables have no influence. -/
theorem ofEnvironment_congr {env' : Environment}
    (h : ∀ v : Variable, env'.lookup (v.name scope) = env.lookup (v.name scope)) :
    ofEnvironment scope workerLabel env' = ofEnvironment scope workerLabel env := by
  rw [ofEnvironment_eq, ofEnvironment_eq, read_congr (h .timeout), read_congr (h .maxWorkers),
    read_congr (h .maxMessageLength)]

/-- **The settings that an environment gives, variable by variable.**  There are none exactly when
some text is no number, or every text is one and some number is out of range; the fault is then that
of the first such variable, texts before numbers, and it names the variable of a text.  Otherwise
each value is what its variable is set to, or the standard one, and all of them are within their
ranges.  No other variable counts. -/
theorem ofEnvironment_by_variables (scope workerLabel : String) (env : Environment) :
    ((∃ f, ofEnvironment scope workerLabel env = .error f) ↔
        (∃ v f, Unreadable scope env v f) ∨
          (∀ v f, ¬ Unreadable scope env v f) ∧ ∃ v f, OutOfRange scope env v f) ∧
      (∀ f, ofEnvironment scope workerLabel env = .error f →
        Reports scope env f ∧ ∀ g, f ≠ .unusable g) ∧
      (∀ v f, Unreadable scope env v f →
        ∃ rest, f.message = v.name scope ++ ": cannot parse " ++ rest) ∧
      (∀ s, ofEnvironment scope workerLabel env = .ok s →
        s.GivenBy scope workerLabel env ∧ s.InRange) ∧
      ∀ env', (∀ v : Variable, env'.lookup (v.name scope) = env.lookup (v.name scope)) →
        ofEnvironment scope workerLabel env' = ofEnvironment scope workerLabel env := by
  refine ⟨?_, ?_, fun v f => Unreadable.exists_message, ?_, fun env' => ofEnvironment_congr⟩
  · rcases ofEnvironment_cases scope workerLabel env with
      ⟨f, hf, hreports⟩ | ⟨s, hs, hreadable, hrange, -⟩
    · exact iff_of_true ⟨f, hf⟩ hreports.exists_fault
    · refine iff_of_false ?_ ?_
      · rintro ⟨f, hf⟩
        rw [hs] at hf
        cases hf
      · rintro (⟨v, f, hf⟩ | ⟨-, v, f, hf⟩)
        · exact hreadable v f hf
        · exact hrange v f hf
  · intro f hf
    rcases ofEnvironment_cases scope workerLabel env with ⟨g, hg, hreports⟩ | ⟨s, hs, -⟩
    · obtain rfl := Except.error.inj (hf.symm.trans hg)
      exact ⟨hreports, hreports.ne_unusable⟩
    · rw [hs] at hf
      cases hf
  · intro s hs
    rcases ofEnvironment_cases scope workerLabel env with
      ⟨f, hf, -⟩ | ⟨s', hs', -, hrange, hgiven⟩
    · rw [hf] at hs
      cases hs
    · obtain rfl := Except.ok.inj (hs.symm.trans hs')
      exact ⟨hgiven, hgiven.inRange hrange⟩

/-- A deadline that is not a number, and a length of messages that is no integer. -/
def garbledHost : Environment :=
  [("STUDY_TIMEOUT_SECONDS", "nan"), ("STUDY_MAX_MESSAGE_LENGTH", "many")]

/-- A deadline that is not a number, and no workers. -/
def endlessHost : Environment := [("STUDY_TIMEOUT_SECONDS", "nan"), ("STUDY_MAX_WORKERS", "0")]

/-- Eight workers, and a blank length of messages. -/
def roomyHost : Environment := [("STUDY_MAX_WORKERS", " 8 "), ("STUDY_MAX_MESSAGE_LENGTH", "\t")]

/-- The text that is no integer is reported although it comes last, and where every text is a number
the deadline is, since it comes first. -/
theorem ofEnvironment_by_variables_hosts :
    (ofEnvironment "STUDY" "worker" garbledHost =
        .error (.unreadableInteger "STUDY_MAX_MESSAGE_LENGTH" "many" .malformed) ∧
      Reports "STUDY" garbledHost
        (.unreadableInteger "STUDY_MAX_MESSAGE_LENGTH" "many" .malformed)) ∧
    (Unreadable "STUDY" garbledHost .maxMessageLength
        (.unreadableInteger "STUDY_MAX_MESSAGE_LENGTH" "many" .malformed) ∧
      ∃ rest, (SettingsFault.unreadableInteger "STUDY_MAX_MESSAGE_LENGTH" "many"
        .malformed).message = "STUDY_MAX_MESSAGE_LENGTH" ++ ": cannot parse " ++ rest) ∧
    (ofEnvironment "STUDY" "worker" endlessHost = .error (.timeoutNotPositive Double.undefined) ∧
      Reports "STUDY" endlessHost (.timeoutNotPositive Double.undefined)) ∧
    (∃ s, ofEnvironment "STUDY" "worker" roomyHost = .ok s ∧ s.maxWorkers = .int 8 ∧
      s.maxMessageLength = .int 50 ∧ s.GivenBy "STUDY" "worker" roomyHost ∧ s.InRange) ∧
    (∀ v : Variable, List.lookup (v.name "STUDY") (("HOME", "/") :: roomyHost) =
        List.lookup (v.name "STUDY") roomyHost) ∧
      ofEnvironment "STUDY" "worker" (("HOME", "/") :: roomyHost) =
        ofEnvironment "STUDY" "worker" roomyHost := by
  obtain ⟨-, hgarbled, hmessage, -, -⟩ := ofEnvironment_by_variables "STUDY" "worker" garbledHost
  obtain ⟨-, hendless, -, -, -⟩ := ofEnvironment_by_variables "STUDY" "worker" endlessHost
  obtain ⟨-, -, -, hroomy, hothers⟩ := ofEnvironment_by_variables "STUDY" "worker" roomyHost
  have hunreadable : Unreadable "STUDY" garbledHost .maxMessageLength
      (.unreadableInteger "STUDY_MAX_MESSAGE_LENGTH" "many" .malformed) :=
    .integer (by decide) ⟨rfl, 'm', by decide, by decide⟩ rfl
  have hfirst : ofEnvironment "STUDY" "worker" garbledHost =
      .error (.unreadableInteger "STUDY_MAX_MESSAGE_LENGTH" "many" .malformed) := rfl
  have hsecond : ofEnvironment "STUDY" "worker" endlessHost =
      .error (.timeoutNotPositive Double.undefined) := by
    have htimeout : read realOf endlessHost (Variable.timeout.name "STUDY") =
        .ok (some Double.undefined) := rfl
    have hworkers : read integerOf endlessHost (Variable.maxWorkers.name "STUDY") =
        .ok (some 0) := rfl
    have hlength : read integerOf endlessHost (Variable.maxMessageLength.name "STUDY") =
        .ok none := rfl
    have hrange : checkTimeout (withValues "worker" (some Double.undefined) (some 0) none).timeout =
        .error (.timeoutNotPositive Double.undefined) := if_neg (by decide)
    rw [ofEnvironment_eq, htimeout, hworkers, hlength]
    change check (withValues "worker" (some Double.undefined) (some 0) none) = _
    rw [check_eq, hrange]
    rfl
  have hthird : ofEnvironment "STUDY" "worker" roomyHost =
      .ok { standard "worker" with maxWorkers := .int 8 } := by
    have hworkers : read integerOf roomyHost (Variable.maxWorkers.name "STUDY") = .ok (some 8) :=
      read_eq_ok_iff.mpr (.set ⟨rfl, '8', by decide, by decide⟩ rfl)
    have hlength : read integerOf roomyHost (Variable.maxMessageLength.name "STUDY") =
        .ok none := rfl
    have hrange : checkTimeout (withValues "worker" none (some 8) none).timeout = .ok () :=
      if_pos (standard_timeout_pos "worker")
    rw [ofEnvironment_eq, hworkers, hlength]
    change check (withValues "worker" none (some 8) none) = _
    rw [check_eq, hrange]
    rfl
  have hsame : ∀ v : Variable, List.lookup (v.name "STUDY") (("HOME", "/") :: roomyHost) =
      List.lookup (v.name "STUDY") roomyHost := by
    intro v
    cases v with
    | timeout | maxWorkers | maxMessageLength => rfl
  obtain ⟨hgiven, hinRange⟩ := hroomy _ hthird
  exact ⟨⟨hfirst, (hgarbled _ hfirst).1⟩, ⟨hunreadable, hmessage _ _ hunreadable⟩,
    ⟨hsecond, (hendless _ hsecond).1⟩, ⟨_, hthird, rfl, rfl, hgiven, hinRange⟩, hsame,
    hothers _ hsame⟩

end Settings

end StudyPower
