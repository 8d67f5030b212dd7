import StudyPower.Datum.Conversion
import StudyPower.Datum.Form
import StudyPower.Scalar.Double

/-!
# Settings

The settings of the computations that a host runs: the deadline, the number of workers and the
length of messages.  They may be declared as a record, or given by three environment variables that
share a scope; a variable that is absent or blank leaves the standard value.

## Main definitions

* `Settings` — the settings; `Settings.check` refuses the values out of range.
* `Settings.standard` — the standard values.
* `Settings.ofDatum` — the settings that a record declares.
* `Settings.ofEnvironment` — the settings that an environment gives.
* `SettingsFault` — what can be wrong, with its message.
-/

namespace StudyPower

/-- The settings of computations. -/
structure Settings where
  /-- The deadline of one computation, in seconds. -/
  timeout : Float
  /-- The declared number of workers, or null for the standard cap. -/
  maxWorkers : Datum Float
  /-- The declared length beyond which messages of an engine are cut. -/
  maxMessageLength : Datum Float
  /-- The declared name that workers are numbered under. -/
  workerLabel : Datum Float

/-- What can be wrong with settings. -/
inductive SettingsFault where
  /-- A deadline that is not positive. -/
  | timeoutNotPositive (seconds : Float)
  /-- Fewer than one worker. -/
  | tooFewWorkers (count : Datum Float)
  /-- Messages of fewer than one character. -/
  | messagesTooShort (length : Datum Float)
  /-- A variable whose text is no real number. -/
  | unreadableReal (name : String) (text : String)
  /-- A variable whose text is no integer. -/
  | unreadableInteger (name : String) (text : String) (cause : Decimal.IntegerFault)
  /-- A declared value that cannot be used. -/
  | unusable (f : Fault Float)

/-- The message for a fault of settings. -/
def SettingsFault.message : SettingsFault → String
  | timeoutNotPositive seconds => "timeout_seconds must be > 0, got " ++ Decimal.shortest seconds
  | tooFewWorkers count => "max_workers must be >= 1 or None, got " ++ count.display
  | messagesTooShort length => "max_message_length must be >= 1, got " ++ length.display
  | unreadableReal name text =>
    name ++ ": cannot parse " ++ Text.quoted text ++
      ": could not convert string to float: " ++ Text.quoted text
  | unreadableInteger name text .malformed =>
    name ++ ": cannot parse " ++ Text.quoted text ++
      ": invalid literal for int() with base 10: " ++ Text.quoted text
  | unreadableInteger name text (.tooLong digits) =>
    name ++ ": cannot parse " ++ Text.quoted text ++ ": Exceeds the limit (" ++
      toString Decimal.maxIntegerDigits ++
      " digits) for integer string conversion: value has " ++ toString digits ++
      " digits; use sys.set_int_max_str_digits() to increase the limit"
  | unusable f => f.message

namespace Settings

/-- The number of workers when no cap is set. -/
def standardWorkerCap : Int := 1024

/-- The standard settings. -/
def standard (workerLabel : String) : Settings where
  timeout := 300.0
  maxWorkers := .null
  maxMessageLength := .int 50
  workerLabel := .text workerLabel

/-- The largest number of workers. -/
def workerCap (s : Settings) : Datum Float :=
  match s.maxWorkers with
  | .null => .int standardWorkerCap
  | count => count

/-- A deadline must be positive. -/
def checkTimeout (seconds : Float) : Except SettingsFault Unit :=
  if 0.0 < seconds then .ok () else .error (.timeoutNotPositive seconds)

/-- Is a declared count below one? -/
def isBelowOne (count : Datum Float) : Except SettingsFault Bool :=
  (count.isBelow 1).mapError .unusable

/-- A number of workers must be at least one. -/
def checkWorkers (count : Datum Float) : Except SettingsFault Unit :=
  match count with
  | .null => .ok ()
  | count => do if ← isBelowOne count then throw (.tooFewWorkers count)

/-- Messages must have at least one character. -/
def checkMessageLength (length : Datum Float) : Except SettingsFault Unit := do
  if ← isBelowOne length then throw (.messagesTooShort length)

/-- Refuse a deadline, a number of workers or a message length out of range, in this order. -/
def check (s : Settings) : Except SettingsFault Settings := do
  checkTimeout s.timeout
  checkWorkers s.maxWorkers
  checkMessageLength s.maxMessageLength
  return s

/-! ### Declared settings -/

/-- The declared deadline, a real number. -/
def readTimeout (d : Datum Float) : Except SettingsFault Float :=
  match d with
  | .real x => .ok x
  | d => .error (.unusable (.notOrdered ">" d.kindName "int"))

/-- The fields of settings. -/
def form : Form where
  owner := "OrchestratorConfig"
  optional := ["timeout_seconds", "max_workers", "max_message_length", "thread_name_prefix"]

/-- The settings that a record declares; a field that is absent keeps the standard value. -/
def ofDatum (workerLabel : String) (d : Datum Float) : Except SettingsFault Settings := do
  let base := standard workerLabel
  let declared ← ((d.field? "timeout_seconds").mapM Datum.widen).mapError .unusable
  (d.checkForm form).mapError .unusable
  let timeout ← (declared.mapM readTimeout : Except SettingsFault (Option Float))
  check {
    timeout := timeout.getD base.timeout
    maxWorkers := d.get "max_workers"
    maxMessageLength := (d.field? "max_message_length").getD base.maxMessageLength
    workerLabel := (d.field? "thread_name_prefix").getD base.workerLabel
  }

/-! ### Environments -/

/-- An environment: the values of variables by name. -/
abbrev Environment : Type := List (String × String)

/-- Is a text empty but for blanks? -/
def isBlankText (s : String) : Bool := s.toList.all Text.isBlank

/-- The value of a variable, when it is set and not blank. -/
def Environment.lookup? (env : Environment) (name : String) : Option String :=
  (env.lookup name).filter fun s => !isBlankText s

/-- The real number that a variable is set to. -/
def readReal (env : Environment) (name : String) : Except SettingsFault (Option Float) :=
  match Environment.lookup? env name with
  | none => .ok none
  | some s =>
    match Decimal.readNumeral? s with
    | some n => .ok (some (Double.ofNumeral n))
    | none => .error (.unreadableReal name s)

/-- The integer that a variable is set to. -/
def readInteger (env : Environment) (name : String) : Except SettingsFault (Option Int) :=
  match Environment.lookup? env name with
  | none => .ok none
  | some s =>
    match Decimal.readInteger s with
    | .ok n => .ok (some n)
    | .error cause => .error (.unreadableInteger name s cause)

/-- The settings that an environment gives through the variables of a scope.  All variables are
read before the values are checked. -/
def ofEnvironment (scope workerLabel : String) (env : Environment) :
    Except SettingsFault Settings := do
  let timeout ← readReal env (scope ++ "_TIMEOUT_SECONDS")
  let maxWorkers ← readInteger env (scope ++ "_MAX_WORKERS")
  let maxMessageLength ← readInteger env (scope ++ "_MAX_MESSAGE_LENGTH")
  let base := standard workerLabel
  check {
    timeout := timeout.getD base.timeout
    maxWorkers := (maxWorkers.map .int).getD base.maxWorkers
    maxMessageLength := (maxMessageLength.map .int).getD base.maxMessageLength
    workerLabel := base.workerLabel
  }

end Settings

end StudyPower
