import StudyPower.Fault

/-!
# What declared values stand for

A declared value is used as a real number, as a count or as a sequence of further values, and each
use has kinds of values that it refuses.

## Main definitions

* `Datum.isTruthy` — does a value count as true?
* `Datum.each` — the values that a value consists of.
* `Datum.pairs` — the named values that a value consists of.
* `Datum.toReal` — the real number that a value stands for; `Datum.toEntry` that of an entry of an
  array; `Datum.widen` the same value with a real number in place of an integer.
* `Datum.toVector`, `Datum.length` — the flat array that a value stands for, and how many members a
  value has.
* `Datum.toIndex`, `Datum.toRangeEnd` — the integer that a value stands for.
* `Datum.isBelow`, `Datum.isAbove`, `Datum.equals` — how a value compares with an integer.
* `Datum.clip` — a text cut to a declared length.
-/

namespace StudyPower

namespace Datum

variable {α : Type}

/-- Does the value count as true?  Nothing, zero and what is empty do not. -/
def isTruthy [Scalar α] : Datum α → Bool
  | null => false
  | bool b => b
  | int n => n ≠ 0
  | real x => !(x == 0)
  | text s => s ≠ ""
  | list items => !items.isEmpty
  | record fields => !fields.isEmpty

/-! ### Sequences -/

/-- The values that a value consists of: the items of a list, the characters of a text, the names of
a record. -/
def each : Datum α → Except (Fault α) (List (Datum α))
  | list items => .ok items
  | text s => .ok (s.toList.map fun c => text (String.singleton c))
  | record fields => .ok (fields.map fun (name, _) => text name)
  | d => .error (.notIterable d.kindName)

/-- The name and the value of a pair. -/
def toPair (position : Nat) (d : Datum α) : Except (Fault α) (String × Datum α) :=
  match d.each with
  | .error _ => .error (.notASequence position)
  | .ok [name, value] => .ok (name.text?.getD "", value)
  | .ok members => .error (.notAPair position members.length)

/-- Named values with another one: it takes the place of an earlier one with its name, if any. -/
def putNamed (named : List (String × Datum α)) (p : String × Datum α) : List (String × Datum α) :=
  if named.any (·.1 == p.1) then named.map fun q => if q.1 == p.1 then p else q else named ++ [p]

/-- The named values that a value consists of: the fields of a record, or a sequence of pairs, of
which those with one name are one. -/
def pairs : Datum α → Except (Fault α) (List (String × Datum α))
  | record fields => .ok fields
  | d => do
    let members ← d.each
    let named ← ((List.range members.length).zip members).mapM fun (position, member) =>
      member.toPair position
    return named.foldl putNamed []

/-! ### Real numbers -/

/-- The real number that an integer stands for, when it is within their range. -/
def realOfInt [Scalar α] (n : Int) : Except (Fault α) α :=
  let x : α := n
  if Scalar.isInfinite x then .error .integerTooLarge else .ok x

/-- The real number that a value stands for: a number, a truth value, or a numeral. -/
def toReal [Scalar α] : Datum α → Except (Fault α) α
  | real x => .ok x
  | int n => realOfInt n
  | bool b => .ok (Scalar.ofBool b)
  | text s =>
    match Decimal.readNumeral? s with
    | some n => .ok (Scalar.ofNumeral n)
    | none => .error (.notANumeral s)
  | d => .error (.notAReal d.kindName)

/-- The real number that an entry of an array stands for; no value is not a number. -/
def toEntry [Scalar α] : Datum α → Except (Fault α) α
  | null => .ok (Scalar.ofNumeral .undefined)
  | d => d.toReal

/-- The flat array that a list stands for.  Any other value stands for a single number, if any,
which is no flat array. -/
def toVector [Scalar α] : Datum α → Except (Fault α) (List α)
  | list items => items.mapM toEntry
  | d => do
    discard d.toEntry
    throw .unsized

/-- The number of members of a value. -/
def length : Datum α → Except (Fault α) Nat
  | list items => .ok items.length
  | text s => .ok s.length
  | record fields => .ok fields.length
  | d => .error (.noLength d.kindName)

/-- The value, with a real number in place of an integer or a truth value. -/
def widen [Scalar α] : Datum α → Except (Fault α) (Datum α)
  | int n => real <$> realOfInt n
  | bool b => .ok (real (Scalar.ofBool b))
  | d => .ok d

/-- The real number in a field, nothing when there is none. -/
def realAt? [Scalar α] (name : String) (d : Datum α) : Except (Fault α) (Option α) := do
  return (← (d.get name).widen).real?

/-! ### Integers -/

/-- The integer that a value stands for where nothing but an integer will do. -/
def toIndex : Datum α → Except (Fault α) Int
  | int n => .ok n
  | bool _ => .error .integerRequired
  | d => .error (.notAnInteger d.kindName)

/-- The integer that a value stands for where it ends a range: it is increased before it is looked
at. -/
def toRangeEnd : Datum α → Except (Fault α) Int
  | null => .error (.notCombined "+" (null : Datum α).kindName "int")
  | record fields => .error (.notCombined "+" (record fields).kindName "int")
  | text s => .error (.notConcatenated (text s : Datum α).kindName)
  | list items => .error (.notConcatenated (list items).kindName)
  | bool b => .ok (if b then 1 else 0)
  | d => d.toIndex

/-- Is the value below an integer?  Only numbers and truth values are comparable with one. -/
def isBelow [Scalar α] (bound : Int) (d : Datum α) : Except (Fault α) Bool :=
  match d.int?, d with
  | some n, _ => .ok (n < bound)
  | none, real x => .ok (Scalar.lt x (bound : α))
  | none, d => .error (.notOrdered "<" d.kindName "int")

/-- Is the value above an integer? -/
def isAbove [Scalar α] (bound : Int) (d : Datum α) : Except (Fault α) Bool :=
  match d.int?, d with
  | some n, _ => .ok (bound < n)
  | none, real x => .ok (Scalar.lt (bound : α) x)
  | none, d => .error (.notOrdered ">" d.kindName "int")

/-- Is the value this number? -/
def equals [Scalar α] (n : Nat) (d : Datum α) : Bool :=
  match d.int?, d with
  | some k, _ => k == n
  | none, real x => x == (n : α)
  | none, _ => false

/-! ### Lengths of texts -/

/-- A text cut to a declared length.  A length that is a real number serves only a text that need
not be cut. -/
def clip [Scalar α] (s : String) (limit : Datum α) : Except (Fault α) String :=
  match limit.int?, limit with
  | some n, _ => .ok (Text.clip s n)
  | none, real x =>
    if Scalar.lt (s.length : α) x || (s.length : α) == x then .ok s else .error .notASlice
  | none, d => .error (.notOrdered "<=" "int" d.kindName)

end Datum

end StudyPower
