import StudyPower.Text.Blank
import StudyPower.Text.Digit

/-!
# Numerals

The texts that are read as numbers.  Margins around a numeral are ignored, a sign may come first,
the digits may be those of any script, and a single underscore may stand between two digits.

## Main definitions

* `Numeral` — a decimal number, an infinity, or not a number.
* `readNumeral?` — the grammar of real numbers: an optional point, an optional exponent, and the
  words for infinity and for what is not a number in any case.
* `readInteger` — the grammar of integers, which may not have too many digits.
-/

namespace StudyPower.Decimal

open StudyPower.Text

/-- The number that a numeral denotes. -/
inductive Numeral where
  /-- `± digits · 10 ^ exponent`. -/
  | finite (negative : Bool) (digits : Nat) (exponent : Int)
  /-- An infinity. -/
  | infinite (negative : Bool)
  /-- Not a number. -/
  | undefined
  deriving DecidableEq, Repr

/-- The digits at the start of `cs`, continuing `count` digits of value `acc`: the value, the
number of digits, and the rest.  An underscore counts as read only between two digits. -/
def readDigits (acc count : Nat) : List Char → Nat × Nat × List Char
  | [] => (acc, count, [])
  | '_' :: c :: rest =>
    match digitValue? c with
    | some d => if count = 0 then (acc, count, '_' :: c :: rest)
                else readDigits (10 * acc + d) (count + 1) rest
    | none => (acc, count, '_' :: c :: rest)
  | c :: rest =>
    match digitValue? c with
    | some d => readDigits (10 * acc + d) (count + 1) rest
    | none => (acc, count, c :: rest)

/-- The sign at the start of `cs`: is it a minus, and the rest. -/
def readSign : List Char → Bool × List Char
  | '-' :: rest => (true, rest)
  | '+' :: rest => (false, rest)
  | cs => (false, cs)

/-- The exponent part at the start of `cs`, zero when there is none: nothing when an exponent
mark has no digits. -/
def readExponent? : List Char → Option (Int × List Char)
  | c :: rest =>
    if c = 'e' ∨ c = 'E' then
      let (negative, digits) := readSign rest
      match readDigits 0 0 digits with
      | (_, 0, _) => none
      | (n, _, rest) => some (if negative then -(n : Int) else n, rest)
    else some (0, c :: rest)
  | [] => some (0, [])

/-- The digits after a point at the start of `cs`, continuing the value `acc`. -/
def readFraction (acc : Nat) : List Char → Nat × Nat × List Char
  | '.' :: rest => readDigits acc 0 rest
  | cs => (acc, 0, cs)

/-- The words for an infinity. -/
def infinityWords : List String := ["inf", "infinity"]

/-- An unsigned numeral that fills `cs`. -/
def readUnsigned? (negative : Bool) (cs : List Char) : Option Numeral :=
  let word := String.ofList (cs.map Char.toLower)
  if infinityWords.contains word then some (.infinite negative)
  else if word = "nan" then some .undefined
  else
    let (whole, wholeCount, rest) := readDigits 0 0 cs
    let (digits, places, rest) := readFraction whole rest
    if wholeCount + places = 0 then none
    else
      match readExponent? rest with
      | some (exponent, []) => some (.finite negative digits (exponent - places))
      | _ => none

/-- The number that a text denotes, when it is a numeral. -/
def readNumeral? (s : String) : Option Numeral :=
  let (negative, cs) := readSign (trimMargins s.toList)
  readUnsigned? negative cs

/-! ### Integers -/

/-- Why a text is no integer. -/
inductive IntegerFault where
  /-- It is no numeral without point and exponent. -/
  | malformed
  /-- Its digits, leading zeros included, are too many. -/
  | tooLong (digits : Nat)
  deriving DecidableEq, Repr

/-- The largest number of digits of an integer. -/
def maxIntegerDigits : Nat := 4300

/-- Does an underscore come next? -/
def startsWithUnderscore : List Char → Bool
  | c :: _ => c = '_'
  | [] => false

/-- The integer that a text denotes.  The digits at its start are counted before what follows them
is looked at, but for an underscore out of place. -/
def readInteger (s : String) : Except IntegerFault Int :=
  let (negative, cs) := readSign (trimMargins s.toList)
  let (n, count, rest) := readDigits 0 0 cs
  if count = 0 || startsWithUnderscore rest then .error .malformed
  else if maxIntegerDigits < count then .error (.tooLong count)
  else if rest.isEmpty then .ok (if negative then -(n : Int) else n)
  else .error .malformed

end StudyPower.Decimal
