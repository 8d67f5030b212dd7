import StudyPower.Decimal.Rounding

/-!
# Decimal formats

The ways a table or a message writes a number: with a fixed number of places, with six significant
digits in the shorter of two forms, or in scientific form.

## Main definitions

* `fixed` — a fixed number of places.
* `general` — six significant digits, trailing zeros dropped.
* `plainFixed`, `scientific` — fixed places and significant digits, each without trailing zeros
  and without a sign of zero.
* `byteSize` — a number of bytes in a unit that leaves at most four digits before the point.
-/

namespace StudyPower.Decimal

/-- The decimal digits of a natural number. -/
def digitText (n : Nat) : List Char := Nat.toDigits 10 n

/-- The characters without the zeros at their end. -/
def dropZeros (cs : List Char) : List Char := (cs.reverse.dropWhile (· = '0')).reverse

/-- A minus sign for a negative number. -/
def signText (negative : Bool) : List Char := if negative then ['-'] else []

/-- Digits with `places` of them after the point, and no point when there are none. -/
def withPoint (places : Nat) (n : Nat) : List Char :=
  let digits := digitText n
  let padded := List.replicate (places + 1 - digits.length) '0' ++ digits
  let whole := padded.take (padded.length - places)
  if places = 0 then whole else whole ++ '.' :: padded.drop (padded.length - places)

/-- A point and the digits that follow it, without trailing zeros, or nothing. -/
def fractionText (digits : List Char) : List Char :=
  match dropZeros digits with
  | [] => []
  | kept => '.' :: kept

/-- Digits with `places` of them after the point, trailing zeros and a bare point dropped. -/
def withShortPoint (places : Nat) (n : Nat) : List Char :=
  let digits := digitText n
  let padded := List.replicate (places + 1 - digits.length) '0' ++ digits
  padded.take (padded.length - places) ++ fractionText (padded.drop (padded.length - places))

/-- The text of an infinity. -/
def infiniteText (negative : Bool) : String := if negative then "-inf" else "inf"

/-- The text of what is not a number. -/
def undefinedText : String := "nan"

/-- `places` digits after the point; zero keeps its sign. -/
def fixed (places : Nat) (x : Float) : String :=
  match Binary.ofFloat x with
  | .undefined => undefinedText
  | .infinite negative => infiniteText negative
  | .finite negative m e =>
    String.ofList (signText negative ++ withPoint places (fixedDigits places (.ofBinary m e)))

/-- An exponent with its sign and at least two digits. -/
def exponentText (e : Int) : List Char :=
  let digits := digitText e.natAbs
  'e' :: (if e < 0 then '-' else '+') ::
    (List.replicate (2 - digits.length) '0' ++ digits)

/-- Six significant digits without trailing zeros, positional from `1e-4` up to below `1e6`. -/
def general (x : Float) : String :=
  match Binary.ofFloat x with
  | .undefined => undefinedText
  | .infinite negative => infiniteText negative
  | .finite negative m e =>
    if m = 0 then String.ofList (signText negative ++ ['0'])
    else
      let s := significant 6 (.ofBinary m e)
      if -4 ≤ s.exponent ∧ s.exponent < 6 then
        String.ofList (signText negative ++ withShortPoint (5 - s.exponent).toNat s.digits)
      else
        String.ofList (signText negative ++ withShortPoint 5 s.digits ++ exponentText s.exponent)

/-- At most `places` digits after the point, without trailing zeros or a sign of zero. -/
def plainFixed (places : Nat) (x : Float) : String :=
  match Binary.ofFloat x with
  | .undefined => undefinedText
  | .infinite negative => infiniteText negative
  | .finite negative m e =>
    let n := fixedDigits places (.ofBinary m e)
    String.ofList (signText (negative && n ≠ 0) ++ withShortPoint places n)

/-- At most `count` significant digits in scientific form, without trailing zeros or a sign of
zero. -/
def scientific (count : Nat) (x : Float) : String :=
  match Binary.ofFloat x with
  | .undefined => undefinedText
  | .infinite negative => infiniteText negative
  | .finite negative m e =>
    if m = 0 then "0"
    else
      let s := significant count (.ofBinary m e)
      String.ofList (signText negative ++ withShortPoint (count - 1) s.digits ++
        'e' :: (signText (s.exponent < 0) ++ digitText s.exponent.natAbs))

/-- The units of storage, each of 1024 of the one before it. -/
def byteUnits : List String := ["bytes", "KiB", "MiB", "GiB", "TiB", "PiB", "EiB"]

/-- A number of bytes in the largest unit of which there is one: three significant digits, or a
whole number when that has four. -/
def byteSize (bytes : Nat) : String :=
  let step := bytes.log2 / 10
  let unit (step : Nat) : String := byteUnits[step]?.getD ""
  let q : Ratio := ⟨bytes, 1 <<< (10 * step)⟩
  let whole := roundDiv q.num q.den
  if whole = 1024 then "1.00 " ++ unit (step + 1)
  else if whole < 1000 then
    let s := significant 3 q
    let places := (2 - s.exponent).toNat
    String.ofList (withPoint places s.digits) ++ (if places = 0 then ". " else " ") ++ unit step
  else toString whole ++ ". " ++ unit step

end StudyPower.Decimal
