import StudyPower.Decimal.Format

/-!
# Shortest decimal text

A number in a message is written with the fewest digits that read back as the same number, and
among those with the digits nearest to it.  The numbers that read back form an interval around the
value; with `n` digits only the two neighbours of the value on the grid of `n` digits can be the
nearest ones, so it is enough to test these for `n = 1, 2, …, 17`.

## Main definitions

* `Interval` — a value and the ends of the interval that reads back as it, in a common unit.
* `shortestDigits` — the digits, and the power of ten of the last of them.
* `shortest` — the text, positional from `1e-4` up to below `1e16`.
-/

namespace StudyPower.Decimal

/-- A value with the interval of numbers that read back as it: all three are multiples of one
unit, and the ends belong to the interval when `closed` holds. -/
structure Interval where
  /-- The lower end. -/
  low : Nat
  /-- The value. -/
  value : Nat
  /-- The upper end. -/
  high : Nat
  /-- Do the ends read back as the value? -/
  closed : Bool
  deriving DecidableEq, Repr

/-- The interval of `m · 2 ^ e` in units of `2 ^ (e - 2)`.  The gap below a power of two is half
the gap above it, except at the smallest exponent. -/
def Interval.ofBinary (m : Nat) (e : Int) : Interval where
  low := if m = 1 <<< 52 ∧ -1074 < e then 4 * m - 1 else 4 * m - 2
  value := 4 * m
  high := 4 * m + 2
  closed := m % 2 == 0

/-- Does `n` times the grid step lie in the interval?  `unit` is the interval's unit in grid
steps. -/
def Interval.holds (i : Interval) (unit : Ratio) (n : Nat) : Bool :=
  let point := n * unit.den
  if i.closed then i.low * unit.num ≤ point && point ≤ i.high * unit.num
  else i.low * unit.num < point && point < i.high * unit.num

/-- The grid point nearest to the value among those in the interval, a tie to the even one. -/
def Interval.nearest? (i : Interval) (unit : Ratio) : Option Nat :=
  let below := i.value * unit.num / unit.den
  let above := below + 1
  if i.holds unit below then
    if i.holds unit above then
      let down := i.value * unit.num - below * unit.den
      let up := above * unit.den - i.value * unit.num
      if down < up then some below
      else if up < down then some above
      else if below % 2 = 0 then some below else some above
    else some below
  else if i.holds unit above then some above else none

/-- The digits of `m · 2 ^ e` for positive `m`, and the power of ten of the last digit. -/
def shortestDigits (m : Nat) (e : Int) : Nat × Int :=
  let lead := (Ratio.ofBinary m e).leadingExponent
  let interval := Interval.ofBinary m e
  let hit := (List.range 17).findSome? fun (n : Nat) =>
    let last := lead - n
    (interval.nearest? ((Ratio.ofBinary 1 (e - 2)).scale (-last))).map (·, last)
  hit.getD (0, 0)

/-- Digits `ds` with the point after the first `point` of them, padded with zeros on either
side; at least one digit stands after the point. -/
def positional (ds : List Char) (point : Int) : List Char :=
  if point ≤ 0 then '0' :: '.' :: (List.replicate point.natAbs '0' ++ ds)
  else
    let whole := ds.take point.toNat ++ List.replicate (point.toNat - ds.length) '0'
    whole ++ '.' :: (if ds.length ≤ point.toNat then ['0'] else ds.drop point.toNat)

/-- One digit, a point and the other digits, and the exponent. -/
def exponential (ds : List Char) (point : Int) : List Char :=
  match ds with
  | d :: [] => d :: exponentText (point - 1)
  | d :: rest => d :: '.' :: (rest ++ exponentText (point - 1))
  | [] => []

/-- The fewest digits that read back, positional from `1e-4` up to below `1e16`. -/
def shortest (x : Float) : String :=
  match Binary.ofFloat x with
  | .undefined => undefinedText
  | .infinite negative => infiniteText negative
  | .finite negative m e =>
    if m = 0 then String.ofList (signText negative ++ ['0', '.', '0'])
    else
      let (digits, last) := shortestDigits m e
      let ds := digitText digits
      let point := (ds.length : Int) + last
      let kept := dropZeros ds
      let body := if -4 < point ∧ point ≤ 16 then positional kept point else exponential kept point
      String.ofList (signText negative ++ body)

end StudyPower.Decimal
