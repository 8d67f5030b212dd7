/-!
# Fitting text to a width

Tables pad their cells, counts group their digits by three, and messages passed on to a caller
are cut to a length.  Lengths count characters.

## Main definitions

* `padLeft`, `padRight` — a text in a cell of at least some width.
* `grouped` — an integer with a comma between groups of three digits.
* `clip` — a text cut to a length, with a remark that text is missing.
* `firstLine` — the text before the first line break.
-/

namespace StudyPower.Text

/-- The text at the right end of a cell of `width` characters. -/
def padLeft (width : Nat) (s : String) : String :=
  String.ofList (List.replicate (width - s.length) ' ') ++ s

/-- The text at the left end of a cell of `width` characters. -/
def padRight (width : Nat) (s : String) : String :=
  s ++ String.ofList (List.replicate (width - s.length) ' ')

/-- Commas between groups of three, reading the digits from the last. -/
def commas : List Char → List Char
  | a :: b :: c :: d :: rest => a :: b :: c :: ',' :: commas (d :: rest)
  | cs => cs

/-- An integer with a comma between groups of three digits. -/
def grouped (n : Int) : String :=
  let digits := String.ofList (commas (Nat.toDigits 10 n.natAbs).reverse).reverse
  if n < 0 then "-" ++ digits else digits

/-- The remark that ends a text that was cut. -/
def clipRemark : String := " ... (more text deleted) ..."

/-- How many characters of a text of length `size` stand before the position `limit`, a negative
position counting from the end. -/
def keptLength (size : Nat) (limit : Int) : Nat :=
  if limit < 0 then (size + limit).toNat else limit.toNat

/-- A text of more than `limit` characters is cut to `limit` and ends in `clipRemark`. -/
def clip (s : String) (limit : Int) : String :=
  if (s.length : Int) ≤ limit then s
  else String.ofList (s.toList.take (keptLength s.length limit)) ++ clipRemark

/-- The text before the first line break. -/
def firstLine (s : String) : String := String.ofList (s.toList.takeWhile (· ≠ '\n'))

end StudyPower.Text
