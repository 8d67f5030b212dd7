/-!
# Blank characters

The characters that leave nothing to see.  All of them make a text blank; the information separators
among them may not surround a numeral.

## Main definitions

* `blankRanges` — the code points of blank characters, as closed ranges in rising order.
* `isBlank` — membership.
* `isMargin`, `trimMargins` — the blanks that may surround a numeral, and a text without them.
-/

namespace StudyPower.Text

/-- The white space of Unicode together with the four information separators. -/
def blankRanges : List (Nat × Nat) := [
  (0x9, 0xD), (0x1C, 0x20), (0x85, 0x85), (0xA0, 0xA0), (0x1680, 0x1680), (0x2000, 0x200A),
  (0x2028, 0x2029), (0x202F, 0x202F), (0x205F, 0x205F), (0x3000, 0x3000)]

/-- Is the character blank? -/
def isBlank (c : Char) : Bool :=
  blankRanges.any fun (first, last) => decide (first ≤ c.toNat) && decide (c.toNat ≤ last)

/-- May the character surround a numeral?  It may when it is blank and no information separator. -/
def isMargin (c : Char) : Bool :=
  isBlank c && !(decide (0x1C ≤ c.toNat) && decide (c.toNat ≤ 0x1F))

/-- The characters without the margins at their two ends. -/
def trimMargins (cs : List Char) : List Char :=
  ((cs.dropWhile isMargin).reverse.dropWhile isMargin).reverse

end StudyPower.Text
