import StudyPower.Text.Printable

/-!
# Quoted text

Messages quote the names and values they are about.  A quoted text stands between single quotes,
or between double quotes when it holds a single quote and no double quote; the quote in use, the
backslash, line feed, tab and carriage return have short escapes, and every other character
without a visible form is written by its code point.

## Main definitions

* `hexDigits` — a number in lower-case hexadecimal, padded to a width.
* `quoteMark`, `escaped` — the quote chosen for a text, and one character inside it.
* `quoted` — the quoted text.
-/

namespace StudyPower.Text

/-- A number in lower-case hexadecimal, padded with zeros to at least `width` digits. -/
def hexDigits (width n : Nat) : List Char :=
  let digits := Nat.toDigits 16 n
  List.replicate (width - digits.length) '0' ++ digits

/-- The quote that needs no escape when there is one, else the single quote. -/
def quoteMark (cs : List Char) : Char :=
  if cs.contains '\x27' && !cs.contains '"' then '"' else '\x27'

/-- One character inside quotes `mark`. -/
def escaped (mark c : Char) : List Char :=
  if c = mark || c = '\\' then ['\\', c]
  else if c = '\n' then ['\\', 'n']
  else if c = '\t' then ['\\', 't']
  else if c = '\r' then ['\\', 'r']
  else if isPrintable c then [c]
  else if c.toNat < 0x100 then '\\' :: 'x' :: hexDigits 2 c.toNat
  else if c.toNat < 0x10000 then '\\' :: 'u' :: hexDigits 4 c.toNat
  else '\\' :: 'U' :: hexDigits 8 c.toNat

/-- The text between quotes, with the escapes it needs. -/
def quoted (s : String) : String :=
  let mark := quoteMark s.toList
  String.ofList (mark :: (s.toList.flatMap (escaped mark) ++ [mark]))

end StudyPower.Text
