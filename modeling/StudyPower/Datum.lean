import StudyPower.Scalar
import StudyPower.Text.Quoted

/-!
# Declared values

A study design is declared with values that nobody has checked yet: numbers, texts, lists and
records, in any nesting.

## Main definitions

* `Datum α` — a declared value whose real numbers are of type `α`.
* `Datum.kindName` — the name of its kind in a message.
* `Datum.display` — the value as it is quoted in a message.
* `Datum.bool?`, `Datum.int?`, `Datum.real?`, `Datum.text?`, `Datum.items` — what a value holds.
* `Datum.field?`, `Datum.get`, and `Datum.textAt` with its kin — what a field of a record holds.
-/

namespace StudyPower

/-- A declared value. -/
inductive Datum (α : Type) where
  /-- No value. -/
  | null
  /-- A truth value. -/
  | bool (b : Bool)
  /-- An integer. -/
  | int (n : Int)
  /-- A real number. -/
  | real (x : α)
  /-- A text. -/
  | text (s : String)
  /-- A list of values. -/
  | list (items : List (Datum α))
  /-- Named values. -/
  | record (fields : List (String × Datum α))
  deriving Inhabited

namespace Datum

variable {α : Type}

/-- The name of the kind of a value. -/
def kindName : Datum α → String
  | null => "NoneType"
  | bool _ => "bool"
  | int _ => "int"
  | real _ => "float"
  | text _ => "str"
  | list _ => "list"
  | record _ => "dict"

mutual

/-- The value as it is quoted in a message. -/
def display [Scalar α] : Datum α → String
  | null => "None"
  | bool true => "True"
  | bool false => "False"
  | int n => toString n
  | real x => Scalar.text x
  | text s => Text.quoted s
  | list items => "[" ++ ", ".intercalate (displayItems items) ++ "]"
  | record fields => "\x7b" ++ ", ".intercalate (displayFields fields) ++ "\x7d"

/-- The values of a list as they are quoted. -/
def displayItems [Scalar α] : List (Datum α) → List String
  | [] => []
  | d :: rest => d.display :: displayItems rest

/-- The fields of a record as they are quoted. -/
def displayFields [Scalar α] : List (String × Datum α) → List String
  | [] => []
  | (name, d) :: rest => (Text.quoted name ++ ": " ++ d.display) :: displayFields rest

end

/-! ### What a value holds -/

/-- The truth value. -/
def bool? : Datum α → Option Bool
  | bool b => some b
  | _ => none

/-- The integer; a truth value counts as one or zero. -/
def int? : Datum α → Option Int
  | int n => some n
  | bool b => some (if b then 1 else 0)
  | _ => none

/-- The real number; an integer counts as one. -/
def real? [Scalar α] : Datum α → Option α
  | real x => some x
  | int n => some n
  | bool b => some (Scalar.ofBool b)
  | _ => none

/-- The text. -/
def text? : Datum α → Option String
  | text s => some s
  | _ => none

/-- The items of a list. -/
def items? : Datum α → Option (List (Datum α))
  | list items => some items
  | _ => none

/-- The items of a list, of which any other value has none. -/
def items (d : Datum α) : List (Datum α) := d.items?.getD []

/-- The fields of a record, of which any other value has none. -/
def fields : Datum α → List (String × Datum α)
  | record fields => fields
  | _ => []

/-- The texts among the items of a list. -/
def texts (d : Datum α) : List String := d.items.filterMap text?

/-! ### What a field holds -/

/-- The field of a record with this name. -/
def field? (name : String) (d : Datum α) : Option (Datum α) := d.fields.lookup name

/-- The field of a record with this name, null when there is none. -/
def get (name : String) (d : Datum α) : Datum α := (d.field? name).getD null

/-- The truth value in a field, false when there is none. -/
def boolAt (name : String) (d : Datum α) : Bool := (d.get name).bool?.getD false

/-- The integer in a field, or the default. -/
def intAt (name : String) (d : Datum α) (default : Int := 0) : Int := (d.get name).int?.getD default

/-- The real number in a field, or the default. -/
def realAt [Scalar α] (name : String) (d : Datum α) (default : α := 0) : α :=
  (d.get name).real?.getD default

/-- The text in a field, or the default. -/
def textAt (name : String) (d : Datum α) (default : String := "") : String :=
  (d.get name).text?.getD default

/-- The items in a field. -/
def itemsAt (name : String) (d : Datum α) : List (Datum α) := (d.get name).items

end Datum

end StudyPower
