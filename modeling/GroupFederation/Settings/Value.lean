import GroupFederation.Decimal.Shortest
import GroupFederation.Json.Value
import GroupFederation.Text.Blank

/-!
# Setting values

A settings file and the environment both say what a setting is worth in terms of one kind of value.
A scalar is taken for what is asked of it: a number is a text where a text is wanted, and a text is
a number or a truth value where it is spelled like one. Nothing is ever taken for a list or a table
but a list or a table, and null is taken for nothing at all.

Numbers are whole numbers of 64 bits with a sign, or floating-point numbers otherwise.
-/

namespace GroupFederation.Settings

open Decimal (Binary64)

/-- The value of a setting. -/
inductive Value where
  | null
  | truth (value : Bool)
  | integer (value : Int)
  | real (negative : Bool) (magnitude : Binary64)
  | text (content : String)
  | list (items : List Value)
  | table (entries : List (String × Value))
  deriving Repr, Inhabited

namespace Value

/-- The entries of a table; nothing else has any. -/
def entries : Value → List (String × Value)
  | .table entries => entries
  | _ => []

/-- The items of a list; nothing else has any. -/
def items : Value → List Value
  | .list items => items
  | _ => []

@[simp] theorem entries_table (entries : List (String × Value)) :
    (Value.table entries).entries = entries := rfl

/-- The entry of a table with a given name. -/
def get? (value : Value) (name : String) : Option Value :=
  value.entries.lookup name

/-! ## Values in a file -/

/-- The value of a number. -/
def ofNumber? (number : Json.Number) : Option Value :=
  match number.integer?.filter fun value => value < Int.pow 2 63 with
  | some value => some (.integer value)
  | none => number.magnitude?.map fun magnitude => .real number.negative magnitude

mutual

/-- The value of a JSON value, if all its strings are text and all its numbers have a magnitude. -/
def ofJson? : Json.Value → Option Value
  | .null => some .null
  | .bool value => some (.truth value)
  | .number number => ofNumber? number
  | .string literal => literal.text?.map .text
  | .array items => (ofItems? items).map .list
  | .object members => (ofMembers? members).map .table

/-- The values of the items of an array. -/
def ofItems? : List Json.Value → Option (List Value)
  | [] => some []
  | item :: items =>
      match ofJson? item, ofItems? items with
      | some item, some items => some (item :: items)
      | _, _ => none

/-- The entries that an object makes; of several members with one name the last one counts. -/
def ofMembers? : List (Json.Literal × Json.Value) → Option (List (String × Value))
  | [] => some []
  | (name, member) :: members =>
      match name.text?, ofJson? member, ofMembers? members with
      | some name, some value, some entries =>
          some (if (entries.lookup name).isSome then entries else (name, value) :: entries)
      | _, _, _ => none

end

/-! ## What a scalar is taken for -/

/-- The text of a scalar. -/
def toText? : Value → Option String
  | .text content => some content
  | .truth value => some (if value then "true" else "false")
  | .integer value => some (toString value)
  | .real negative magnitude => some ((if negative then "-" else "") ++ magnitude.text)
  | _ => none

/-- The words for yes. -/
def affirmations : List String := ["true", "on", "yes"]

/-- The words for no. -/
def denials : List String := ["false", "off", "no"]

/-- The truth value that a text spells, in words of any letter case or as a digit. -/
def spelledTruth? (content : String) : Option Bool :=
  let word := Text.lower content
  if word == "1" || affirmations.contains word then some true
  else if word == "0" || denials.contains word then some false
  else none

/-- The truth value of a scalar; a number is true unless it is zero. -/
def toTruth? : Value → Option Bool
  | .truth value => some value
  | .integer value => some (value != 0)
  | .real _ magnitude => some (!magnitude.isZero)
  | .text content => spelledTruth? content
  | _ => none

/-- The greatest number of 64 bits. -/
def greatest : Nat := Nat.pow 2 64 - 1

/-- The number that digits spell, a plus sign before them being allowed. -/
def spelledDigits? (content : String) : Option Nat :=
  let digits := match content.toList with
    | '+' :: rest => rest
    | characters => characters
  if digits.isEmpty || !digits.all Char.isDigit then none
  else
    let number := Json.Number.ofDigits (digits.map fun digit => digit.toNat - '0'.toNat)
    if number ≤ greatest then some number else none

/-- The number that a text spells; a word for yes spells one and a word for no spells zero. -/
def spelledNumber? (content : String) : Option Nat :=
  let word := Text.lower content
  if affirmations.contains word then some 1
  else if denials.contains word then some 0
  else spelledDigits? content

/-- The number of a scalar: a whole number of 64 bits without a sign. A floating-point number is
rounded, a half going up, and one that lies outside is moved to the nearer end. -/
def toNumber? : Value → Option Nat
  | .integer value => if value < 0 then none else some value.toNat
  | .truth value => some value.toNat
  | .real negative magnitude => some (if negative then 0 else min magnitude.toNearestNat greatest)
  | .text content => spelledNumber? content
  | _ => none

/-- The values of a list; nothing else is taken for one. -/
def toList? : Value → Option (List Value)
  | .list items => some items
  | _ => none

end Value

end GroupFederation.Settings
