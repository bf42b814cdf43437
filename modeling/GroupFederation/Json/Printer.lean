import GroupFederation.Json.Value
import GroupFederation.Text.Quoted

/-!
# Writing JSON text

A value is written without any space. In strings the quote, the backslash and the control
characters are escaped, with the short form where there is one, and every other character stands
for itself.
-/

namespace GroupFederation.Json

/-- How one character of a string is written. -/
def escapedChar (character : Char) : List Char :=
  match character with
  | '"' => ['\\', '"']
  | '\\' => ['\\', '\\']
  | '\x08' => ['\\', 'b']
  | '\x0c' => ['\\', 'f']
  | '\n' => ['\\', 'n']
  | '\r' => ['\\', 'r']
  | '\t' => ['\\', 't']
  | other =>
      if other.toNat < 0x20 then ['\\', 'u'] ++ Text.paddedHex 4 other.toNat else [other]

/-- How one unit of a string is written; a unit that is no character becomes the replacement
character. -/
def escapedUnit : Option Char → List Char
  | some character => escapedChar character
  | none => ['\ufffd']

/-- A string with its quotes. -/
def writeLiteral (literal : Literal) : List Char :=
  '"' :: literal.flatMap escapedUnit ++ ['"']

def writeDigits (digits : List Nat) : List Char :=
  digits.map fun digit => Char.ofNat ('0'.toNat + digit)

/-- A number, digit for digit as it was spelled. -/
def writeNumber (number : Number) : List Char :=
  (if number.negative then ['-'] else []) ++ writeDigits number.whole ++
    (if number.fraction.isEmpty then [] else '.' :: writeDigits number.fraction) ++
    (match number.exponent with
      | none => []
      | some exponent => 'e' :: (toString exponent).toList)

namespace Value

mutual

/-- The characters of a value. -/
def characters : Value → List Char
  | .null => "null".toList
  | .bool true => "true".toList
  | .bool false => "false".toList
  | .number spelling => writeNumber spelling
  | .string literal => writeLiteral literal
  | .array items => '[' :: itemsCharacters items ++ [']']
  | .object members => '\x7b' :: membersCharacters members ++ ['\x7d']

/-- The items of an array, separated by commas. -/
def itemsCharacters : List Value → List Char
  | [] => []
  | [item] => characters item
  | item :: items => characters item ++ ',' :: itemsCharacters items

/-- The members of an object, separated by commas. -/
def membersCharacters : List (Literal × Value) → List Char
  | [] => []
  | [(name, value)] => writeLiteral name ++ ':' :: characters value
  | (name, value) :: members =>
      writeLiteral name ++ ':' :: characters value ++ ',' :: membersCharacters members

end

/-- The text of a value. -/
def text (value : Value) : String :=
  String.ofList value.characters

end Value

end GroupFederation.Json
