import GroupFederation.Json.Reader

/-!
# Character data

In character data five characters are written as entities. The reader knows these five and numeric
references in decimal or hexadecimal digits; any other use of the ampersand is an error, and so is a
reference to no character or to the character zero.
-/

namespace GroupFederation.Xml

/-- How one character is written. -/
def escapeChar : Char → List Char
  | '<' => "&lt;".toList
  | '>' => "&gt;".toList
  | '&' => "&amp;".toList
  | '\'' => "&apos;".toList
  | '"' => "&quot;".toList
  | other => [other]

/-- A text as character data. -/
def escape (text : String) : String :=
  String.ofList (text.toList.flatMap escapeChar)

/-- The number of digits in a base, at least one of them. -/
def readNumber? (base : Nat) (digits : List Char) : Option Nat :=
  if digits.isEmpty then none
  else digits.foldlM (fun number digit => do
    let value ← Json.hexValue? digit
    if value < base then some (number * base + value) else none) 0

/-- The character with a number, if there is one other than zero. -/
def charOfNumber? (number : Nat) : Option Char :=
  if number = 0 then none
  else if number < 0xD800 ∨ (0xDFFF < number ∧ number < 0x110000) then some (Char.ofNat number)
  else none

/-- What stands for the name between an ampersand and a semicolon. -/
def entity? : List Char → Option Char
  | ['l', 't'] => some '<'
  | ['g', 't'] => some '>'
  | ['a', 'm', 'p'] => some '&'
  | ['a', 'p', 'o', 's'] => some '\''
  | ['q', 'u', 'o', 't'] => some '"'
  | '#' :: 'x' :: digits => (readNumber? 16 digits).bind charOfNumber?
  | '#' :: digits => (readNumber? 10 digits).bind charOfNumber?
  | _ => none

/-- Read character data. Within a reference, `reference` holds its name so far, last character
first. -/
def unescapeFrom : (reference : Option (List Char)) → List Char → Option (List Char)
  | none, [] => some []
  | some _, [] => none
  | none, character :: rest =>
      if character = '&' then unescapeFrom (some []) rest
      else (unescapeFrom none rest).map (character :: ·)
  | some name, character :: rest =>
      if character = ';' then do
        let meant ← entity? name.reverse
        let others ← unescapeFrom none rest
        some (meant :: others)
      else if character = '&' then none
      else unescapeFrom (some (character :: name)) rest

/-- The characters that character data stands for. -/
def unescape? (content : List Char) : Option (List Char) :=
  unescapeFrom none content

end GroupFederation.Xml
