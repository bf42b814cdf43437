import GroupFederation.Text.Visible

/-!
# Quoted text

Names and failure reasons that come from outside are shown between double quotes, so that a reader
sees where they begin and end. The quote and the backslash are escaped, four control characters
have short names, and every other character that does not show by itself is written as its code
point.
-/

namespace GroupFederation.Text

/-- The lower-case hexadecimal digits of a number, without leading zeros. -/
def hexDigits (number : Nat) : List Char :=
  Nat.toDigits 16 number

/-- The lower-case hexadecimal digits of a number, padded with zeros to `width`. -/
def paddedHex (width number : Nat) : List Char :=
  let digits := hexDigits number
  List.replicate (width - digits.length) '0' ++ digits

/-- How one character is written between the quotes. -/
def quotedChar (character : Char) : List Char :=
  match character with
  | '"' => ['\\', '"']
  | '\\' => ['\\', '\\']
  | '\n' => ['\\', 'n']
  | '\r' => ['\\', 'r']
  | '\t' => ['\\', 't']
  | '\x00' => ['\\', '0']
  | other =>
      if isVisible other then [other]
      else ['\\', 'u', '\x7b'] ++ hexDigits other.toNat ++ ['\x7d']

/-- The text between double quotes, with what does not show spelled out. -/
def quoted (text : String) : String :=
  String.ofList ('"' :: text.toList.flatMap quotedChar ++ ['"'])

/-- Texts in quotes, separated by commas, between square brackets. -/
def quotedList (texts : List String) : String :=
  "[" ++ ", ".intercalate (texts.map quoted) ++ "]"

end GroupFederation.Text
