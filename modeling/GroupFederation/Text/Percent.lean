import GroupFederation.Text.Utf8

/-!
# Percent encoding

Where a byte may not stand for itself it is written as a percent sign and two upper-case
hexadecimal digits. The reader takes digits in either case and leaves a percent sign alone that no
two digits follow. A path segment keeps letters, digits, a few marks that are never reserved, and
the colon, which partners use inside their local names.
-/

namespace GroupFederation.Text.Percent

/-- The hexadecimal digit of a number below sixteen. -/
def digit (value : Nat) : Char :=
  Char.ofNat (if value < 10 then 0x30 + value else 0x41 + value - 10)

/-- The value of a hexadecimal digit in either case. -/
def digitValue? (byte : UInt8) : Option Nat :=
  let code := byte.toNat
  if 0x30 ≤ code ∧ code ≤ 0x39 then some (code - 0x30)
  else if 0x41 ≤ code ∧ code ≤ 0x46 then some (code - 0x41 + 10)
  else if 0x61 ≤ code ∧ code ≤ 0x66 then some (code - 0x61 + 10)
  else none

/-- The escape of a byte. -/
def escape (byte : UInt8) : List Char :=
  ['%', digit (byte.toNat / 16), digit (byte.toNat % 16)]

/-- The written form of bytes: those that `keeps` accepts stand for themselves. -/
def encodeBytes (keeps : Char → Bool) (bytes : Bytes) : List Char :=
  bytes.flatMap fun byte =>
    let character := Char.ofNat byte.toNat
    if byte.toNat < 0x80 && keeps character then [character] else escape byte

/-- Undo the escapes in a sequence of bytes. -/
def decode : Bytes → Bytes
  | 0x25 :: first :: second :: rest =>
      match digitValue? first, digitValue? second with
      | some high, some low => UInt8.ofNat (high * 16 + low) :: decode rest
      | _, _ => 0x25 :: decode (first :: second :: rest)
  | byte :: rest => byte :: decode rest
  | [] => []

/-- Undo the escapes in a text whose bytes are then well formed. -/
def decodeText? (text : String) : Option String :=
  Utf8.text? (decode (Utf8.ofText text))

/-- Letters and digits. -/
def isAlphanumeric (character : Char) : Bool :=
  ('a' ≤ character && character ≤ 'z') || ('A' ≤ character && character ≤ 'Z') ||
    ('0' ≤ character && character ≤ '9')

/-- The characters that are never reserved in an address. -/
def isUnreserved (character : Char) : Bool :=
  isAlphanumeric character || character == '-' || character == '_' || character == '.' ||
    character == '~'

/-- The characters that stand for themselves in a path segment. -/
def isSegmentChar (character : Char) : Bool :=
  isUnreserved character || character == ':'

/-- Put colons in the place of their escapes, wherever these are found from the front on. -/
def restoreColons : List Char → List Char
  | '%' :: '3' :: 'A' :: rest => ':' :: restoreColons rest
  | character :: rest => character :: restoreColons rest
  | [] => []

/-- A text as one segment of a path: all that might be reserved is escaped, and then the colons are
put back. -/
def encodeSegment (text : String) : String :=
  String.ofList (restoreColons (encodeBytes isUnreserved (Utf8.ofText text)))

/-- The characters that stand for themselves in a form. -/
def isFormChar (character : Char) : Bool :=
  isAlphanumeric character || character == '-' || character == '_' || character == '.' ||
    character == '*'

/-- A text as a name or value in a form; a space becomes a plus sign. -/
def encodeFormPart (text : String) : List Char :=
  (Utf8.ofText text).flatMap fun byte =>
    if byte = 0x20 then ['+'] else encodeBytes isFormChar [byte]

/-- The body of a form with the given names and values. -/
def encodeForm (fields : List (String × String)) : String :=
  String.ofList
    (List.intercalate ['&']
      (fields.map fun (name, value) => encodeFormPart name ++ '=' :: encodeFormPart value))

end GroupFederation.Text.Percent
