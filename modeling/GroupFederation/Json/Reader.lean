import GroupFederation.Json.Value

/-!
# Reading JSON text

The reader accepts the grammar of RFC 8259 and nothing beside it: no trailing comma, no leading
zero, no bare control character in a string, no text behind the value. The source is a list of
symbols, one per character, with `none` for bytes that are no character; such a symbol is only
tolerated inside a string. An escaped surrogate pair is one character, and half of one is a unit
that is no character.

Recursion is on a bound that is twice the length of the source, which no nesting can exhaust: each
value takes at least one symbol and at most two steps of the bound.
-/

namespace GroupFederation.Json

/-- What is left to read. -/
abbrev Source := List (Option Char)

namespace Source

/-- The symbols of a text. -/
def ofText (text : String) : Source :=
  text.toList.map some

/-- The four characters that may stand between tokens. -/
def isSpace : Option Char → Bool
  | some character =>
      character == ' ' || character == '\t' || character == '\n' || character == '\r'
  | none => false

def skipSpace (source : Source) : Source :=
  source.dropWhile isSpace

end Source

/-! ## Strings -/

/-- One unit of a string as it is written. -/
inductive Unit16 where
  | plain (character : Option Char)
  | escaped (code : Nat)
  deriving DecidableEq, Repr

/-- The value of a hexadecimal digit in either case. -/
def hexValue? (character : Char) : Option Nat :=
  if '0' ≤ character ∧ character ≤ '9' then some (character.toNat - '0'.toNat)
  else if 'a' ≤ character ∧ character ≤ 'f' then some (character.toNat - 'a'.toNat + 10)
  else if 'A' ≤ character ∧ character ≤ 'F' then some (character.toNat - 'A'.toNat + 10)
  else none

/-- What the character behind a backslash stands for. -/
def shortEscape? : Char → Option Char
  | '"' => some '"'
  | '\\' => some '\\'
  | '/' => some '/'
  | 'b' => some '\x08'
  | 'f' => some '\x0c'
  | 'n' => some '\n'
  | 'r' => some '\r'
  | 't' => some '\t'
  | _ => none

/-- The units up to the closing quote, and what follows it. -/
def readUnits : Source → Option (List Unit16 × Source)
  | some '"' :: rest => some ([], rest)
  | some '\\' :: some 'u' :: some first :: some second :: some third :: some fourth :: rest => do
      let first ← hexValue? first
      let second ← hexValue? second
      let third ← hexValue? third
      let fourth ← hexValue? fourth
      let (units, rest) ← readUnits rest
      some (.escaped (((first * 16 + second) * 16 + third) * 16 + fourth) :: units, rest)
  | some '\\' :: some letter :: rest => do
      let character ← shortEscape? letter
      let (units, rest) ← readUnits rest
      some (.plain (some character) :: units, rest)
  | some character :: rest =>
      if character.toNat < 0x20 || character == '\\' then none
      else (readUnits rest).map fun (units, rest) => (.plain (some character) :: units, rest)
  | none :: rest => (readUnits rest).map fun (units, rest) => (.plain none :: units, rest)
  | [] => none

def isHighSurrogate (code : Nat) : Bool :=
  0xD800 ≤ code && code ≤ 0xDBFF

def isLowSurrogate (code : Nat) : Bool :=
  0xDC00 ≤ code && code ≤ 0xDFFF

/-- The character of a surrogate pair. -/
def pairedChar (high low : Nat) : Char :=
  Char.ofNat (0x10000 + (high - 0xD800) * 0x400 + (low - 0xDC00))

/-- Join surrogate pairs; half of a pair on its own is no character. -/
def joinUnits : List Unit16 → Literal
  | [] => []
  | .plain character :: units => character :: joinUnits units
  | .escaped code :: units =>
      if isHighSurrogate code then
        match units with
        | .escaped low :: rest =>
            if isLowSurrogate low then some (pairedChar code low) :: joinUnits rest
            else none :: joinUnits (.escaped low :: rest)
        | other => none :: joinUnits other
      else if isLowSurrogate code then none :: joinUnits units
      else some (Char.ofNat code) :: joinUnits units

/-- The string whose opening quote has been read. -/
def readLiteral (source : Source) : Option (Literal × Source) :=
  (readUnits source).map fun (units, rest) => (joinUnits units, rest)

/-! ## Numbers -/

/-- The value of a decimal digit. -/
def digitValue? : Option Char → Option Nat
  | some character =>
      if '0' ≤ character ∧ character ≤ '9' then some (character.toNat - '0'.toNat) else none
  | none => none

/-- The longest run of digits in front. -/
def readDigits : Source → List Nat × Source
  | [] => ([], [])
  | symbol :: rest =>
      match digitValue? symbol with
      | some digit =>
          let (digits, rest) := readDigits rest
          (digit :: digits, rest)
      | none => ([], symbol :: rest)

/-- A run of at least one digit. -/
def readSomeDigits (source : Source) : Option (List Nat × Source) :=
  match readDigits source with
  | ([], _) => none
  | found => some found

/-- The power of ten behind an `e`, with its sign. -/
def readExponent : Source → Option (Int × Source)
  | some '+' :: rest =>
      (readSomeDigits rest).map fun (digits, rest) => (Number.ofDigits digits, rest)
  | some '-' :: rest =>
      (readSomeDigits rest).map fun (digits, rest) => (-(Number.ofDigits digits : Int), rest)
  | source =>
      (readSomeDigits source).map fun (digits, rest) => (Number.ofDigits digits, rest)

/-- The sign of a number. -/
def readSign : Source → Bool × Source
  | some '-' :: rest => (true, rest)
  | other => (false, other)

/-- The digits behind the point, if there is one. -/
def readFraction : Source → Option (List Nat × Source)
  | some '.' :: rest => readSomeDigits rest
  | other => some ([], other)

/-- The power of ten, if there is one. -/
def readPower : Source → Option (Option Int × Source)
  | some 'e' :: rest => (readExponent rest).map fun (power, rest) => (some power, rest)
  | some 'E' :: rest => (readExponent rest).map fun (power, rest) => (some power, rest)
  | other => some (none, other)

/-- A number: no digit may follow a leading zero, and at least one follows a point or an `e`. -/
def readNumber (source : Source) : Option (Number × Source) := do
  let (negative, source) := readSign source
  let (whole, source) ← readSomeDigits source
  if whole.head? = some 0 ∧ whole.length ≠ 1 then none
  let (fraction, source) ← readFraction source
  let (exponent, source) ← readPower source
  some (⟨negative, whole, fraction, exponent⟩, source)

/-! ## Values -/

mutual

/-- A value and what follows it. -/
def readValue : Nat → Source → Option (Value × Source)
  | 0, _ => none
  | bound + 1, source =>
      match source.skipSpace with
      | some 'n' :: some 'u' :: some 'l' :: some 'l' :: rest => some (.null, rest)
      | some 't' :: some 'r' :: some 'u' :: some 'e' :: rest => some (.bool true, rest)
      | some 'f' :: some 'a' :: some 'l' :: some 's' :: some 'e' :: rest =>
          some (.bool false, rest)
      | some '"' :: rest =>
          (readLiteral rest).map fun (literal, rest) => (.string literal, rest)
      | some '[' :: rest =>
          match Source.skipSpace rest with
          | some ']' :: rest => some (.array [], rest)
          | rest => (readItems bound rest).map fun (items, rest) => (.array items, rest)
      | some '\x7b' :: rest =>
          match Source.skipSpace rest with
          | some '\x7d' :: rest => some (.object [], rest)
          | rest => (readMembers bound rest).map fun (members, rest) => (.object members, rest)
      | other => (readNumber other).map fun (number, rest) => (.number number, rest)

/-- The items of an array up to its closing bracket. -/
def readItems : Nat → Source → Option (List Value × Source)
  | 0, _ => none
  | bound + 1, source =>
      match readValue bound source with
      | none => none
      | some (item, rest) =>
          match rest.skipSpace with
          | some ']' :: rest => some ([item], rest)
          | some ',' :: rest =>
              (readItems bound rest).map fun (items, rest) => (item :: items, rest)
          | _ => none

/-- The members of an object up to its closing brace. -/
def readMembers : Nat → Source → Option (List (Literal × Value) × Source)
  | 0, _ => none
  | bound + 1, source =>
      match source.skipSpace with
      | some '"' :: rest =>
          match readLiteral rest with
          | none => none
          | some (name, rest) =>
              match Source.skipSpace rest with
              | some ':' :: rest =>
                  match readValue bound rest with
                  | none => none
                  | some (value, rest) =>
                      match rest.skipSpace with
                      | some '\x7d' :: rest => some ([(name, value)], rest)
                      | some ',' :: rest =>
                          (readMembers bound rest).map fun (members, rest) =>
                            ((name, value) :: members, rest)
                      | _ => none
              | _ => none
      | _ => none

end

/-- The value of a source with nothing but space around it. -/
def readSource (source : Source) : Option Value :=
  match readValue (2 * source.length + 2) source with
  | some (value, rest) => if rest.skipSpace.isEmpty then some value else none
  | none => none

/-- The value of a text. -/
def read (text : String) : Option Value :=
  readSource (Source.ofText text)

end GroupFederation.Json
