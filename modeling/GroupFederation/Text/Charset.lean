import GroupFederation.Text.Blank
import GroupFederation.Text.Utf8

/-!
# Character sets

The body of an answer is a sequence of bytes in some character set. A byte order mark at its start
decides and is removed; otherwise the label that comes with the answer does, and UTF-8 where there
is none. Reading never fails: what is no character becomes the replacement character.
-/

namespace GroupFederation.Text

/-- The character sets that are told apart. -/
inductive Charset where
  | utf8
  | utf16Little
  | utf16Big
  | windows1252
  | latin9
  deriving DecidableEq, Repr

namespace Charset

/-- The labels of the western one-byte set, which are also those of its subsets. -/
def westernLabels : List String :=
  ["ansi_x3.4-1968", "ascii", "cp1252", "cp819", "csisolatin1", "ibm819", "iso-8859-1",
    "iso-ir-100", "iso8859-1", "iso88591", "iso_8859-1", "iso_8859-1:1987", "l1", "latin1",
    "us-ascii", "windows-1252", "x-cp1252"]

/-- The character set with a label. -/
def ofLabel? (label : String) : Option Charset :=
  let known := lower (trim label)
  if ["utf-8", "utf8", "unicode-1-1-utf-8", "unicode11utf8", "unicode20utf8",
      "x-unicode20utf8"].contains known then some .utf8
  else if westernLabels.contains known then some .windows1252
  else if ["utf-16", "utf-16le", "csunicode", "iso-10646-ucs-2", "ucs-2", "unicode",
      "unicodefeff"].contains known then some .utf16Little
  else if ["utf-16be", "unicodefffe"].contains known then some .utf16Big
  else if ["csisolatin9", "iso-8859-15", "iso8859-15", "iso885915", "iso_8859-15",
      "l9"].contains known then some .latin9
  else none

/-- The characters of the bytes `0x80` to `0x9F` in the western set. -/
def westernTable : List Nat :=
  [0x20AC, 0x81, 0x201A, 0x192, 0x201E, 0x2026, 0x2020, 0x2021, 0x2C6, 0x2030, 0x160, 0x2039,
    0x152, 0x8D, 0x17D, 0x8F, 0x90, 0x2018, 0x2019, 0x201C, 0x201D, 0x2022, 0x2013, 0x2014,
    0x2DC, 0x2122, 0x161, 0x203A, 0x153, 0x9D, 0x17E, 0x178]

/-- A byte of the western set. -/
def westernChar (byte : UInt8) : Char :=
  let code := byte.toNat
  if 0x80 ≤ code ∧ code ≤ 0x9F then Char.ofNat (westernTable.getD (code - 0x80) code)
  else Char.ofNat code

/-- A byte of the ninth Latin set, which has the euro sign and a few further letters. -/
def latin9Char (byte : UInt8) : Char :=
  match byte.toNat with
  | 0xA4 => Char.ofNat 0x20AC
  | 0xA6 => Char.ofNat 0x160
  | 0xA8 => Char.ofNat 0x161
  | 0xB4 => Char.ofNat 0x17D
  | 0xB8 => Char.ofNat 0x17E
  | 0xBC => Char.ofNat 0x152
  | 0xBD => Char.ofNat 0x153
  | 0xBE => Char.ofNat 0x178
  | code => Char.ofNat code

/-- The units of two bytes each; half a unit at the end is given as `none`. -/
def units (bigFirst : Bool) : Bytes → List (Option Nat)
  | first :: second :: rest =>
      some (if bigFirst then first.toNat * 0x100 + second.toNat
        else second.toNat * 0x100 + first.toNat) :: units bigFirst rest
  | [_] => [none]
  | [] => []

/-- Join surrogate pairs; half of a pair is no character. -/
def joinPairs : List (Option Nat) → List Char
  | [] => []
  | none :: rest => '\ufffd' :: joinPairs rest
  | some high :: some low :: rest =>
      if 0xD800 ≤ high ∧ high ≤ 0xDBFF then
        if 0xDC00 ≤ low ∧ low ≤ 0xDFFF then
          Char.ofNat (0x10000 + (high - 0xD800) * 0x400 + (low - 0xDC00)) :: joinPairs rest
        else '\ufffd' :: joinPairs (some low :: rest)
      else if 0xDC00 ≤ high ∧ high ≤ 0xDFFF then '\ufffd' :: joinPairs (some low :: rest)
      else Char.ofNat high :: joinPairs (some low :: rest)
  | some code :: rest =>
      (if 0xD800 ≤ code ∧ code ≤ 0xDFFF then '\ufffd' else Char.ofNat code) :: joinPairs rest

/-- The characters of bytes in a character set. -/
def characters (charset : Charset) (bytes : Bytes) : List Char :=
  match charset with
  | .utf8 => Utf8.decodeLossy bytes
  | .utf16Little => joinPairs (units false bytes)
  | .utf16Big => joinPairs (units true bytes)
  | .windows1252 => bytes.map westernChar
  | .latin9 => bytes.map latin9Char

/-- The character set that a byte order mark names, and the bytes behind the mark. -/
def ofMark? : Bytes → Option (Charset × Bytes)
  | 0xEF :: 0xBB :: 0xBF :: rest => some (.utf8, rest)
  | 0xFF :: 0xFE :: rest => some (.utf16Little, rest)
  | 0xFE :: 0xFF :: rest => some (.utf16Big, rest)
  | _ => none

/-- The text of bytes that came with a character set. -/
def decode (charset : Charset) (bytes : Bytes) : String :=
  match ofMark? bytes with
  | some (marked, rest) => String.ofList (marked.characters rest)
  | none => String.ofList (charset.characters bytes)

/-- A parameter value without its quotes. -/
def unquoted (value : String) : String :=
  match value.toList with
  | '"' :: rest => String.ofList (rest.takeWhile (· != '"'))
  | _ => value

/-- The value of a parameter behind a media type. -/
def parameter? (name mediaType : String) : Option String :=
  ((splitOn ';' mediaType.toList).drop 1).findSome? fun parameter =>
    match cutAt '=' parameter with
    | (label, some value) =>
        if lower (trim (String.ofList label)) == name then
          some (unquoted (trim (String.ofList value)))
        else none
    | (_, none) => none

/-- The character set of a media type: that of its parameter `charset`, if it is known. -/
def ofMediaType? (mediaType : String) : Option Charset :=
  (parameter? "charset" mediaType).bind ofLabel?

end Charset

end GroupFederation.Text
