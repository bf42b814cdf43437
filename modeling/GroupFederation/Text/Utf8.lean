/-!
# UTF-8

A text is sent as bytes, one to four for each character. Bytes that arrive need not be well formed:
the reader gives one symbol per character, and `none` for each stretch that is none. Such a stretch
is the longest start of a well-formed sequence, or a single byte that starts no sequence; the byte
behind it is looked at afresh.
-/

namespace GroupFederation.Text

/-- A sequence of bytes. -/
abbrev Bytes := List UInt8

namespace Utf8

/-- The bytes of characters. -/
def encode (characters : List Char) : Bytes :=
  characters.flatMap String.utf8EncodeChar

/-- The bytes of a text. -/
def ofText (text : String) : Bytes :=
  encode text.toList

@[simp] theorem encode_append (front back : List Char) :
    encode (front ++ back) = encode front ++ encode back :=
  List.flatMap_append

/-- What is expected next: a fresh character, or `missing` further bytes of a character whose bits
so far are `value`, the first of them between `least` and `greatest`. -/
inductive Expectation where
  | fresh
  | further (value missing least greatest : Nat)
  deriving DecidableEq, Repr

/-- Look at a byte where a character may start: the symbols that are complete with it, and what is
expected behind it. -/
def start (byte : UInt8) : List (Option Char) × Expectation :=
  let code := byte.toNat
  if code < 0x80 then ([some (Char.ofNat code)], .fresh)
  else if code < 0xC2 then ([none], .fresh)
  else if code < 0xE0 then ([], .further (code - 0xC0) 1 0x80 0xBF)
  else if code = 0xE0 then ([], .further 0 2 0xA0 0xBF)
  else if code = 0xED then ([], .further 0xD 2 0x80 0x9F)
  else if code < 0xF0 then ([], .further (code - 0xE0) 2 0x80 0xBF)
  else if code = 0xF0 then ([], .further 0 3 0x90 0xBF)
  else if code < 0xF4 then ([], .further (code - 0xF0) 3 0x80 0xBF)
  else if code = 0xF4 then ([], .further 4 3 0x80 0x8F)
  else ([none], .fresh)

/-- The symbols of bytes that follow what the expectation describes. -/
def decodeFrom : Expectation → Bytes → List (Option Char)
  | .fresh, [] => []
  | .further .., [] => [none]
  | .fresh, byte :: bytes => (start byte).1 ++ decodeFrom (start byte).2 bytes
  | .further value missing least greatest, byte :: bytes =>
      let code := byte.toNat
      if least ≤ code ∧ code ≤ greatest then
        let value := value * 0x40 + (code - 0x80)
        if missing = 1 then some (Char.ofNat value) :: decodeFrom .fresh bytes
        else decodeFrom (.further value (missing - 1) 0x80 0xBF) bytes
      else none :: ((start byte).1 ++ decodeFrom (start byte).2 bytes)

/-- The symbols of a sequence of bytes. -/
def decode (bytes : Bytes) : List (Option Char) :=
  decodeFrom .fresh bytes

/-- The characters of a sequence of bytes, with the replacement character for whatever is none. -/
def decodeLossy (bytes : Bytes) : List Char :=
  (decode bytes).map fun symbol => symbol.getD '\ufffd'

/-- The characters of well-formed bytes. -/
def characters? : List (Option Char) → Option (List Char)
  | [] => some []
  | some character :: rest => (characters? rest).map (character :: ·)
  | none :: _ => none

/-- The text of well-formed bytes. -/
def text? (bytes : Bytes) : Option String :=
  (characters? (decode bytes)).map String.ofList

/-- The characters of a file without the byte order mark that may stand before them. -/
def withoutMark : List Char → List Char
  | '\ufeff' :: rest => rest
  | characters => characters

end Utf8

end GroupFederation.Text
