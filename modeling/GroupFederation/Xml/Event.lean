import GroupFederation.Text.Blank
import GroupFederation.Text.Utf8
import GroupFederation.Xml.Escape

/-!
# Events of a document

A document is read as a sequence of events: an element opens, an element closes, or there is text
between two pieces of markup. Space around such a text does not count, and a text of nothing but
space is none. Comments, character data sections, instructions, declarations and empty elements give
no event, attributes are not looked at, and an element is known by the part of its name behind the
first colon.

Markup has to end, and a closing tag has to repeat the name that was opened last; but elements may
still be open when the document ends.
-/

namespace GroupFederation.Xml

/-- A step through a document. -/
inductive Event where
  | opened (name : String)
  | closed
  /-- Text as it is written, references included. -/
  | text (content : List Char)
  deriving DecidableEq, Repr

/-- A piece of a document. -/
inductive Piece where
  | text (content : List Char)
  /-- What stands between the brackets of an opening tag. -/
  | opening (content : List Char)
  /-- What stands behind the slash of a closing tag. -/
  | closing (content : List Char)
  /-- Markup without an event. -/
  | skipped
  deriving DecidableEq, Repr

/-- The four characters that count as space. -/
def isSpace (character : Char) : Bool :=
  character == ' ' || character == '\t' || character == '\n' || character == '\r'

/-- Text without the space around it. -/
def trimmed (content : List Char) : List Char :=
  Text.dropEndWhile isSpace (content.dropWhile isSpace)

/-! ## Pieces -/

/-- What follows the first occurrence of a mark. -/
def skipPast (mark : List Char) : List Char → Option (List Char)
  | [] => none
  | character :: rest =>
      if mark.isPrefixOf (character :: rest) then some ((character :: rest).drop mark.length)
      else skipPast mark rest

/-- The content of a tag and what follows its closing bracket; within quotes no bracket counts.
`quote` is the quote that is open. -/
def readTag (quote : Option Char) : List Char → Option (List Char × List Char)
  | [] => none
  | character :: rest =>
      let next (quote : Option Char) :=
        (readTag quote rest).map fun (content, rest) => (character :: content, rest)
      match quote with
      | some mark => next (if character = mark then none else quote)
      | none =>
          if character = '>' then some ([], rest)
          else next (if character = '"' ∨ character = '\'' then some character else none)

/-- The content of a document type declaration and what follows its closing bracket; `depth`
brackets are open inside it. -/
def readDoctype (depth : Nat) : List Char → Option (List Char × List Char)
  | [] => none
  | character :: rest =>
      let next (depth : Nat) :=
        (readDoctype depth rest).map fun (content, rest) => (character :: content, rest)
      if character = '<' then next (depth + 1)
      else if character = '>' then
        match depth with
        | 0 => some ([], rest)
        | depth + 1 => next depth
      else next depth

/-- Whether a text begins with a keyword, in any case. -/
def beginsWith (keyword text : List Char) : Bool :=
  keyword.map Char.toLower == (text.take keyword.length).map Char.toLower

/-- Skip the markup whose opening bracket is followed by an exclamation mark. -/
def skipDeclaration : List Char → Option (List Char)
  | '-' :: '-' :: rest => skipPast ['-', '-', '>'] rest
  | '[' :: rest =>
      if beginsWith "CDATA[".toList rest then skipPast [']', ']', '>'] (rest.drop 6) else none
  | text => do
      let (content, rest) ← readDoctype 0 text
      if beginsWith "DOCTYPE".toList content && !(content.drop 7).all isSpace then some rest
      else none

/-- Skip an instruction, which ends with a question mark and a bracket. -/
def skipInstruction : List Char → Option (List Char)
  | '>' :: _ => none
  | rest => skipPast ['?', '>'] rest

/-- The markup behind an opening bracket, and what follows it. -/
def readMarkup : List Char → Option (Piece × List Char)
  | [] => none
  | '!' :: rest => (skipDeclaration rest).map fun rest => (.skipped, rest)
  | '?' :: rest => (skipInstruction rest).map fun rest => (.skipped, rest)
  | '/' :: rest => (readTag none rest).map fun (content, rest) => (.closing content, rest)
  | rest =>
      (readTag none rest).map fun (content, rest) =>
        (if content.getLast? = some '/' then .skipped else .opening content, rest)

/-- The pieces of a document. The bound is on their number, of which each markup takes one. -/
def readPieces : (bound : Nat) → List Char → Option (List Piece)
  | 0, _ => none
  | bound + 1, source =>
      let content := trimmed (source.takeWhile (· != '<'))
      let front := if content.isEmpty then [] else [Piece.text content]
      match source.dropWhile (· != '<') with
      | [] => some front
      | _ :: rest =>
          match readMarkup rest with
          | none => none
          | some (piece, rest) =>
              (readPieces bound rest).map fun pieces => front ++ piece :: pieces

/-! ## Events -/

/-- The name in a tag, with everything up to its end that is not space. -/
def tagName (content : List Char) : List Char :=
  content.takeWhile fun character => !isSpace character

/-- The part of a name behind its first colon. -/
def localName (name : List Char) : String :=
  match Text.cutAt ':' name with
  | (_, some rest) => String.ofList rest
  | (whole, none) => String.ofList whole

/-- The events of pieces; `opened` holds the names that are open, the last one first. -/
def eventsOf (opened : List (List Char)) : List Piece → Option (List Event)
  | [] => some []
  | .text content :: pieces => (eventsOf opened pieces).map (.text content :: ·)
  | .skipped :: pieces => eventsOf opened pieces
  | .opening content :: pieces =>
      let name := tagName content
      (eventsOf (name :: opened) pieces).map (.opened (localName name) :: ·)
  | .closing content :: pieces =>
      match opened with
      | [] => none
      | name :: opened =>
          if Text.dropEndWhile isSpace content = name then
            (eventsOf opened pieces).map (.closed :: ·)
          else none

/-- The events of a document, unless its markup is not well formed. -/
def readEvents? (document : String) : Option (List Event) :=
  let source := Text.Utf8.withoutMark document.toList
  (readPieces (source.length + 1) source).bind (eventsOf [])

end GroupFederation.Xml
