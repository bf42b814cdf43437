import GroupFederation.Text.Blank
import GroupFederation.Text.Percent

/-!
# Addresses

An address is read as browsers read it: space at its ends and line ends inside it do not count,
a backslash is a slash, segments of one or two dots are resolved, and whatever may not stand in a
path or a query is percent-encoded. Only addresses of web servers can be asked; of such an address
the host and the port say where a request goes, and the path and the query what it asks for.

Hosts are read as plain names, which is less than browsers do. A name with letters beyond ASCII is
not put into its ASCII form, a number is not taken for an address of four bytes, and what stands
between brackets is neither checked nor rewritten.
-/

namespace GroupFederation.Http

/-- The address of a resource on a web server. -/
structure Url where
  /-- Whether the connection is encrypted. -/
  isSecure : Bool
  /-- A name and a password in the address itself. -/
  account : Option (String × String)
  host : String
  port : Nat
  /-- The segments of the path, percent-encoded. -/
  segments : List String
  query : Option String
  deriving DecidableEq, Repr

namespace Url

/-! ## Parts of a path -/

/-- Whether a character separates the segments of a path. -/
def isSlash (character : Char) : Bool :=
  character == '/' || character == '\\'

/-- The pieces between slashes. -/
def splitSlashes : List Char → List (List Char)
  | [] => [[]]
  | character :: rest =>
      if isSlash character then [] :: splitSlashes rest
      else match splitSlashes rest with
        | [] => [[character]]
        | piece :: pieces => (character :: piece) :: pieces

/-- A segment with its dots written out. -/
def plainDots : List Char → List Char
  | '%' :: '2' :: 'e' :: rest => '.' :: plainDots rest
  | '%' :: '2' :: 'E' :: rest => '.' :: plainDots rest
  | character :: rest => character :: plainDots rest
  | [] => []

/-- Whether a segment stands for its own directory. -/
def isSingleDot (segment : List Char) : Bool :=
  plainDots segment == ['.']

/-- Whether a segment stands for the directory above. -/
def isDoubleDot (segment : List Char) : Bool :=
  plainDots segment == ['.', '.']

/-- Whether a character stands for itself in a path. -/
def isPathChar (character : Char) : Bool :=
  '!' ≤ character && character ≤ '~' &&
    !(['"', '#', '<', '>', '?', '\x60', '\x7b', '\x7d'].contains character)

/-- Whether a character stands for itself in a query. -/
def isQueryChar (character : Char) : Bool :=
  '!' ≤ character && character ≤ '~' && !(['"', '#', '<', '>', '\''].contains character)

/-- A segment with what may not stand in it percent-encoded. -/
def encodePathPart (segment : List Char) : String :=
  String.ofList (Text.Percent.encodeBytes isPathChar (Text.Utf8.encode segment))

/-- Walk along the segments of a path from a directory. -/
def walk (directory : List String) : List (List Char) → List String
  | [] => directory
  | [last] =>
      if isDoubleDot last then directory.dropLast ++ [""]
      else if isSingleDot last then directory ++ [""]
      else directory ++ [encodePathPart last]
  | segment :: rest =>
      if isDoubleDot segment then walk directory.dropLast rest
      else if isSingleDot segment then walk directory rest
      else walk (directory ++ [encodePathPart segment]) rest

/-! ## Parts of an address -/

/-- Cut a text where a query or a fragment begins. -/
def cutPath (text : List Char) : List Char × Option (List Char) :=
  let withoutFragment := text.takeWhile (· != '#')
  Text.cutAt '?' withoutFragment

def encodeQuery (query : List Char) : String :=
  String.ofList (Text.Percent.encodeBytes isQueryChar (Text.Utf8.encode query))

/-- Characters that may not stand in the name of a host. -/
def isForbiddenInHost (character : Char) : Bool :=
  character ≤ ' ' || character == '\x7f' ||
    ['#', '%', '/', ':', '<', '>', '?', '@', '[', '\\', ']', '^', '|'].contains character

/-- A host in lower case and without escapes. Beyond the characters that no host holds nothing is
checked, and nothing else is rewritten, be it a name beyond ASCII or an address in numbers. -/
def readHost? (text : List Char) : Option String :=
  match text with
  | '[' :: rest => if rest.getLast? = some ']' then some (String.ofList text) else none
  | _ =>
      let host := Text.lower
        (String.ofList (Text.Utf8.decodeLossy (Text.Percent.decode (Text.Utf8.encode text))))
      if host == "" || host.toList.any isForbiddenInHost then none else some host

/-- The port behind the colon; none is the one that goes without saying. -/
def readPort? (isSecure : Bool) (text : List Char) : Option Nat :=
  if text.isEmpty then some (if isSecure then 443 else 80)
  else if text.all Char.isDigit then
    let port := text.foldl (fun number digit => number * 10 + (digit.toNat - '0'.toNat)) 0
    if port < 65536 then some port else none
  else none

/-- Host and port; the colon before the port is the last one that is not between brackets. -/
def splitPort (text : List Char) : List Char × List Char :=
  match text.reverse.span (fun character => character != ':' && character != ']') with
  | (port, ':' :: host) => (host.reverse, port.reverse)
  | _ => (text, [])

def unescaped (text : List Char) : String :=
  String.ofList (Text.Utf8.decodeLossy (Text.Percent.decode (Text.Utf8.encode text)))

/-- Account, host and port. -/
def readAuthority? (isSecure : Bool) (text : List Char) :
    Option (Option (String × String) × String × Nat) := do
  let (account, place) := match text.reverse.span (· != '@') with
    | (place, '@' :: account) => (some account.reverse, place.reverse)
    | (place, _) => (none, place.reverse)
  let (host, port) := splitPort place
  let host ← readHost? host
  let port ← readPort? isSecure port
  let account := account.bind fun account =>
    let (username, password) := Text.cutAt ':' account
    if username.isEmpty && (password.getD []).isEmpty then none
    else some (unescaped username, unescaped (password.getD []))
  some (account, host, port)

/-- The scheme in front of an address, and what follows its colon. -/
def splitScheme? (text : List Char) : Option (String × List Char) :=
  match Text.cutAt ':' text with
  | (scheme, some rest) =>
      match scheme with
      | first :: _ =>
          if first.isAlpha && scheme.all fun character =>
              Text.Percent.isAlphanumeric character || ['+', '-', '.'].contains character then
            some (Text.lower (String.ofList scheme), rest)
          else none
      | [] => none
  | (_, none) => none

/-- An address without the space around it and without line ends and tabs inside it. -/
def clean (text : String) : List Char :=
  (Text.dropEndWhile (· ≤ ' ') (text.toList.dropWhile (· ≤ ' '))).filter fun character =>
    character != '\t' && character != '\n' && character != '\r'

/-- What follows the slashes behind a scheme. -/
def readAfterScheme? (isSecure : Bool) (text : List Char) : Option Url := do
  let rest := text.dropWhile isSlash
  let isAuthorityChar (character : Char) : Bool :=
    !isSlash character && character != '?' && character != '#'
  let (account, host, port) ← readAuthority? isSecure (rest.takeWhile isAuthorityChar)
  let (path, query) := cutPath (rest.dropWhile isAuthorityChar)
  let path := match path with
    | [] => []
    | _ :: path => path
  some ⟨isSecure, account, host, port, walk [] (splitSlashes path), query.map encodeQuery⟩

def isSecureScheme? : String → Option Bool
  | "http" => some false
  | "https" => some true
  | _ => none

/-- The address that a text spells out in full. -/
def parse? (text : String) : Option Url := do
  let (scheme, rest) ← splitScheme? (clean text)
  readAfterScheme? (← isSecureScheme? scheme) rest

/-- The address that a text means when it is found at another address. -/
def resolve? (base : Url) (text : String) : Option Url :=
  let reference := clean text
  let relative (reference : List Char) : Option Url :=
    match reference with
    | first :: second :: rest =>
        if isSlash first && isSlash second then readAfterScheme? base.isSecure rest
        else
          let (path, query) := cutPath reference
          some (place path (query.map encodeQuery))
    | _ =>
        let (path, query) := cutPath reference
        some (place path (query.map encodeQuery))
  match splitScheme? reference with
  | some (scheme, rest) =>
      match isSecureScheme? scheme with
      | none => none
      | some isSecure =>
          if isSecure = base.isSecure ∧ !(rest.head?.any isSlash) then relative rest
          else readAfterScheme? isSecure rest
  | none => relative reference
where
  /-- A path and a query on the same server. -/
  place (path : List Char) (query : Option String) : Url :=
    match path with
    | [] => { base with query := if query.isSome then query else base.query }
    | first :: rest =>
        let segments :=
          if isSlash first then walk [] (splitSlashes rest)
          else walk base.segments.dropLast (splitSlashes path)
        { base with segments := segments, query := query }

/-- The path of an address. -/
def path (url : Url) : String :=
  "/" ++ "/".intercalate url.segments

/-- What a request asks its server for. -/
def target (url : Url) : String :=
  url.path ++
    match url.query with
    | none => ""
    | some query => "?" ++ query

end Url

end GroupFederation.Http
