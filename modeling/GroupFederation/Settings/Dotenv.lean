import GroupFederation.Settings.Environment
import GroupFederation.Text.Alphanumeric
import GroupFederation.Text.Utf8

/-!
# The `.env` file

A `.env` file sets variables that the environment does not set. Each line has a name, an equals
sign and a value; a value may be quoted, and in quotes it may go on over several lines.

* Outside quotes and in double quotes, a backslash takes away the meaning of the character behind
  it, and `$NAME` or `$` with a name in braces stands for the variable of that name, or for nothing
  if there is none. The name without braces ends before the first character that is neither a
  letter nor a numeral.
* In single quotes every character stands for itself.
* Outside quotes a blank ends the value; only a comment may follow.

The file is read up to the first line that is not well formed. What the lines before it say holds.
-/

namespace GroupFederation.Settings.Dotenv

/-! ## Lines -/

/-- What the next character means for the end of a line. -/
inductive Reading where
  | plain
  | blank
  | escaped
  | singleQuoted
  | singleEscaped
  | doubleQuoted
  | doubleEscaped
  deriving DecidableEq, Repr

namespace Reading

/-- Outside quotes, a character other than a blank one. -/
def begin : Char → Reading
  | '\\' => .escaped
  | '"' => .doubleQuoted
  | '\'' => .singleQuoted
  | _ => .plain

/-- The reading behind a character. -/
def next : Reading → Char → Reading
  | .plain, character =>
      if Text.isBlank character && character != '\n' && character != '\r' then .blank
      else begin character
  | .blank, character => begin character
  | .escaped, _ => .plain
  | .singleQuoted, '\\' => .singleEscaped
  | .singleQuoted, '\'' => .plain
  | .singleQuoted, _ => .singleQuoted
  | .singleEscaped, _ => .singleQuoted
  | .doubleQuoted, '\\' => .doubleEscaped
  | .doubleQuoted, '"' => .plain
  | .doubleQuoted, _ => .doubleQuoted
  | .doubleEscaped, _ => .doubleQuoted

end Reading

/-- Follow a stretch of text: what comes before a comment in it, and the reading at its end, which
is missing when there is a comment. A comment begins with a number sign behind a blank. -/
def follow (reading : Reading) : List Char → List Char × Option Reading
  | [] => ([], some reading)
  | character :: rest =>
      if reading = .blank ∧ character = '#' then ([], none)
      else
        let (before, ending) := follow (reading.next character) rest
        (character :: before, ending)

/-- The stretches up to each line feed, line feeds included. -/
def stretches : List Char → List (List Char)
  | [] => []
  | '\n' :: rest => ['\n'] :: stretches rest
  | character :: rest =>
      match stretches rest with
      | [] => [[character]]
      | stretch :: others => (character :: stretch) :: others

/-- A line without the line feed at its end, and without a carriage return before that. -/
def withoutLineFeed (line : List Char) : List Char :=
  match line.reverse with
  | '\n' :: '\r' :: rest => rest.reverse
  | '\n' :: rest => rest.reverse
  | _ => line

/-- Whether a line has nothing but a comment. -/
def isComment (line : List Char) : Bool :=
  (line.dropWhile Text.isBlank).head? == some '#'

/-- The lines that stretches make; a line goes on over stretches that end inside quotes. `none`
stands for a line that does not end. -/
def lines (begun : List Char) (reading : Reading) : List (List Char) → List (Option (List Char))
  | [] => if reading = .plain then [] else [none]
  | stretch :: rest =>
      let line := begun ++ stretch
      if isComment line then some [] :: lines [] .plain rest
      else match follow reading stretch with
        | (before, none) => some (begun ++ before) :: lines [] .plain rest
        | (_, some .plain) => some (withoutLineFeed line) :: lines [] .plain rest
        | (_, some within) => lines line within rest

/-! ## Values -/

/-- What a value is read as. -/
inductive Mode where
  /-- Outside quotes, or in double quotes. -/
  | plain (isQuoted : Bool)
  /-- Behind a backslash. -/
  | escaped (isQuoted : Bool)
  /-- In single quotes. -/
  | literal
  /-- In the name of a variable. -/
  | named (isQuoted : Bool) (name : List Char)
  /-- In the name of a variable in braces. -/
  | braced (isQuoted : Bool) (name : List Char)
  /-- Behind the value. -/
  | ended
  deriving DecidableEq, Repr

/-- The character that an escaped one stands for. -/
def escape? : Char → Option Char
  | '\\' => some '\\'
  | '\'' => some '\''
  | '"' => some '"'
  | '$' => some '$'
  | ' ' => some ' '
  | 'n' => some '\n'
  | _ => none

/-- The value of a variable; one that is not set is empty. -/
def expansion (environment : Environment) (name : List Char) : List Char :=
  ((environment.get? (String.ofList name)).getD "").toList

/-- Read a value. -/
def readValue (environment : Environment) : Mode → List Char → Option (List Char)
  | .plain isQuoted, [] => if isQuoted then none else some []
  | .escaped isQuoted, [] => if isQuoted then none else some []
  | .literal, [] => none
  | .named isQuoted name, [] => if isQuoted then none else some (expansion environment name)
  | .braced _ _, [] => none
  | .ended, [] => some []
  | .plain isQuoted, character :: rest =>
      if character = '$' then readValue environment (.named isQuoted []) rest
      else if character = '\\' then readValue environment (.escaped isQuoted) rest
      else if character = '"' then readValue environment (.plain !isQuoted) rest
      else if isQuoted then (readValue environment (.plain true) rest).map (character :: ·)
      else if character = '\'' then readValue environment .literal rest
      else if character = ' ' ∨ character = '\t' then readValue environment .ended rest
      else (readValue environment (.plain false) rest).map (character :: ·)
  | .escaped isQuoted, character :: rest =>
      match escape? character with
      | some meant => (readValue environment (.plain isQuoted) rest).map (meant :: ·)
      | none => none
  | .literal, character :: rest =>
      if character = '\'' then readValue environment (.plain false) rest
      else (readValue environment .literal rest).map (character :: ·)
  | .named isQuoted name, character :: rest =>
      if Text.isAlphanumeric character then
        readValue environment (.named isQuoted (name ++ [character])) rest
      else if character = '\x7b' ∧ name = [] then readValue environment (.braced isQuoted []) rest
      else if character = '$' then
        (readValue environment (.named isQuoted []) rest).map (expansion environment name ++ ·)
      else
        (readValue environment (.plain isQuoted) rest).map fun value =>
          expansion environment name ++ character :: value
  | .braced isQuoted name, character :: rest =>
      if character = '\x7d' then
        (readValue environment (.plain isQuoted) rest).map (expansion environment name ++ ·)
      else readValue environment (.braced isQuoted (name ++ [character])) rest
  | .ended, character :: rest =>
      if character = ' ' ∨ character = '\t' then readValue environment .ended rest
      else if character = '#' then some []
      else none

/-! ## Variables -/

/-- Whether a name may begin with a character. -/
def isNameStart (character : Char) : Bool :=
  character.isAlpha || character == '_'

/-- Whether a name may go on with a character. -/
def isNameChar (character : Char) : Bool :=
  character.isAlphanum || character == '_' || character == '.'

/-- A name and what follows it. -/
def readName? (characters : List Char) : Option (String × List Char) :=
  match characters with
  | [] => none
  | first :: _ =>
      if isNameStart first then
        some (String.ofList (characters.takeWhile isNameChar), characters.dropWhile isNameChar)
      else none

/-- What follows an equals sign, without blank characters before and behind the sign. -/
def behindEquals? (characters : List Char) : Option (List Char) :=
  match characters.dropWhile Text.isBlank with
  | '=' :: rest => some (rest.dropWhile Text.isBlank)
  | _ => none

/-- The name on a line and what follows its equals sign. The word `export` may stand before the
name, and it may be the name itself. -/
def readAssignment? (line : List Char) : Option (String × List Char) := do
  let (name, rest) ← readName? line
  match behindEquals? rest with
  | some value => some (name, value)
  | none =>
      if name = "export" then do
        let (name, rest) ← readName? (rest.dropWhile Text.isBlank)
        some (name, ← behindEquals? rest)
      else none

/-- The variable that a line sets. -/
def readVariable? (environment : Environment) (line : List Char) : Option (String × String) := do
  let (name, rest) ← readAssignment? line
  if rest.isEmpty || isComment rest then some (name, "")
  else some (name, String.ofList (← readValue environment (.plain false) rest))

/-- Add what lines set to an environment, up to the first line that is not well formed. -/
def apply (environment : Environment) : List (Option (List Char)) → Environment
  | [] => environment
  | none :: _ => environment
  | some line :: rest =>
      let line := Text.dropEndWhile Text.isBlank (line.dropWhile Text.isBlank)
      if line.isEmpty || isComment line then apply environment rest
      else match readVariable? environment line with
        | some (name, value) => apply (environment.setMissing name value) rest
        | none => environment

/-- The lines of a file. A mark of the byte order at its beginning does not count. -/
def linesOf (content : String) : List (Option (List Char)) :=
  lines [] .plain (stretches (Text.Utf8.withoutMark content.toList))

/-- Add what a file sets to an environment. -/
def load (environment : Environment) (content : String) : Environment :=
  apply environment (linesOf content)

end GroupFederation.Settings.Dotenv
