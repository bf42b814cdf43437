import GroupFederation.Text.Blank

/-!
# Trace state

The entries that other systems have added to a trace each have a key and a value. A key consists of
lower-case letters, digits and a few signs, and begins with a letter or a digit; it may name a
system behind an at sign. A value has neither a comma nor an equals sign. A list with an entry of
any other form counts as empty.
-/

namespace GroupFederation.Trace.State

/-- The greatest length of a key or a value, in bytes. -/
def lengthLimit : Nat := 256

/-- The greatest length of the name of a system in a key. -/
def systemLimit : Nat := 13

/-- Whether a character may begin a key or the name of a system. -/
def isKeyStart (character : Char) : Bool :=
  character.isLower || character.isDigit

/-- Whether a character may stand in a part of a key. -/
def isKeyChar (character : Char) : Bool :=
  isKeyStart character || character == '_' || character == '-' || character == '*' ||
    character == '/'

/-- Whether a part of a key is empty or begins as it has to and has no other characters than it
may have. -/
def isKeyPart (part : List Char) : Bool :=
  part.head?.all isKeyStart && part.all isKeyChar

/-- Whether a text is a key. -/
def isKey (key : String) : Bool :=
  key.utf8ByteSize ≤ lengthLimit &&
    match Text.cutAt '@' key.toList with
    | (part, none) => isKeyPart part
    | (part, some system) =>
        !part.isEmpty && isKeyPart part && isKeyPart system && system.length ≤ systemLimit

/-- Whether a text is a value. -/
def isValue (value : String) : Bool :=
  value.utf8ByteSize ≤ lengthLimit && value.toList.all fun character =>
    character != ',' && character != '='

/-- The entries of a trace state, which are those given if all of them are of the right form. -/
def entries (given : List (String × String)) : List (String × String) :=
  if given.all fun (key, value) => isKey key && isValue value then given else []

end GroupFederation.Trace.State
