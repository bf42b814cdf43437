import GroupFederation.Text.Blank

/-!
# Header fields

A message carries a list of named values. Names are kept in lower case, so that looking one up does
not depend on how it was spelled; one name may come with several values, and the first of them is
the one that counts. A value is given as text and stands for its UTF-8 bytes.
-/

namespace GroupFederation.Http

/-- The header fields of a message in order, with names in lower case. -/
structure Headers where
  fields : List (String × String)
  deriving DecidableEq, Repr

namespace Headers

def empty : Headers := ⟨[]⟩

/-- All values of a name, in order. -/
def values (headers : Headers) (name : String) : List String :=
  (headers.fields.filter fun field => field.1 == name).map Prod.snd

/-- The value that counts. -/
def first? (headers : Headers) (name : String) : Option String :=
  (headers.values name).head?

/-- Add a value beside those that are already there. -/
def append (headers : Headers) (name value : String) : Headers :=
  ⟨headers.fields ++ [(Text.lower name, value)]⟩

/-- The fields without those of a name. -/
def erase (headers : Headers) (name : String) : Headers :=
  ⟨headers.fields.filter fun field => field.1 != name⟩

/-- Give a name one value in place of all its values. -/
def insert (headers : Headers) (name value : String) : Headers :=
  ⟨(headers.erase name).fields ++ [(name, value)]⟩

/-- The headers with the given fields, added one after the other. -/
def ofFields (fields : List (String × String)) : Headers :=
  fields.foldl (fun headers field => headers.append field.1 field.2) empty

/-- Whether a character may stand in a value that is read as text: a tab, or one of the characters
from the space to the tilde. -/
def isTextChar (character : Char) : Bool :=
  character == '\t' || (' ' ≤ character && character ≤ '~')

/-- Whether a value can be read as text. -/
def isText (value : String) : Bool :=
  value.toList.all isTextChar

/-- Whether a character may stand in a value at all: no control character but the tab. -/
def isValueChar (character : Char) : Bool :=
  character == '\t' || (' ' ≤ character && character != '\x7f')

/-- Whether a text can be sent as a value. -/
def isValue (value : String) : Bool :=
  value.toList.all isValueChar

/-- The first value of a name, if it can be read as text. -/
def text? (headers : Headers) (name : String) : Option String :=
  (headers.first? name).filter isText

theorem values_insert (headers : Headers) (name value : String) :
    (headers.insert name value).values name = [value] := by
  have kept : (headers.fields.filter fun field => field.1 != name).filter
      (fun field => field.1 == name) = [] := by
    simp [List.filter_filter, List.filter_eq_nil_iff]
  simp [values, insert, erase, kept]

theorem values_insert_of_ne (headers : Headers) {name other : String} (value : String)
    (differ : other ≠ name) :
    (headers.insert name value).values other = headers.values other := by
  have kept : (headers.fields.filter fun field => field.1 != name).filter
      (fun field => field.1 == other) =
        headers.fields.filter fun field => field.1 == other := by
    rw [List.filter_filter]
    apply List.filter_congr
    intro field _
    by_cases same : field.1 = other <;> simp_all
  have last : ((name == other) = false) := by simpa using fun same : name = other => differ same.symm
  simp [values, insert, erase, kept, last]

end Headers

end GroupFederation.Http
