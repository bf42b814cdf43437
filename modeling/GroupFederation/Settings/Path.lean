import GroupFederation.Settings.Value

/-!
# Paths to settings

A setting inside others is named by its path: the name of an outermost entry, and then the entries
and list items on the way, as in `server.port` or `providers[0].url`. A name that is no path names
an outermost entry as it stands. Letter case does not count: entries have names in lower case, apart
from those of tables inside lists.

To put a value at a path makes the tables and lists on the way, in place of whatever else is there.
A table is laid over a table entry by entry, so that entries it does not name stay; any other value
takes the place of the former one.
-/

namespace GroupFederation.Settings

/-- A letter in lower case. Beyond ASCII only the Kelvin sign becomes a letter of ASCII; the others
occur in no setting's name, whatever their case. -/
def lowerLetter (character : Char) : Char :=
  if character = '\u212a' then 'k' else character.toLower

/-- A name in lower case. -/
def lowerName (name : String) : String :=
  String.ofList (name.toList.map lowerLetter)

/-- One step of a path. An index below zero counts from the end of the list. -/
inductive Step where
  | entry (name : String)
  | item (index : Int)
  deriving DecidableEq, Repr

namespace Step

/-- The characters that names in a path consist of. -/
def isNameChar (character : Char) : Bool :=
  character.isAlphanum || character == ' ' || character == '_' || character == '-'

/-- The blank characters that may surround an index. -/
def isIndexBlank (character : Char) : Bool :=
  character == ' ' || character == '\t'

/-- A whole number of 64 bits with a sign, as an index is written between its brackets. -/
def index? (characters : List Char) : Option Int :=
  let written := Text.dropEndWhile isIndexBlank (characters.dropWhile isIndexBlank)
  let (negative, digits) := match written with
    | '-' :: rest => (true, rest)
    | digits => (false, digits)
  if digits.isEmpty || !digits.all Char.isDigit then none
  else
    let magnitude := Json.Number.ofDigits (digits.map fun digit => digit.toNat - '0'.toNat)
    if negative then if magnitude ≤ Nat.pow 2 63 then some (-magnitude) else none
    else if magnitude < Nat.pow 2 63 then some magnitude else none

/-- The step to the entry with a name, of any letter case. -/
def named (characters : List Char) : Step :=
  .entry (lowerName (String.ofList characters))

/-- The steps behind the first name of a path. -/
def readMore? (characters : List Char) : Option (List Step) :=
  match characters with
  | [] => some []
  | '.' :: rest =>
      let name := rest.takeWhile isNameChar
      if name.isEmpty then none
      else (readMore? (rest.dropWhile isNameChar)).map (named name :: ·)
  | '[' :: rest =>
      match index? (rest.takeWhile (· != ']')), _closed : rest.dropWhile (· != ']') with
      | some index, _ :: behind => (readMore? behind).map (.item index :: ·)
      | _, _ => none
  | _ => none
termination_by characters.length
decreasing_by
  · have := (List.dropWhile_suffix (l := rest) isNameChar).length_le
    simp only [List.length_cons]
    omega
  · have := (List.dropWhile_suffix (l := rest) (· != ']')).length_le
    simp_all only [List.length_cons]
    omega

/-- The steps of a path. -/
def read? (path : String) : Option (List Step) :=
  let name := path.toList.takeWhile isNameChar
  if name.isEmpty then none
  else (readMore? (path.toList.dropWhile isNameChar)).map (named name :: ·)

/-- The steps that a name stands for. -/
def ofName (name : String) : List Step :=
  (read? name).getD [named name.toList]

end Step

namespace Value

/-- Change the entry with a given name, which is added if it is not there. -/
def alterEntry (name : String) (change : Option Value → Value) :
    List (String × Value) → List (String × Value)
  | [] => [(name, change none)]
  | (other, value) :: entries =>
      if other = name then (other, change (some value)) :: entries
      else (other, value) :: alterEntry name change entries

@[simp] theorem lookup_alterEntry_self (name : String) (change : Option Value → Value)
    (entries : List (String × Value)) :
    (alterEntry name change entries).lookup name = some (change (entries.lookup name)) := by
  induction entries with
  | nil => simp [alterEntry]
  | cons entry entries inductionHypothesis =>
      obtain ⟨other, value⟩ := entry
      by_cases same : other = name
      · subst same
        simp [alterEntry]
      · have distinct : (name == other) = false := by simp [Ne.symm same]
        simp [alterEntry, same, List.lookup_cons, distinct, inductionHypothesis]

theorem lookup_alterEntry_of_ne {name other : String} (distinct : other ≠ name)
    (change : Option Value → Value) (entries : List (String × Value)) :
    (alterEntry name change entries).lookup other = entries.lookup other := by
  induction entries with
  | nil =>
      have different : (other == name) = false := by simp [distinct]
      simp [alterEntry, List.lookup_cons, different]
  | cons entry entries inductionHypothesis =>
      obtain ⟨first, value⟩ := entry
      by_cases same : first = name
      · subst same
        have different : (other == first) = false := by simp [distinct]
        simp [alterEntry, List.lookup_cons, different]
      · simp [alterEntry, same, List.lookup_cons, inductionHypothesis]

/-- Change the item at an index. A list that does not reach as far is filled up with null: at its
end, or at its front for an index below zero. -/
def alterItem (index : Int) (change : Value → Value) (items : List Value) : List Value :=
  let place := if index < 0 then index + items.length else index
  if place < 0 then change .null :: (List.replicate (place.natAbs - 1) Value.null ++ items)
  else
    (items ++ List.replicate (place.toNat + 1 - items.length) Value.null).modify place.toNat change

mutual

/-- Lay a value over the one that is there, if any. -/
def overlay : Value → Option Value → Value
  | .table entries, former => overlayEntries entries (former.getD (.table []))
  | value, _ => value

/-- Lay entries over a value, which they make a table. -/
def overlayEntries : List (String × Value) → Value → Value
  | [], former => former
  | (name, value) :: entries, former =>
      overlayEntries entries
        (.table (alterEntry (lowerName name) (overlay value) former.entries))

end

/-- Put a value at a path that begins at the one that is there, if any. -/
def put (value : Value) : List Step → Option Value → Value
  | [], former => overlay value former
  | .entry name :: steps, former =>
      .table (alterEntry name (put value steps) (former.getD .null).entries)
  | [.item index], former => .list (alterItem index (fun _ => value) (former.getD .null).items)
  | .item index :: steps, former =>
      .list (alterItem index (fun item => put value steps (some item)) (former.getD .null).items)

/-- Put values one after the other at the paths that names stand for. -/
def assign (root : Value) (assignments : List (String × Value)) : Value :=
  assignments.foldl (fun root (name, value) => put value (Step.ofName name) (some root)) root

end Value

end GroupFederation.Settings
