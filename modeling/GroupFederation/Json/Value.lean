import GroupFederation.Decimal.Binary64

/-!
# JSON values

A value keeps what its text said: a number keeps its digits, an object keeps its members in order
and with repetitions, and a string may hold units that are no character, because the text can
escape half of a surrogate pair and its bytes need not be UTF-8. Whether such a string, a number
too large for any floating-point magnitude, or very deep nesting is an error depends on who looks
at it: a field nobody asks for may hold anything.
-/

namespace GroupFederation.Json

/-- A number as it is spelled: sign, digits before and behind the point, and a power of ten. -/
structure Number where
  negative : Bool
  whole : List Nat
  fraction : List Nat
  exponent : Option Int
  deriving DecidableEq, Repr

/-- The content of a string; `none` stands for a unit that is no character. -/
abbrev Literal := List (Option Char)

/-- A JSON value. -/
inductive Value where
  | null
  | bool (value : Bool)
  | number (value : Number)
  | string (value : Literal)
  | array (items : List Value)
  | object (members : List (Literal × Value))
  deriving Repr, Inhabited

namespace Literal

/-- The literal of a text. -/
def ofText (text : String) : Literal :=
  text.toList.map some

/-- The units, if all of them are characters. -/
def characters? : Literal → Option (List Char)
  | [] => some []
  | some character :: rest => (characters? rest).map (character :: ·)
  | none :: _ => none

/-- The text of a literal all of whose units are characters. -/
def text? (literal : Literal) : Option String :=
  (characters? literal).map String.ofList

@[simp] theorem characters?_map_some (characters : List Char) :
    characters? (characters.map some) = some characters := by
  induction characters with
  | nil => rfl
  | cons character rest inductionHypothesis =>
      simp [characters?, inductionHypothesis]

@[simp] theorem text?_ofText (text : String) : text? (ofText text) = some text := by
  simp [text?, ofText]

theorem eq_map_of_characters? {literal : Literal} {characters : List Char}
    (found : characters? literal = some characters) : literal = characters.map some := by
  induction literal generalizing characters with
  | nil => rw [← Option.some.inj found, List.map_nil]
  | cons first rest inductionHypothesis =>
      cases first with
      | none => cases found
      | some character =>
          obtain ⟨others, behind, rfl⟩ := Option.map_eq_some_iff.mp found
          rw [List.map_cons, ← inductionHypothesis behind]

/-- No other literal has the same text. -/
theorem eq_ofText {literal : Literal} {text : String} (found : literal.text? = some text) :
    literal = ofText text := by
  obtain ⟨characters, units, rfl⟩ := Option.map_eq_some_iff.mp found
  rw [ofText, String.toList_ofList]
  exact eq_map_of_characters? units

end Literal

namespace Number

/-- The value of a run of digits. -/
def ofDigits (digits : List Nat) : Nat :=
  digits.foldl (fun number digit => number * 10 + digit) 0

/-- The number of a whole magnitude. -/
def ofNat (value : Nat) : Number :=
  ⟨false, (Nat.toDigits 10 value).map fun digit => digit.toNat - '0'.toNat, [], none⟩

/-- Whether the number is spelled without a point and without a power of ten. -/
def isWhole (number : Number) : Bool :=
  number.fraction.isEmpty && number.exponent.isNone

/-- The whole number that is spelled, when it fits in 64 bits: from zero to `2 ^ 64 - 1`, or from
`-2 ^ 63` to `-1`. A negative zero is no whole number. -/
def integer? (number : Number) : Option Int :=
  if !number.isWhole then none
  else
    let magnitude := ofDigits number.whole
    if number.negative then
      if magnitude = 0 ∨ Nat.pow 2 63 < magnitude then none else some (-magnitude)
    else if Nat.pow 2 64 ≤ magnitude then none
    else some magnitude

/-- The floating-point magnitude nearest to the number, if there is one. -/
def magnitude? (number : Number) : Option Decimal.Binary64 :=
  Decimal.Binary64.ofDecimal number.whole number.fraction (number.exponent.getD 0)

/-- Whether some 64-bit number, whole or floating-point, can hold the value. -/
def isRepresentable (number : Number) : Bool :=
  number.integer?.isSome || number.magnitude?.isSome

end Number

namespace Value

/-- The string with a given text. -/
def ofText (text : String) : Value :=
  .string (Literal.ofText text)

/-- The object with given member names. -/
def ofMembers (members : List (String × Value)) : Value :=
  .object (members.map fun (name, value) => (Literal.ofText name, value))

mutual

/-- How many arrays and objects are nested in one another, at most. -/
def nesting : Value → Nat
  | .array items => itemsNesting items + 1
  | .object members => membersNesting members + 1
  | _ => 0

/-- The deepest nesting among the items of an array. -/
def itemsNesting : List Value → Nat
  | [] => 0
  | item :: items => Nat.max (nesting item) (itemsNesting items)

/-- The deepest nesting among the members of an object. -/
def membersNesting : List (Literal × Value) → Nat
  | [] => 0
  | (_, value) :: members => Nat.max (nesting value) (membersNesting members)

end

mutual

/-- Whether every string and member name is text and every number is representable. -/
def isSound : Value → Bool
  | .number spelling => spelling.isRepresentable
  | .string literal => literal.text?.isSome
  | .array items => itemsSound items
  | .object members => membersSound members
  | _ => true

/-- Whether all items are sound. -/
def itemsSound : List Value → Bool
  | [] => true
  | item :: items => isSound item && itemsSound items

/-- Whether all members are sound, names included. -/
def membersSound : List (Literal × Value) → Bool
  | [] => true
  | (name, value) :: members => name.text?.isSome && isSound value && membersSound members

end

/-- The deepest nesting that a value taken over as a whole may have. -/
def nestingLimit : Nat := 127

/-- Whether a value below `depth` enclosing arrays and objects can be taken over as a whole. -/
def isTransferable (depth : Nat) (value : Value) : Bool :=
  value.isSound && value.nesting + depth ≤ nestingLimit

end Value

end GroupFederation.Json
