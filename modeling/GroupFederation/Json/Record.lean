import GroupFederation.Json.Reader

/-!
# Records in JSON

A record is written as an object, which names its fields in any order, or as an array, which lists
them in a fixed order. In an object a field may go by several names but may be given only once,
and members nobody asks for are skipped. An array may not be longer than the record, and it may
stop early only where the remaining fields have a default.
-/

namespace GroupFederation.Json

/-- What a written record says about one field. -/
inductive Slot where
  /-- The field has a value. -/
  | given (value : Value)
  /-- The object does not name the field. -/
  | absent
  /-- The array ends before the field. -/
  | beyond
  deriving Repr

namespace Value

/-- The text of a string. -/
def text? : Value → Option String
  | .string literal => literal.text?
  | _ => none

/-- A truth value. -/
def truth? : Value → Option Bool
  | .bool value => some value
  | _ => none

/-- The members of an object whose names are all text. -/
def named? : List (Literal × Value) → Option (List (String × Value))
  | [] => some []
  | (name, value) :: members => do
      let name ← name.text?
      let members ← named? members
      some ((name, value) :: members)

/-- Members keep their names. -/
theorem mem_of_named? {members : List (Literal × Value)} {named : List (String × Value)}
    (names : named? members = some named) {name : String} {value : Value}
    (member : (name, value) ∈ named) : (Literal.ofText name, value) ∈ members := by
  induction members generalizing named with
  | nil =>
      obtain rfl := Option.some.inj names
      cases member
  | cons first rest inductionHypothesis =>
      simp only [named?, Option.bind_eq_bind, Option.bind_eq_some_iff, Option.some_inj] at names
      obtain ⟨firstName, text, others, names, rfl⟩ := names
      rcases List.mem_cons.mp member with same | member
      · obtain ⟨rfl, rfl⟩ := Prod.mk.inj same
        rw [← Literal.eq_ofText text]
        exact List.mem_cons_self
      · exact List.mem_cons_of_mem _ (inductionHypothesis names member)

/-- The names of sound members are texts. -/
theorem isSome_named?_of_membersSound {members : List (Literal × Value)}
    (sound : membersSound members = true) : (named? members).isSome = true := by
  induction members with
  | nil => rfl
  | cons first rest inductionHypothesis =>
      simp only [membersSound, Bool.and_eq_true] at sound
      obtain ⟨name, text⟩ := Option.isSome_iff_exists.mp sound.1.1
      obtain ⟨others, names⟩ := Option.isSome_iff_exists.mp (inductionHypothesis sound.2)
      simp [named?, text, names]

end Value

namespace Slot

/-- The slot of the field that goes by the given names; to give it twice is an error. -/
def ofMembers? (names : List String) (members : List (String × Value)) : Option Slot :=
  match members.filter fun member => names.contains member.1 with
  | [] => some .absent
  | [member] => some (.given member.2)
  | _ => none

/-- The slots of the fields in the order of an array. -/
def ofItems : (fields : List (List String)) → List Value → List Slot
  | [], _ => []
  | _ :: fields, [] => .beyond :: ofItems fields []
  | _ :: fields, item :: items => .given item :: ofItems fields items

/-- The slots of a record with the given fields, each a list of names. -/
def read? (fields : List (List String)) : Value → Option (List Slot)
  | .object members => do
      let members ← Value.named? members
      fields.mapM fun names => ofMembers? names members
  | .array items => if fields.length < items.length then none else some (ofItems fields items)
  | _ => none

variable {α : Type}

/-- A field that must be given. -/
def required (decode : Value → Option α) : Slot → Option α
  | .given value => decode value
  | .absent => none
  | .beyond => none

/-- A field that an object may leave out or set to null, and that an array must reach. -/
def optional (decode : Value → Option α) : Slot → Option (Option α)
  | .given .null => some none
  | .given value => (decode value).map some
  | .absent => some none
  | .beyond => none

/-- A field that may be left out or set to null in either form. -/
def lenient (decode : Value → Option α) : Slot → Option (Option α)
  | .given .null => some none
  | .given value => (decode value).map some
  | .absent => some none
  | .beyond => some none

/-- A field with a default, which null does not stand for. -/
def withDefault (default : α) (decode : Value → Option α) : Slot → Option α
  | .given value => decode value
  | .absent => some default
  | .beyond => some default

end Slot

/-- The items of a list; an array that is no list of items, and anything else, may be one item. -/
def oneOrMany {α : Type} (decode : Value → Option α) (value : Value) : Option (List α) :=
  let one := (decode value).map fun item => [item]
  match value with
  | .array items => (items.mapM decode).or one
  | _ => one

end GroupFederation.Json
