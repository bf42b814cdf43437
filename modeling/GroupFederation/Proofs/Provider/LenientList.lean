import GroupFederation.Proofs.Json.Reading
import GroupFederation.Proofs.Json.Record
import GroupFederation.Provider.OpenSocial
import GroupFederation.Provider.Voot
import Mathlib.Data.List.Forall2

/-!
# Items of lists

Where partners may answer with a list of items or with a single one, both are objects in the
documents of the partners: a list has one item for each of its elements, and an object is one item.
An item may also be written as an array of its fields, however. So an array that begins with a text,
which is no item, is read as a single item whose name is that text.
-/

namespace GroupFederation.Provider.Partner

open Json (Value Slot)

/-- The items that partners report; members look alike at both kinds of partners. -/
inductive ItemKind where
  | vootGroup
  | collectionGroup
  | member
  deriving DecidableEq, Repr

namespace ItemKind

/-- What is known of an item. -/
def Item : ItemKind → Type
  | vootGroup => GroupItem
  | collectionGroup => GroupItem
  | member => MemberItem

/-- The item of a JSON value. -/
def decode : (kind : ItemKind) → Value → Option kind.Item
  | vootGroup => Voot.groupItem?
  | collectionGroup => OpenSocial.groupItem?
  | member => MemberItem.ofJson?

/-- What the fields behind the name may hold, in their order. -/
def suits : ItemKind → List (Value → Bool)
  | vootGroup => [isText, isText, isMembership]
  | collectionGroup => [isText, isText, isText]
  | member => [isText]
where
  isText (value : Value) : Bool := value.text?.isSome
  isMembership (value : Value) : Bool := (Voot.role? value).isSome

/-- An array that lists the fields of an item: a text as its name, and further ones, each of which
is null or suits the field. -/
def IsRow (kind : ItemKind) : List Value → Prop
  | [] => False
  | name :: further => name.text?.isSome = true ∧ further.length ≤ kind.suits.length ∧
      ∀ field ∈ further.zip kind.suits, field.1 = .null ∨ field.2 field.1 = true

end ItemKind

section Rows

variable {α : Type} {elements : List Value}

/-- A field that may be left out is null or holds what it should. -/
theorem isSome_lenient_given {decode : Value → Option α} {value : Value} :
    ((Slot.given value).lenient decode).isSome = true ↔
      value = .null ∨ (decode value).isSome = true := by
  cases value <;> simp [Slot.lenient]

theorem isSome_lenient_beyond {decode : Value → Option α} :
    (Slot.beyond.lenient decode).isSome = true := rfl

theorem any_const (option : Option α) (holds : Bool) :
    option.any (fun _ => holds) = (option.isSome && holds) := by
  cases option <;> simp

-- The cases are those of `Slot.ofItems`: an element for each of the first fields, and one more.

theorem isSome_memberItem_array :
    (MemberItem.ofJson? (.array elements)).isSome = true ↔ ItemKind.member.IsRow elements := by
  rcases elements with _ | ⟨name, _ | ⟨first, _ | ⟨second, rest⟩⟩⟩ <;>
    simp [ItemKind.IsRow, ItemKind.suits, ItemKind.suits.isText, MemberItem.ofJson?, Slot.read?,
      Slot.ofItems, Slot.required, Option.isSome_bind, any_const, isSome_lenient_beyond,
      isSome_lenient_given]

theorem isSome_vootGroup_array :
    (Voot.groupItem? (.array elements)).isSome = true ↔ ItemKind.vootGroup.IsRow elements := by
  rcases elements with
    _ | ⟨name, _ | ⟨first, _ | ⟨second, _ | ⟨third, _ | ⟨fourth, rest⟩⟩⟩⟩⟩ <;>
    simp [ItemKind.IsRow, ItemKind.suits, ItemKind.suits.isText, ItemKind.suits.isMembership,
      Voot.groupItem?, Slot.read?, Slot.ofItems, Slot.required, Option.isSome_bind, any_const,
      isSome_lenient_beyond, isSome_lenient_given]

theorem isSome_collectionGroup_array :
    (OpenSocial.groupItem? (.array elements)).isSome = true ↔
      ItemKind.collectionGroup.IsRow elements := by
  rcases elements with
    _ | ⟨name, _ | ⟨first, _ | ⟨second, _ | ⟨third, _ | ⟨fourth, rest⟩⟩⟩⟩⟩ <;>
    simp [ItemKind.IsRow, ItemKind.suits, ItemKind.suits.isText, OpenSocial.groupItem?,
      Slot.read?, Slot.ofItems, Slot.required, Option.isSome_bind, any_const,
      isSome_lenient_beyond, isSome_lenient_given]

theorem isSome_decode_array {kind : ItemKind} :
    (kind.decode (.array elements)).isSome = true ↔ kind.IsRow elements := by
  cases kind with
  | vootGroup => exact isSome_vootGroup_array
  | collectionGroup => exact isSome_collectionGroup_array
  | member => exact isSome_memberItem_array

/-- What is neither an array nor an object is no item. -/
theorem decode_of_scalar {kind : ItemKind} {value : Value} (scalar : value.opening? = none) :
    kind.decode value = none := by
  cases value with
  | array | object => cases scalar
  | null | bool | number | string => cases kind <;> rfl

theorem scalar_of_text {value : Value} (text : value.text?.isSome = true) :
    value.opening? = none := by
  cases value with
  | string => rfl
  | null | bool | number | array | object => cases text

end Rows

/-! ## Lists of items -/

section Lists

variable {α : Type} {decode : Value → Option α}

theorem oneOrMany_array {elements : List Value} :
    Json.oneOrMany decode (.array elements) =
      (elements.mapM decode).or ((decode (.array elements)).map fun item => [item]) := rfl

theorem oneOrMany_of_noArray {value : Value} (noArray : ∀ elements, value ≠ .array elements) :
    Json.oneOrMany decode value = (decode value).map fun item => [item] := by
  cases value with
  | array elements => exact absurd rfl (noArray elements)
  | null | bool | number | string | object => rfl

theorem lenientList?_of_read {body : String} {value : Value} {mark : Char}
    (found : Json.read body = some value) (opens : value.opening? = some mark) :
    lenientList? decode body = items? decode 0 value := by
  rw [lenientList?, if_neg (by simp [Json.isBlankText_of_read found opens]), found,
    Option.bind_some]

end Lists

/-- The list of items in a text, or the failure of a text that cannot be decoded. -/
def ItemKind.listIn (kind : ItemKind) (body : String) : Except Failure (List kind.Item) :=
  decoded (lenientList? kind.decode body)

/-- The failure of a text that cannot be decoded. -/
def IsDecodeError {α : Type} (result : Except Failure α) : Prop :=
  ∃ message, result = .error (.decode message)

/-- A text is read with one item for each element of a list, and one for an object. -/
structure KeepsElements (kind : ItemKind) (body : String) : Prop where
  blank : Text.isBlankText body = true → kind.listIn body = .ok []
  array : ∀ elements, Json.read body = some (.array elements) →
    IsDecodeError (kind.listIn body) ∨ ∃ items, kind.listIn body = .ok items ∧
      List.Forall₂ (fun element item => kind.decode element = some item) elements items
  object : ∀ members, Json.read body = some (.object members) →
    IsDecodeError (kind.listIn body) ∨ ∃ item, kind.listIn body = .ok [item] ∧
      kind.decode (.object members) = some item
  other : Text.isBlankText body = false →
    (∀ value, Json.read body = some value → value.opening? = none) →
    IsDecodeError (kind.listIn body)

section Elements

variable {kind : ItemKind} {body : String}

theorem listIn_of_read {value : Value} {mark : Char} (found : Json.read body = some value)
    (opens : value.opening? = some mark) :
    kind.listIn body = decoded (items? kind.decode 0 value) := by
  rw [ItemKind.listIn, lenientList?_of_read found opens]

/-- An array that lists the fields of an item is read as that item. -/
theorem listIn_of_isRow {elements : List Value}
    (found : Json.read body = some (.array elements))
    (transferable : (Value.array elements).isTransferable 0 = true)
    (row : kind.IsRow elements) :
    ∃ item, kind.listIn body = .ok [item] ∧ kind.decode (.array elements) = some item := by
  obtain ⟨item, one⟩ := Option.isSome_iff_exists.mp (isSome_decode_array.mpr row)
  refine ⟨item, ?_, one⟩
  have noList : elements.mapM kind.decode = none := by
    cases elements with
    | nil => cases row
    | cons name further => simp [decode_of_scalar (scalar_of_text row.1)]
  rw [listIn_of_read found rfl, items?, if_pos transferable, oneOrMany_array, noList, one]
  rfl

theorem keepsElements_of_noRow
    (noRow : ∀ elements, Json.read body = some (.array elements) →
      (Value.array elements).isTransferable 0 = true → ¬kind.IsRow elements) :
    KeepsElements kind body where
  blank := by
    intro blank
    rw [ItemKind.listIn, lenientList?, if_pos blank]
    rfl
  array := by
    intro elements found
    rw [listIn_of_read found rfl, items?]
    split
    · next transferable =>
      have notOne : kind.decode (.array elements) = none := by
        rw [← Option.not_isSome_iff_eq_none, isSome_decode_array]
        exact noRow elements found transferable
      rw [oneOrMany_array, notOne]
      cases list : elements.mapM kind.decode with
      | none => exact .inl ⟨_, rfl⟩
      | some items => exact .inr ⟨items, rfl, Json.mapM_eq_some_iff.mp list⟩
    · exact .inl ⟨_, rfl⟩
  object := by
    intro members found
    rw [listIn_of_read found rfl, items?]
    split
    · rw [oneOrMany_of_noArray (by simp)]
      cases one : kind.decode (.object members) with
      | none => exact .inl ⟨_, rfl⟩
      | some item => exact .inr ⟨item, rfl, rfl⟩
    · exact .inl ⟨_, rfl⟩
  other := by
    intro filled scalar
    rw [ItemKind.listIn, lenientList?, if_neg (by simp [filled])]
    cases found : Json.read body with
    | none => exact ⟨_, rfl⟩
    | some value =>
        have noArray : ∀ elements, value ≠ .array elements := by
          rintro elements rfl
          cases scalar _ found
        rw [Option.bind_some, items?, oneOrMany_of_noArray noArray,
          decode_of_scalar (scalar value found), Option.map_none, ite_self]
        exact ⟨_, rfl⟩

theorem not_keepsElements_of_isRow {elements : List Value}
    (found : Json.read body = some (.array elements))
    (transferable : (Value.array elements).isTransferable 0 = true)
    (row : kind.IsRow elements) : ¬KeepsElements kind body := by
  intro keeps
  obtain ⟨item, list, -⟩ := listIn_of_isRow found transferable row
  rcases keeps.array elements found with ⟨message, error⟩ | ⟨items, same, each⟩
  · rw [list] at error
    cases error
  · rw [list] at same
    obtain rfl := Except.ok.inj same
    cases each with
    | cons first others =>
        rw [decode_of_scalar (scalar_of_text row.1)] at first
        cases first

end Elements

/-- Lists keep one item for each element, unless an array lists the fields of a single item: then it
is read as that item. -/
theorem lists_keep_elements_iff (kind : ItemKind) (body : String) :
    (KeepsElements kind body ↔ ∀ elements, Json.read body = some (.array elements) →
      (Value.array elements).isTransferable 0 = true → ¬kind.IsRow elements) ∧
    ∀ elements, Json.read body = some (.array elements) →
      (Value.array elements).isTransferable 0 = true → kind.IsRow elements →
      ∃ item, kind.listIn body = .ok [item] ∧ kind.decode (.array elements) = some item := by
  refine ⟨⟨fun keeps elements found transferable row => ?_, keepsElements_of_noRow⟩,
    fun _ => listIn_of_isRow⟩
  exact not_keepsElements_of_isRow found transferable row keeps

/-- A list keeps its elements, whether they are written as objects or as arrays. -/
theorem lists_keep_elements_iff_mixed :
    let body := "[\x7b\"id\": \"lab\"\x7d, [\"pub\"]]"
    Json.read body = some (.array
        [.object [(Json.Literal.ofText "id", .ofText "lab")], .array [.ofText "pub"]]) ∧
      ∀ kind, KeepsElements kind body := by
  intro body
  have read : Json.read body = some (.array
      [.object [(Json.Literal.ofText "id", .ofText "lab")], .array [.ofText "pub"]]) := by
    simp [body, Json.read, Json.Source.ofText, Value.ofText, Json.Literal.ofText]
    rfl
  refine ⟨read, fun kind => (lists_keep_elements_iff kind body).1.mpr fun elements found _ row => ?_⟩
  rw [read] at found
  obtain rfl := Value.array.inj (Option.some.inj found)
  cases row.1

/-- A list of two texts is read as one item, whatever the items are. -/
theorem row_read_as_item :
    let body := "[\"lab\", \"pub\"]"
    Json.read body = some (.array [.ofText "lab", .ofText "pub"]) ∧
      ItemKind.vootGroup.listIn body = .ok [(⟨"lab", some "pub", none, none⟩ : GroupItem)] ∧
      ItemKind.collectionGroup.listIn body = .ok [(⟨"lab", some "pub", none, none⟩ : GroupItem)] ∧
      ItemKind.member.listIn body = .ok [(⟨"lab", some "pub"⟩ : MemberItem)] ∧
      ∀ kind, ¬KeepsElements kind body := by
  intro body
  have read : Json.read body = some (.array [.ofText "lab", .ofText "pub"]) := by
    simp [body, Json.read, Json.Source.ofText, Value.ofText, Json.Literal.ofText]
    rfl
  refine ⟨read, (listIn_of_read read rfl).trans rfl, (listIn_of_read read rfl).trans rfl,
    (listIn_of_read read rfl).trans rfl, fun kind => ?_⟩
  refine not_keepsElements_of_isRow read (by decide) ?_
  cases kind <;>
    simp [ItemKind.IsRow, ItemKind.suits, ItemKind.suits.isText, Value.ofText, Value.text?]

end GroupFederation.Provider.Partner
