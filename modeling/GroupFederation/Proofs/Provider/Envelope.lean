import GroupFederation.Proofs.Provider.LenientList

/-!
# Collections with and without an envelope

The items of a collection come in an envelope or without one, and the same is read either way, with
two exceptions. An object that is no item is an error in an envelope, but without one it is taken
for an envelope without items, so that nothing is left of the error. And since an envelope is one
more object around the items, it may hold what is nested less deeply by one.
-/

namespace GroupFederation.Provider.OpenSocial

open Json (Value Literal Source)

/-! ## Texts in envelopes -/

/-- The text of an envelope with a given text as its field `entry`. -/
def enveloped (body : String) : String :=
  "\x7b\"entry\":" ++ body ++ "\x7d"

/-- The name of the field is read of any text that begins with it. -/
theorem readLiteral_entry (rest : Source) :
    Json.readLiteral ((Literal.ofText "entry") ++ some '"' :: rest) =
      some (Literal.ofText "entry", rest) := by
  simp [Json.readLiteral, Json.readUnits, Json.joinUnits, Literal.ofText]

/-- What has a value has it in an envelope, too. -/
theorem read_enveloped {body : String} {value : Value} (found : Json.read body = some value) :
    Json.read (enveloped body) = some (.object [(Literal.ofText "entry", value)]) := by
  obtain ⟨rest, found, space⟩ := Json.read_eq_some_iff.mp found
  refine Json.read_eq_some_iff.mpr ⟨[], ?_, rfl⟩
  have symbols : Source.ofText (enveloped body) = some '\x7b' :: some '"' ::
      (Literal.ofText "entry" ++ some '"' :: some ':' :: (Source.ofText body ++ [some '\x7d'])) := by
    simp [enveloped, Source.ofText, Literal.ofText]
  have ends : Json.EndsNumber [some '\x7d'] := by
    rintro symbol ⟨⟩
    decide
  have fuel : 2 * (Source.ofText (enveloped body)).length + 2 =
      2 * (Source.ofText body).length + 2 + 18 + 1 + 1 := by
    simp [symbols, Literal.ofText]
    omega
  have inner := (Json.reads_on ends (Nat.le_add_right _ 18)).1 found
  have members : Json.readMembers (2 * (Source.ofText body).length + 2 + 18 + 1) (some '"' ::
      (Literal.ofText "entry" ++ some '"' :: some ':' ::
        (Source.ofText body ++ [some '\x7d']))) = some ([(Literal.ofText "entry", value)], []) := by
    refine Json.readMembers_last (Source.skipSpace_cons rfl) (readLiteral_entry _)
      (Source.skipSpace_cons rfl) inner ?_
    rw [Source.skipSpace_append_of_isEmpty space]
    rfl
  rw [fuel, symbols, Json.readValue_object (Source.skipSpace_cons rfl),
    Source.skipSpace_cons rfl]
  exact congrArg (Option.map fun found => (Value.object found.1, found.2)) members

/-! ## Items with and without an envelope -/

/-- A list of items or an item, without an envelope around it. -/
inductive IsBare : Value → Prop where
  | array (elements : List Value) : IsBare (.array elements)
  | object {members : List (Literal × Value)}
      (named : ∃ value, (Literal.ofText "id", value) ∈ members)
      (noEntry : ∀ value, (Literal.ofText "entry", value) ∉ members) : IsBare (.object members)

variable {α : Type}

/-- An object that is no item, although its member names are texts. -/
def IsMalformedItem (decode : Value → Option α) : Value → Prop
  | .object members =>
      (Value.named? members).isSome = true ∧ Partner.items? decode 0 (.object members) = none
  | _ => False

/-- Items that are nested as deeply as they may be without an envelope. -/
def IsDeepest (decode : Value → Option α) (value : Value) : Prop :=
  value.nesting = Value.nestingLimit ∧ (Partner.items? decode 0 value).isSome = true

section Entries

variable {decode : Value → Option α} {body : String} {value : Value}

theorem entries?_of_array {elements : List Value} (found : Json.read body = some (.array elements)) :
    entries? decode body = Partner.items? decode 0 (.array elements) := by
  obtain ⟨behind, begins⟩ := Json.trimStart_of_read found rfl
  simp only [entries?, begins]
  exact Partner.lenientList?_of_read found rfl

theorem entries?_of_object {members : List (Literal × Value)}
    (found : Json.read body = some (.object members)) :
    entries? decode body = (envelope? decode (.object members)).map fun items =>
      items.getD ((Partner.items? decode 0 (.object members)).getD []) := by
  obtain ⟨behind, begins⟩ := Json.trimStart_of_read found rfl
  have list : Partner.lenientList? decode body = Partner.items? decode 0 (.object members) :=
    Partner.lenientList?_of_read found rfl
  cases inside : envelope? decode (.object members) with
  | none => simp [entries?, begins, found, inside]
  | some items => cases items <;> simp [entries?, begins, found, inside, list]

/-- An envelope holds what its field `entry` does. -/
theorem envelope?_entry : envelope? decode (.object [(Literal.ofText "entry", value)]) =
    (Json.Slot.given value).optional (Partner.items? decode 1) := by
  simp [envelope?, Json.Slot.read?, Value.named?, Json.Slot.ofMembers?]

/-- An object without the field `entry` is an envelope without items, if its names are texts. -/
theorem envelope?_of_noEntry {members : List (Literal × Value)}
    (noEntry : ∀ value, (Literal.ofText "entry", value) ∉ members) :
    envelope? decode (.object members) = (Value.named? members).map fun _ => none := by
  cases names : Value.named? members with
  | none => simp [envelope?, Json.Slot.read?, names]
  | some named =>
      have absent : Json.Slot.ofMembers? ["entry"] named = some .absent := by
        have others : named.filter (fun member => ["entry"].contains member.1) = [] := by
          rw [List.filter_eq_nil_iff]
          rintro ⟨name, value⟩ member entry
          obtain rfl : name = "entry" := by simpa using entry
          exact noEntry value (Value.mem_of_named? names member)
        rw [Json.Slot.ofMembers?, others]
      simp [envelope?, Json.Slot.read?, names, absent, Json.Slot.optional]

/-- Where member names are not all texts there is no item. -/
theorem items?_of_unnamed {members : List (Literal × Value)} {depth : Nat}
    (unnamed : Value.named? members = none) :
    Partner.items? decode depth (.object members) = none := by
  refine if_neg fun transferable => ?_
  have sound : Value.membersSound members = true := (Bool.and_eq_true_iff.mp transferable).1
  have named := Value.isSome_named?_of_membersSound sound
  rw [unnamed] at named
  cases named

/-- An envelope around items takes one level of nesting. -/
theorem items?_one : Partner.items? decode 1 value =
    if value.nesting = Value.nestingLimit then none else Partner.items? decode 0 value := by
  unfold Partner.items? Value.isTransferable
  by_cases deepest : value.nesting = Value.nestingLimit
  · have beyond : ¬value.nesting + 1 ≤ Value.nestingLimit := by omega
    simp [beyond, if_pos deepest]
  · have same : value.nesting + 1 ≤ Value.nestingLimit ↔
        value.nesting + 0 ≤ Value.nestingLimit := by
      omega
    simp only [same, if_neg deepest]

/-- What is read of an envelope with an array or an object. -/
theorem entries?_of_entry {mark : Char} (opens : value.opening? = some mark)
    (found : Json.read body = some (.object [(Literal.ofText "entry", value)])) :
    entries? decode body = Partner.items? decode 1 value := by
  have given : (Json.Slot.given value).optional (Partner.items? decode 1) =
      (Partner.items? decode 1 value).map some := by
    cases value with
    | array | object => rfl
    | null | bool | number | string => cases opens
  rw [entries?_of_object found, envelope?_entry, given, Option.map_map]
  exact Option.map_id'

/-- What is read of an object that is no envelope. -/
theorem entries?_of_noEntry {members : List (Literal × Value)}
    (noEntry : ∀ value, (Literal.ofText "entry", value) ∉ members)
    (found : Json.read body = some (.object members)) :
    entries? decode body = (Value.named? members).map fun _ =>
      (Partner.items? decode 0 (.object members)).getD [] := by
  rw [entries?_of_object found, envelope?_of_noEntry noEntry, Option.map_map]
  rfl

/-- Without an envelope nothing is left of an item that is none, and of the error that it is. -/
theorem entries?_of_malformed {wrapped : String} (form : IsBare value)
    (malformed : IsMalformedItem decode value) (read : Json.read body = some value)
    (enclosed : Json.read wrapped = some (.object [(Literal.ofText "entry", value)])) :
    entries? decode body = some [] ∧ entries? decode wrapped = none := by
  cases form with
  | array elements => cases malformed
  | object named noEntry =>
      obtain ⟨textual, noItem⟩ := malformed
      obtain ⟨names, textual⟩ := Option.isSome_iff_exists.mp textual
      rw [entries?_of_noEntry noEntry read, entries?_of_entry rfl enclosed, items?_one, textual,
        noItem, ite_self]
      exact ⟨rfl, rfl⟩

end Entries

/-- Items are read alike with and without an envelope, unless an object is no item, which is read
as no items without an envelope, or they are nested so deeply that an envelope cannot hold them. -/
theorem entries_agree_iff {decode : Value → Option α} {bare wrapped : String} {value : Value}
    (form : IsBare value) (read : Json.read bare = some value)
    (enclosed : Json.read wrapped = some (.object [(Literal.ofText "entry", value)])) :
    Json.read (enveloped bare) = some (.object [(Literal.ofText "entry", value)]) ∧
    (entries? decode bare = entries? decode wrapped ↔
      ¬IsMalformedItem decode value ∧ ¬IsDeepest decode value) ∧
    (IsMalformedItem decode value →
      entries? decode bare = some [] ∧ entries? decode wrapped = none) := by
  refine ⟨read_enveloped read, ?_,
    fun malformed => entries?_of_malformed form malformed read enclosed⟩
  cases form with
  | array elements =>
      rw [entries?_of_array read, entries?_of_entry rfl enclosed, items?_one]
      simp only [IsMalformedItem, not_false_eq_true, true_and]
      unfold IsDeepest
      split <;> simp [*]
  | @object members named noEntry =>
      rw [entries?_of_noEntry noEntry read, entries?_of_entry rfl enclosed, items?_one]
      unfold IsMalformedItem IsDeepest
      cases names : Value.named? members with
      | none => simp [names, items?_of_unnamed names]
      | some named =>
          cases items : Partner.items? decode 0 (.object members) with
          | none => simp [names, items]
          | some items => split <;> simp [*]

/-- An object with nothing but a name is not an envelope. -/
theorem isBare_singleton (value : Value) : IsBare (.object [(Literal.ofText "id", value)]) :=
  .object ⟨value, List.mem_singleton_self _⟩ fun other member => by
    cases (Prod.mk.inj (List.mem_singleton.mp member)).1

/-- A group is read alike with and without an envelope. -/
theorem entries_agree_iff_group :
    let bare := "\x7b\"id\": \"lab\"\x7d"
    let value : Value := .object [(Literal.ofText "id", .ofText "lab")]
    IsBare value ∧ Json.read bare = some value ∧
      Json.read (enveloped bare) = some (.object [(Literal.ofText "entry", value)]) ∧
      entries? groupItem? (enveloped bare) = some [⟨"lab", none, none, none⟩] ∧
      entries? groupItem? bare = entries? groupItem? (enveloped bare) := by
  intro bare value
  have form : IsBare value := isBare_singleton _
  have read : Json.read bare = some value := by
    simp [bare, value, Json.read, Source.ofText, Literal.ofText]
    rfl
  have enclosed := read_enveloped read
  have items : Partner.items? groupItem? 0 value = some [⟨"lab", none, none, none⟩] := rfl
  have wellFormed : ¬IsMalformedItem groupItem? value := by
    intro malformed
    cases malformed.2.symm.trans items
  have shallow : ¬IsDeepest groupItem? value := by
    intro deepest
    cases deepest.1
  have agree := (entries_agree_iff form read enclosed).2.1.mpr ⟨wellFormed, shallow⟩
  exact ⟨form, read, enclosed, (entries?_of_entry rfl enclosed).trans rfl, agree⟩

/-- A group or member whose name is no text is an error in an envelope, and nothing without one. -/
theorem malformed_item_swallowed :
    let bare := "\x7b\"id\": 5\x7d"
    let value : Value := .object [(Literal.ofText "id", .number (.ofNat 5))]
    IsBare value ∧ Json.read bare = some value ∧
      Json.read (enveloped bare) = some (.object [(Literal.ofText "entry", value)]) ∧
      entries? groupItem? bare = some [] ∧ entries? groupItem? (enveloped bare) = none ∧
      entries? Partner.MemberItem.ofJson? bare = some [] ∧
      entries? Partner.MemberItem.ofJson? (enveloped bare) = none := by
  intro bare value
  have form : IsBare value := isBare_singleton _
  have read : Json.read bare = some value := by
    simp [bare, value, Json.read, Source.ofText, Literal.ofText]
    rfl
  have enclosed := read_enveloped read
  have group := @entries?_of_malformed _ groupItem? _ _ _ form ⟨rfl, rfl⟩ read enclosed
  have person :=
    @entries?_of_malformed _ Partner.MemberItem.ofJson? _ _ _ form ⟨rfl, rfl⟩ read enclosed
  exact ⟨form, read, enclosed, group.1, group.2, person⟩

end GroupFederation.Provider.OpenSocial
