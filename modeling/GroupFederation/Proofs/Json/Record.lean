import GroupFederation.Json.Record
import Mathlib.Data.List.Forall2

/-!
# What a record says about its fields

A JSON value is a record with given fields if it is an object that names no field twice, or an array
that is no longer than the list of fields. What it says about a field is then the member with one of
the names of the field, or the element at the place of the field. Another value for one field, or
another of its names, changes nothing about the other fields.
-/

namespace GroupFederation.Json

/-- Texts are different literals. -/
theorem Literal.ofText_inj {left right : String} :
    Literal.ofText left = Literal.ofText right ↔ left = right := by
  refine ⟨fun same => ?_, congrArg _⟩
  have texts := congrArg Literal.text? same
  rwa [Literal.text?_ofText, Literal.text?_ofText, Option.some.injEq] at texts

/-- Whether a member goes by one of the names. -/
def isNamed (names : List String) (member : Literal × Value) : Bool :=
  names.any fun name => member.1 == Literal.ofText name

theorem isNamed_ofText {names : List String} {name : String} {value : Value} :
    isNamed names (Literal.ofText name, value) = names.contains name := by
  rw [Bool.eq_iff_iff, isNamed, List.any_eq_true, List.contains_iff_mem]
  constructor
  · rintro ⟨other, member, same⟩
    rwa [Literal.ofText_inj.mp (eq_of_beq same)]
  · exact fun member => ⟨name, member, by simp⟩

theorem isNamed_comp_ofText (names : List String) :
    (isNamed names ∘ fun member : String × Value => (Literal.ofText member.1, member.2)) =
      fun member => names.contains member.1 :=
  funext fun _ => isNamed_ofText

namespace Value

theorem text?_eq_some_iff {value : Value} {text : String} :
    value.text? = some text ↔ value = .ofText text := by
  cases value with
  | string literal =>
      rw [text?, ofText, Value.string.injEq]
      exact ⟨Literal.eq_ofText, fun same => same ▸ Literal.text?_ofText text⟩
  | _ => simp [text?, ofText]

theorem truth?_eq_some_iff {value : Value} {truth : Bool} :
    value.truth? = some truth ↔ value = .bool truth := by
  cases value <;> simp [truth?]

/-- What a record says about the field with the given names and the given place. -/
def field? (names : List String) (place : Nat) : Value → Option Value
  | .object members => (members.find? (isNamed names)).map Prod.snd
  | .array items => items[place]?
  | _ => none

/-- An object whose members have texts as names and which names no field twice, or an array that has
no more elements than there are fields. -/
def IsRecord (fields : List (List String)) : Value → Prop
  | .object members => (∀ member ∈ members, ∃ name, member.1 = Literal.ofText name) ∧
      ∀ names ∈ fields, members.countP (isNamed names) ≤ 1
  | .array items => items.length ≤ fields.length
  | _ => False

/-- What a record says about its fields, in their order. -/
def fields? (fields : List (List String)) (value : Value) : List (Option Value) :=
  fields.mapIdx fun place names => value.field? names place

theorem fields?_object {fields : List (List String)} {members : List (Literal × Value)} :
    (object members).fields? fields =
      fields.map fun names => (members.find? (isNamed names)).map Prod.snd := by
  refine List.ext_getElem? fun place => ?_
  simp [fields?, field?]

theorem field?_ofMembers {members : List (String × Value)} {names : List String} {place : Nat} :
    (ofMembers members).field? names place =
      (members.find? fun member => names.contains member.1).map Prod.snd := by
  rw [ofMembers, field?, List.find?_map, Option.map_map, isNamed_comp_ofText]
  rfl

theorem isRecord_ofMembers {members : List (String × Value)} {fields : List (List String)} :
    (ofMembers members).IsRecord fields ↔ ∀ names ∈ fields,
      members.countP (fun member => names.contains member.1) ≤ 1 := by
  have texts : ∀ member ∈ members.map fun member => (Literal.ofText member.1, member.2),
      ∃ name, member.1 = Literal.ofText name :=
    List.forall_mem_map.mpr fun member _ => ⟨member.1, rfl⟩
  rw [ofMembers, IsRecord, and_iff_right texts]
  simp only [List.countP_map, isNamed_comp_ofText]

theorem named?_eq_some_iff {members : List (Literal × Value)} {named : List (String × Value)} :
    named? members = some named ↔
      members = named.map fun member => (Literal.ofText member.1, member.2) := by
  induction members generalizing named with
  | nil => cases named <;> simp [named?]
  | cons first rest inductionHypothesis =>
      obtain ⟨name, value⟩ := first
      simp only [named?, Option.bind_eq_bind, Option.bind_eq_some_iff, Option.some_inj,
        inductionHypothesis]
      constructor
      · rintro ⟨text, isText, others, rfl, rfl⟩
        rw [List.map_cons, Literal.eq_ofText isText]
      · intro written
        cases named with
        | nil => cases written
        | cons head others =>
            obtain ⟨same, behind⟩ := List.cons.inj written
            obtain ⟨rfl, rfl⟩ := Prod.mk.inj same
            exact ⟨head.1, Literal.text?_ofText head.1, others, behind, rfl⟩

theorem exists_named?_iff {members : List (Literal × Value)} :
    (∃ named, named? members = some named) ↔
      ∀ member ∈ members, ∃ name, member.1 = Literal.ofText name := by
  simp only [named?_eq_some_iff]
  constructor
  · rintro ⟨named, rfl⟩ member isMember
    obtain ⟨source, -, rfl⟩ := List.mem_map.mp isMember
    exact ⟨source.1, rfl⟩
  · intro names
    choose! text isText using names
    refine ⟨members.map fun member => (text member, member.2), ?_⟩
    rw [List.map_map]
    refine (List.map_id members).symm.trans (List.map_congr_left fun member isMember => ?_)
    exact Prod.ext (isText member isMember) rfl

end Value

/-- All elements are decoded, or none of them counts. -/
theorem mapM_eq_some_iff {α β : Type} {decode : α → Option β} {elements : List α}
    {items : List β} :
    elements.mapM decode = some items ↔
      List.Forall₂ (fun element item => decode element = some item) elements items := by
  induction elements generalizing items with
  | nil => cases items <;> simp
  | cons element elements inductionHypothesis =>
      simp only [List.mapM_cons, Option.bind_eq_bind, Option.bind_eq_some_iff, Option.pure_def,
        Option.some_inj, List.forall₂_cons_left_iff, inductionHypothesis]
      constructor
      · rintro ⟨item, first, items, rest, rfl⟩
        exact ⟨item, items, first, rest, rfl⟩
      · rintro ⟨item, items, first, rest, rfl⟩
        exact ⟨item, first, items, rest, rfl⟩

theorem exists_of_mem_mapM {α β : Type} {decode : α → Option β} {elements : List α}
    {items : List β} (decoded : elements.mapM decode = some items) {item : β}
    (member : item ∈ items) : ∃ element, decode element = some item := by
  rw [mapM_eq_some_iff] at decoded
  induction decoded with
  | nil => cases member
  | @cons element first _ _ one _ inductionHypothesis =>
      rcases List.mem_cons.mp member with rfl | behind
      · exact ⟨element, one⟩
      · exact inductionHypothesis behind

/-- What can be seen of decoded elements, if all of them are decoded. -/
theorem exists_mapM_map_iff {α β γ : Type} {decode : α → Option β} {view : β → γ}
    {elements : List α} {seen : List γ} :
    (∃ items, elements.mapM decode = some items ∧ items.map view = seen) ↔
      List.Forall₂ (fun element sight => ∃ item, decode element = some item ∧ view item = sight)
        elements seen := by
  simp only [mapM_eq_some_iff]
  constructor
  · rintro ⟨items, decoded, rfl⟩
    rw [List.forall₂_map_right_iff]
    exact decoded.imp fun _ item one => ⟨item, one, rfl⟩
  · intro decoded
    induction decoded with
    | nil => exact ⟨[], .nil, rfl⟩
    | cons one _ inductionHypothesis =>
        obtain ⟨item, first, rfl⟩ := one
        obtain ⟨items, rest, rfl⟩ := inductionHypothesis
        exact ⟨item :: items, .cons first rest, rfl⟩

namespace Slot

/-- The value of the field, if there is one. -/
def value? : Slot → Option Value
  | .given value => some value
  | .absent => none
  | .beyond => none

theorem ofMembers?_iff {members : List (Literal × Value)} {named : List (String × Value)}
    (texts : Value.named? members = some named) {names : List String} {given : Option Value} :
    (∃ slot, ofMembers? names named = some slot ∧ slot.value? = given) ↔
      members.countP (isNamed names) ≤ 1 ∧
        (members.find? (isNamed names)).map Prod.snd = given := by
  obtain rfl := Value.named?_eq_some_iff.mp texts
  rw [List.countP_map, List.find?_map, Option.map_map, isNamed_comp_ofText, ofMembers?,
    List.countP_eq_length_filter, ← List.head?_filter]
  generalize (named.filter fun member => names.contains member.1) = found
  match found with
  | [] => simp [value?]
  | [member] => simp [value?]
  | first :: second :: rest => simp

theorem map_value?_ofItems (fields : List (List String)) (items : List Value) :
    (ofItems fields items).map value? = fields.mapIdx fun place _ => items[place]? := by
  induction fields generalizing items with
  | nil => rfl
  | cons names fields inductionHypothesis =>
      cases items with
      | nil => simp [ofItems, value?, inductionHypothesis]
      | cons item items => simp [ofItems, value?, inductionHypothesis]

/-- The slots of a record say what the record says. -/
theorem read?_iff {fields : List (List String)} {value : Value} {given : List (Option Value)} :
    (∃ slots, read? fields value = some slots ∧ slots.map value? = given) ↔
      value.IsRecord fields ∧ value.fields? fields = given := by
  cases value with
  | object members =>
      cases texts : Value.named? members with
      | none =>
          have noRecord : ¬(Value.object members).IsRecord fields := by
            rintro ⟨areTexts, -⟩
            obtain ⟨named, found⟩ := Value.exists_named?_iff.mpr areTexts
            rw [texts] at found
            cases found
          simp [read?, texts, noRecord]
      | some named =>
          have record : (Value.object members).IsRecord fields ↔
              ∀ names ∈ fields, members.countP (isNamed names) ≤ 1 :=
            and_iff_right (Value.exists_named?_iff.mp ⟨named, texts⟩)
          have said : (Value.object members).fields? fields = given ↔
              List.Forall₂ (fun names sight =>
                (members.find? (isNamed names)).map Prod.snd = sight) fields given := by
            rw [← List.forall₂_map_left_iff (R := (· = ·)), List.forall₂_eq_eq_eq,
              Value.fields?_object]
          rw [record, said, ← List.forall₂_and_left]
          simp only [read?, texts, Option.bind_eq_bind, Option.bind_some, exists_mapM_map_iff,
            ofMembers?_iff texts]
  | array items =>
      have said : (Value.array items).fields? fields = (ofItems fields items).map value? :=
        (map_value?_ofItems fields items).symm
      rw [said, Value.IsRecord, ← Nat.not_lt]
      by_cases long : fields.length < items.length <;> simp [read?, long]
  | null | bool | number | string => simp [read?, Value.IsRecord]

/-- What a field says that may be left out or be null, where its values mean something. -/
inductive IsLenient {α : Type} (means : Value → α → Prop) : Option Value → Option α → Prop where
  | missing : IsLenient means none none
  | null : IsLenient means (some .null) none
  | given {value : Value} {meaning : α} (isMeaning : means value meaning) :
      IsLenient means (some value) (some meaning)

theorem lenient_given_of_ne_null {α : Type} {decode : Value → Option α} {value : Value}
    (notNull : value ≠ .null) : (given value).lenient decode = (decode value).map some := by
  cases value <;> first | exact absurd rfl notNull | rfl

theorem lenient_eq_some_iff {α : Type} {decode : Value → Option α} {means : Value → α → Prop}
    (faithful : ∀ value meaning, decode value = some meaning ↔ means value meaning)
    (noMeaning : decode .null = none) {slot : Slot} {result : Option α} :
    slot.lenient decode = some result ↔ IsLenient means slot.value? result := by
  constructor
  · intro read
    cases slot with
    | absent | beyond =>
        cases read
        exact .missing
    | given value =>
        by_cases null : value = .null
        · subst null
          cases read
          exact .null
        · rw [lenient_given_of_ne_null null] at read
          obtain ⟨meaning, decoded, rfl⟩ := Option.map_eq_some_iff.mp read
          exact .given ((faithful value meaning).mp decoded)
  · intro isLenient
    cases slot with
    | absent | beyond =>
        cases isLenient
        rfl
    | given value =>
        cases isLenient with
        | null => rfl
        | @given _ meaning isMeaning =>
            have decoded := (faithful value meaning).mpr isMeaning
            have notNull : value ≠ .null := fun null => by
              rw [null, noMeaning] at decoded
              cases decoded
            rw [lenient_given_of_ne_null notNull, decoded, Option.map_some]

theorem withDefault_eq_some_iff {α : Type} {default result : α} {decode : Value → Option α}
    {slot : Slot} :
    slot.withDefault default decode = some result ↔
      (∃ value, slot.value? = some value ∧ decode value = some result) ∨
        slot.value? = none ∧ result = default := by
  cases slot <;> simp [withDefault, value?, eq_comm]

theorem required_eq_some_iff {α : Type} {result : α} {decode : Value → Option α} {slot : Slot} :
    slot.required decode = some result ↔
      ∃ value, slot.value? = some value ∧ decode value = some result := by
  cases slot <;> simp [required, value?]

theorem required_text?_eq_some_iff {slot : Slot} {text : String} :
    slot.required Value.text? = some text ↔ slot.value? = some (.ofText text) := by
  simp [required_eq_some_iff, Value.text?_eq_some_iff]

theorem lenient_text?_eq_some_iff {slot : Slot} {result : Option String} :
    slot.lenient Value.text? = some result ↔
      IsLenient (fun value text => value = .ofText text) slot.value? result :=
  lenient_eq_some_iff (fun _ _ => Value.text?_eq_some_iff) rfl

/-- A field that an array has to reach is read like one that it may stop before, if it is reached. -/
theorem optional_eq_lenient {α : Type} {decode : Value → Option α} {slot : Slot}
    (reached : slot ≠ .beyond) : slot.optional decode = slot.lenient decode := by
  cases slot with
  | given value => cases value <;> rfl
  | absent => rfl
  | beyond => exact absurd rfl reached

theorem ne_beyond_of_optional {α : Type} {decode : Value → Option α} {slot : Slot}
    {result : Option α} (read : slot.optional decode = some result) : slot ≠ .beyond := by
  rintro rfl
  cases read

theorem ofMembers?_ne_beyond {names : List String} {members : List (String × Value)} {slot : Slot}
    (found : ofMembers? names members = some slot) : slot ≠ .beyond := by
  rintro rfl
  unfold ofMembers? at found
  split at found <;> cases found

theorem ofItems_nil (fields : List (List String)) :
    ofItems fields [] = List.replicate fields.length .beyond := by
  induction fields with
  | nil => rfl
  | cons names fields inductionHypothesis => rw [ofItems, inductionHypothesis]; rfl

theorem pairwise_ofItems (fields : List (List String)) (items : List Value) :
    (ofItems fields items).Pairwise fun earlier later => earlier = .beyond → later = .beyond := by
  induction fields generalizing items with
  | nil => exact .nil
  | cons names fields inductionHypothesis =>
      cases items with
      | nil =>
          refine .cons (fun later member _ => ?_) (inductionHypothesis [])
          exact List.eq_of_mem_replicate (ofItems_nil fields ▸ member)
      | cons item items =>
          exact .cons (fun _ _ beyond => Slot.noConfusion beyond) (inductionHypothesis items)

/-- An array reaches no field behind one that it does not reach. -/
theorem pairwise_of_read? {fields : List (List String)} {value : Value} {slots : List Slot}
    (read : read? fields value = some slots) :
    slots.Pairwise fun earlier later => earlier = .beyond → later = .beyond := by
  cases value with
  | object members =>
      obtain ⟨named, -, each⟩ := Option.bind_eq_some_iff.mp read
      refine List.Pairwise.imp_of_mem (R := fun _ _ => True) (fun member _ _ beyond => ?_)
        (List.pairwise_of_forall fun _ _ => trivial)
      obtain ⟨names, found⟩ := exists_of_mem_mapM each member
      exact absurd beyond (ofMembers?_ne_beyond found)
  | array items =>
      simp only [read?] at read
      split at read
      · cases read
      · obtain rfl := Option.some.inj read
        exact pairwise_ofItems fields items
  | null | bool | number | string => cases read

end Slot

/-! ## Two records that differ in one field -/

/-- Two records that agree except for what they give for one field. -/
inductive DifferAt (name : String) (place : Nat) (given other : Value) : Value → Value → Prop where
  | object (front back : List (Literal × Value)) :
      DifferAt name place given other
        (.object (front ++ (Literal.ofText name, given) :: back))
        (.object (front ++ (Literal.ofText name, other) :: back))
  | array (front back : List Value) (behind : front.length = place) :
      DifferAt name place given other (.array (front ++ given :: back))
        (.array (front ++ other :: back))

/-- Two objects that agree except for the name under which they give one field. -/
inductive Renamed (names : List String) : Value → Value → Prop where
  | member (front back : List (Literal × Value)) {name other : String} (given : Value)
      (isName : name ∈ names) (isOther : other ∈ names) :
      Renamed names (.object (front ++ (Literal.ofText name, given) :: back))
        (.object (front ++ (Literal.ofText other, given) :: back))

/-- An object that names a field twice. -/
inductive NamedTwice (names : List String) : Value → Prop where
  | members (front middle back : List (Literal × Value)) {name other : String}
      (given otherGiven : Value) (isName : name ∈ names) (isOther : other ∈ names) :
      NamedTwice names
        (.object (front ++ (Literal.ofText name, given) :: (middle ++
          (Literal.ofText other, otherGiven) :: back)))

section

variable {fields : List (List String)} {names : List String} {name : String} {place : Nat}
  {given other left right : Value}

theorem DifferAt.isRecord_iff (differ : DifferAt name place given other left right) :
    left.IsRecord fields ↔ right.IsRecord fields := by
  cases differ with
  | object front back =>
      simp only [Value.IsRecord, List.forall_mem_append, List.forall_mem_cons, List.countP_append,
        List.countP_cons, isNamed_ofText]
  | array front back behind => simp [Value.IsRecord]

/-- The other fields are the same. -/
theorem DifferAt.field?_eq (differ : DifferAt name place given other left right)
    {otherPlace : Nat} (elsewhere : otherPlace ≠ place) (unnamed : name ∉ names) :
    left.field? names otherPlace = right.field? names otherPlace := by
  cases differ with
  | object front back => simp [Value.field?, isNamed_ofText, unnamed]
  | array front back behind =>
      have same : front ++ other :: back = (front ++ given :: back).set place other := by
        simp [← behind]
      rw [Value.field?, Value.field?, same, List.getElem?_set_ne (Ne.symm elsewhere)]

/-- The field is the same or what differs. -/
theorem DifferAt.field?_cases (differ : DifferAt name place given other left right)
    (named : name ∈ names) :
    left.field? names place = right.field? names place ∨
      left.field? names place = some given ∧ right.field? names place = some other := by
  cases differ with
  | object front back =>
      cases earlier : front.find? (isNamed names) with
      | some member => simp [Value.field?, earlier]
      | none => simp [Value.field?, earlier, isNamed_ofText, named]
  | array front back behind => simp [Value.field?, ← behind]

theorem Renamed.field?_eq (renamed : Renamed names left right) {asked : List String}
    (together : ∀ name ∈ names, ∀ other ∈ names, asked.contains name = asked.contains other) :
    left.field? asked place = right.field? asked place := by
  cases renamed with
  | @member front back name other given isName isOther =>
      have same := together name isName other isOther
      simp only [Value.field?, List.find?_append, List.find?_cons, isNamed_ofText, same]
      cases asked.contains other <;> cases front.find? (isNamed asked) <;> rfl

theorem Renamed.isRecord_iff (renamed : Renamed names left right)
    (together : ∀ asked ∈ fields, ∀ name ∈ names, ∀ other ∈ names,
      asked.contains name = asked.contains other) :
    left.IsRecord fields ↔ right.IsRecord fields := by
  cases renamed with
  | @member front back name other given isName isOther =>
      refine and_congr ?texts (forall₂_congr fun asked isField => ?once)
      case texts =>
        simp only [List.forall_mem_append, List.forall_mem_cons, exists_apply_eq_apply']
      case once =>
        have same := together asked isField name isName other isOther
        simp only [List.countP_append, List.countP_cons, isNamed_ofText, same]

theorem NamedTwice.not_isRecord (twice : NamedTwice names left) (isField : names ∈ fields) :
    ¬left.IsRecord fields := by
  cases twice with
  | members front middle back given otherGiven isName isOther =>
      rintro ⟨-, once⟩
      have count := once names isField
      simp only [List.countP_append, List.countP_cons, isNamed_ofText, List.contains_iff_mem,
        isName, isOther, if_true] at count
      omega

end

end GroupFederation.Json
