import GroupFederation.Group.Json
import GroupFederation.Proofs.Json.Record
import GroupFederation.Proofs.Json.Writing

/-!
# Groups and members as JSON texts

A group, a member or a membership may be written in several ways: as an object with its fields in
any order and with other fields beside them, or as an array, and a role by its name or as an object
with that name. Each is decoded from the texts that write it in one of these ways, and from no
others. The service itself writes it in one way, and that is decoded to the same again.
-/

namespace GroupFederation

open Json (Slot Value)

/-! ## Ways to write -/

/-- Ways to write a role. -/
inductive Role.IsWrittenIn : Role → Value → Prop where
  | name (role : Role) : IsWrittenIn role (.ofText role.name)
  | member (role : Role) : IsWrittenIn role (.object [(Json.Literal.ofText role.name, .null)])

/-- Ways to write a membership. -/
structure Membership.IsWrittenIn (membership : Membership) (value : Value) : Prop where
  record : value.IsRecord fields
  basic : ∃ inner, value.field? ["basic"] 0 = some inner ∧ membership.basic.IsWrittenIn inner

/-- Ways to write a member. -/
structure Member.IsWrittenIn (member : Member) (value : Value) : Prop where
  record : value.IsRecord fields
  id : value.field? ["id"] 0 = some (.ofText member.id)
  displayName : value.field? ["displayName"] 1 = some (.ofText member.displayName)

/-- Ways to write a group. Its description may be missing or null. -/
structure Group.IsWrittenIn (group : Group) (value : Value) : Prop where
  record : value.IsRecord fields
  id : value.field? ["id"] 0 = some (.ofText group.id)
  displayName : value.field? ["displayName"] 1 = some (.ofText group.displayName)
  description : Slot.IsLenient (fun value text => value = .ofText text)
    (value.field? ["description"] 2) group.description
  organization : value.field? ["schacHomeOrganization"] 3 = some (.ofText group.organization)
  membership : ∃ inner, value.field? ["membership"] 4 = some inner ∧
    group.membership.IsWrittenIn inner

/-! ## Decoding -/

namespace Role

theorem ofName?_eq_some_iff {name : String} {role : Role} :
    ofName? name = some role ↔ name = role.name := by
  constructor
  · intro found
    unfold ofName? at found
    split at found <;> cases found <;> rfl
  · rintro rfl
    exact ofName?_name role

theorem ofJson?_eq_some_iff {value : Value} {role : Role} :
    ofJson? value = some role ↔ role.IsWrittenIn value := by
  constructor
  · intro found
    unfold ofJson? at found
    split at found
    · obtain ⟨name, isText, named⟩ := Option.bind_eq_some_iff.mp found
      rw [Json.Literal.eq_ofText isText, ofName?_eq_some_iff.mp named]
      exact .name role
    · obtain ⟨name, isText, named⟩ := Option.bind_eq_some_iff.mp found
      rw [Json.Literal.eq_ofText isText, ofName?_eq_some_iff.mp named]
      exact .member role
    · cases found
  · intro isWritten
    cases isWritten with
    | name => exact ofJson?_toJson role
    | member => simp [ofJson?]

end Role

namespace Membership

theorem fields?_eq (value : Value) : value.fields? fields = [value.field? ["basic"] 0] := by
  simp [Value.fields?, fields]

theorem ofJson?_eq_some_iff {value : Value} {membership : Membership} :
    ofJson? value = some membership ↔ membership.IsWrittenIn value := by
  constructor
  · intro read
    unfold ofJson? at read
    split at read
    case h_1 basic slots =>
      obtain ⟨record, told⟩ := Slot.read?_iff.mp ⟨_, slots, rfl⟩
      simp only [fields?_eq, List.map_cons, List.map_nil, List.cons.injEq, and_true] at told
      obtain ⟨role, isRole, rfl⟩ := Option.map_eq_some_iff.mp read
      simp only [Slot.required_eq_some_iff, Role.ofJson?_eq_some_iff, ← told] at isRole
      exact ⟨record, isRole⟩
    case h_2 => cases read
  · intro isWritten
    obtain ⟨slots, read, told⟩ := Slot.read?_iff.mpr ⟨isWritten.record, fields?_eq value⟩
    simp only [List.map_eq_cons_iff, List.map_eq_nil_iff] at told
    obtain ⟨basic, _, rfl, isBasic, rfl⟩ := told
    have isRole : basic.required Role.ofJson? = some membership.basic := by
      simpa only [Slot.required_eq_some_iff, Role.ofJson?_eq_some_iff, isBasic] using
        isWritten.basic
    rw [ofJson?, read]
    exact congrArg (Option.map Membership.mk) isRole

end Membership

namespace Member

theorem fields?_eq (value : Value) :
    value.fields? fields = [value.field? ["id"] 0, value.field? ["displayName"] 1] := by
  simp [Value.fields?, fields]

theorem ofJson?_eq_some_iff {value : Value} {member : Member} :
    ofJson? value = some member ↔ member.IsWrittenIn value := by
  constructor
  · intro read
    unfold ofJson? at read
    split at read
    case h_1 id displayName slots =>
      obtain ⟨record, told⟩ := Slot.read?_iff.mp ⟨_, slots, rfl⟩
      simp only [fields?_eq, List.map_cons, List.map_nil, List.cons.injEq, and_true] at told
      obtain ⟨isId, isDisplayName⟩ := told
      simp only [Option.bind_eq_bind, Option.bind_eq_some_iff, Option.some_inj,
        Slot.required_text?_eq_some_iff, ← isId, ← isDisplayName] at read
      obtain ⟨_, first, _, second, rfl⟩ := read
      exact ⟨record, first, second⟩
    case h_2 => cases read
  · intro isWritten
    obtain ⟨slots, read, told⟩ := Slot.read?_iff.mpr ⟨isWritten.record, fields?_eq value⟩
    simp only [List.map_eq_cons_iff, List.map_eq_nil_iff] at told
    obtain ⟨id, _, rfl, isId, displayName, _, rfl, isDisplayName, rfl⟩ := told
    rw [ofJson?, read]
    simp only [Option.bind_eq_bind, Option.bind_eq_some_iff, Option.some_inj,
      Slot.required_text?_eq_some_iff, isId, isDisplayName]
    exact ⟨_, isWritten.id, _, isWritten.displayName, rfl⟩

end Member

namespace Group

theorem fields?_eq (value : Value) :
    value.fields? fields =
      [value.field? ["id"] 0, value.field? ["displayName"] 1, value.field? ["description"] 2,
        value.field? ["schacHomeOrganization"] 3, value.field? ["membership"] 4] := by
  simp [Value.fields?, fields]

theorem required_membership?_iff {slot : Slot} {membership : Membership} :
    slot.required Membership.ofJson? = some membership ↔
      ∃ inner, slot.value? = some inner ∧ membership.IsWrittenIn inner := by
  simp only [Slot.required_eq_some_iff, Membership.ofJson?_eq_some_iff]

theorem ofJson?_eq_some_iff {value : Value} {group : Group} :
    ofJson? value = some group ↔ group.IsWrittenIn value := by
  constructor
  · intro read
    unfold ofJson? at read
    split at read
    case h_1 id displayName description organization membership slots =>
      obtain ⟨record, told⟩ := Slot.read?_iff.mp ⟨_, slots, rfl⟩
      simp only [fields?_eq, List.map_cons, List.map_nil, List.cons.injEq, and_true] at told
      obtain ⟨isId, isDisplayName, isDescription, isOrganization, isMembership⟩ := told
      simp only [Option.bind_eq_bind, Option.bind_eq_some_iff, Option.some_inj,
        Slot.required_text?_eq_some_iff, required_membership?_iff, ← isId, ← isDisplayName,
        ← isOrganization, ← isMembership] at read
      obtain ⟨_, first, _, second, described, third, _, fourth, _, fifth, rfl⟩ := read
      rw [Slot.optional_eq_lenient (Slot.ne_beyond_of_optional third),
        Slot.lenient_text?_eq_some_iff, ← isDescription] at third
      exact ⟨record, first, second, third, fourth, fifth⟩
    case h_2 => cases read
  · intro isWritten
    obtain ⟨slots, read, told⟩ := Slot.read?_iff.mpr ⟨isWritten.record, fields?_eq value⟩
    simp only [List.map_eq_cons_iff, List.map_eq_nil_iff] at told
    obtain ⟨id, _, rfl, isId, displayName, _, rfl, isDisplayName, description, _, rfl,
      isDescription, organization, _, rfl, isOrganization, membership, _, rfl, isMembership,
      rfl⟩ := told
    -- An array that reaches the organization reaches the description before it.
    have reached : description ≠ .beyond := by
      intro beyond
      have later := Slot.pairwise_of_read? read
      simp only [List.pairwise_cons, List.mem_cons, forall_eq_or_imp] at later
      have missing := isWritten.organization
      rw [← isOrganization, later.2.2.1.1 beyond] at missing
      cases missing
    rw [ofJson?, read]
    simp only [Option.bind_eq_bind, Option.bind_eq_some_iff, Option.some_inj,
      Slot.required_text?_eq_some_iff, Slot.optional_eq_lenient reached,
      Slot.lenient_text?_eq_some_iff, required_membership?_iff, isId, isDisplayName,
      isDescription, isOrganization, isMembership]
    exact ⟨_, isWritten.id, _, isWritten.displayName, _, isWritten.description, _,
      isWritten.organization, _, isWritten.membership, rfl⟩

end Group

/-! ## The way in which the service writes -/

namespace Membership

theorem isWorded_toJson (membership : Membership) : membership.toJson.IsWorded :=
  .ofMembers (by simpa using .text membership.basic.name)

theorem isWrittenIn_toJson (membership : Membership) :
    membership.IsWrittenIn membership.toJson where
  record := Value.isRecord_ofMembers.mpr (by simp [fields])
  basic := ⟨membership.basic.toJson, by simp [toJson, Value.field?_ofMembers], .name _⟩

end Membership

namespace Member

theorem isWorded_toJson (member : Member) : member.toJson.IsWorded :=
  .ofMembers (by simpa using ⟨.text member.id, .text member.displayName⟩)

theorem isWrittenIn_toJson (member : Member) : member.IsWrittenIn member.toJson where
  record := Value.isRecord_ofMembers.mpr (by simp [fields])
  id := by simp [toJson, Value.field?_ofMembers]
  displayName := by simp [toJson, Value.field?_ofMembers]

end Member

namespace Group

theorem isWorded_toJson (group : Group) : group.toJson.IsWorded := by
  have membership := group.membership.isWorded_toJson
  refine .ofMembers ?_
  cases group.description <;> simp [membership, Value.IsWorded.text]

/-- A description that is not there is left out. -/
theorem field?_description_toJson (group : Group) :
    group.toJson.field? ["description"] 2 = group.description.map Value.ofText := by
  cases described : group.description <;> simp [toJson, Value.field?_ofMembers, described]

theorem isWrittenIn_toJson (group : Group) : group.IsWrittenIn group.toJson where
  record := Value.isRecord_ofMembers.mpr (by cases group.description <;> simp [fields])
  id := by simp [toJson, Value.field?_ofMembers]
  displayName := by simp [toJson, Value.field?_ofMembers]
  description := by
    rw [field?_description_toJson]
    cases group.description with
    | none => exact .missing
    | some description => exact .given rfl
  organization := by
    cases described : group.description <;> simp [toJson, Value.field?_ofMembers, described]
  membership := by
    refine ⟨group.membership.toJson, ?_, group.membership.isWrittenIn_toJson⟩
    cases described : group.description <;> simp [toJson, Value.field?_ofMembers, described]

end Group

/-! ## There and back -/

section

variable {Model : Type} {toJson : Model → Value} {ofJson? : Value → Option Model}
  {IsWrittenIn : Model → Value → Prop}

/-- What a text is decoded to. -/
def decode? (ofJson? : Value → Option Model) (text : String) : Option Model :=
  (Json.read text).bind ofJson?

/-- A model is decoded from each text that writes it in one of some ways, from no other text, and
from the text in which it is written itself. -/
structure IsFaithful (toJson : Model → Value) (ofJson? : Value → Option Model)
    (IsWrittenIn : Model → Value → Prop) : Prop where
  back (model : Model) : decode? ofJson? (toJson model).text = some model
  decode?_eq_some_iff (text : String) (model : Model) :
    decode? ofJson? text = some model ↔
      ∃ value, Json.read text = some value ∧ IsWrittenIn model value
  rewritten (text : String) (model : Model) (decoded : decode? ofJson? text = some model) :
    decode? ofJson? (toJson model).text = decode? ofJson? text

theorem isFaithful_of_isWrittenIn
    (faithful : ∀ value model, ofJson? value = some model ↔ IsWrittenIn model value)
    (worded : ∀ model, (toJson model).IsWorded)
    (written : ∀ model, IsWrittenIn model (toJson model)) :
    IsFaithful toJson ofJson? IsWrittenIn := by
  have back (model : Model) : decode? ofJson? (toJson model).text = some model := by
    rw [decode?, Json.read_text (worded model), Option.bind_some, faithful]
    exact written model
  refine ⟨back, fun text model => ?_, fun text model decoded => ?_⟩
  · simp only [decode?, Option.bind_eq_some_iff, faithful]
  · rw [back, decoded]

end

/-- What the service writes is decoded to the same again, and so is whatever it decodes, once it has
written it itself. -/
theorem models_round_trip :
    IsFaithful Group.toJson Group.ofJson? Group.IsWrittenIn ∧
      IsFaithful Member.toJson Member.ofJson? Member.IsWrittenIn ∧
      IsFaithful Membership.toJson Membership.ofJson? Membership.IsWrittenIn :=
  ⟨isFaithful_of_isWrittenIn (fun _ _ => Group.ofJson?_eq_some_iff) Group.isWorded_toJson
      Group.isWrittenIn_toJson,
    isFaithful_of_isWrittenIn (fun _ _ => Member.ofJson?_eq_some_iff) Member.isWorded_toJson
      Member.isWrittenIn_toJson,
    isFaithful_of_isWrittenIn (fun _ _ => Membership.ofJson?_eq_some_iff)
      Membership.isWorded_toJson Membership.isWrittenIn_toJson⟩

/-- An array with the role as an object, read and written. -/
example : (decode? Membership.ofJson? "[\x7b\"manager\":null\x7d]").map (·.toJson.text) =
    some "\x7b\"basic\":\"manager\"\x7d" := by
  cbv

end GroupFederation
