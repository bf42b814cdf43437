import GroupFederation.Provider.Partner

/-!
# Partners with the OpenSocial collections

Such a partner has a collection of the groups of a person and one of the members of a group. Items
come in the field `entry` of an envelope, or without an envelope; an envelope without items is an
empty collection. There is no resource for a single group, so that it is looked for among all
groups of the person.
-/

namespace GroupFederation.Provider.OpenSocial

open Json (Value)
open Partner (GroupItem MemberItem)

variable {α : Type}

/-- The item of a JSON value. -/
def groupItem? (value : Value) : Option GroupItem :=
  match Json.Slot.read?
      [["id"], ["title", "displayName"], ["description"], ["voot_membership_role"]] value with
  | some [id, title, description, role] => do
      some
        { id := ← id.required Value.text?
          displayName := ← title.lenient Value.text?
          description := ← description.lenient Value.text?
          role := ← role.lenient Value.text? }
  | _ => none

/-- The field `entry` of an envelope; there is none in an object that is no envelope. -/
def envelope? (decode : Value → Option α) (value : Value) : Option (Option (List α)) :=
  match Json.Slot.read? [["entry"]] value with
  | some [entry] => entry.optional (Partner.items? decode 1)
  | _ => none

/-- The items in a text. -/
def entries? (decode : Value → Option α) (body : String) : Option (List α) :=
  match (Text.trimStart body).toList with
  | [] => Partner.lenientList? decode body
  | '[' :: _ => Partner.lenientList? decode body
  | _ => do
      match ← (Json.read body).bind (envelope? decode) with
      | some items => some items
      | none => some ((Partner.lenientList? decode body).getD [])

/-- The groups in an answer. -/
def readGroups (organization : String) (answer : Http.Answer) :
    Except Failure (List Group) := do
  match ← Partner.content answer with
  | none => .ok []
  | some body =>
      let items ← Partner.decoded (entries? groupItem? body)
      .ok (items.map fun item => item.toGroup organization)

/-- The group that is looked for, among the groups in an answer. -/
def readGroup (organization group : String) (answer : Http.Answer) :
    Except Failure (Option Group) :=
  (readGroups organization answer).map fun groups =>
    groups.find? fun found => Urn.localPart .group found.id == Urn.localPart .group group

/-- The members in an answer. -/
def readMembers (answer : Http.Answer) : Except Failure (List Member) := do
  match ← Partner.content answer with
  | none => .ok []
  | some body =>
      let items ← Partner.decoded (entries? MemberItem.ofJson? body)
      .ok (items.map MemberItem.toMember)

/-- The collection of the groups of a person. -/
def groupsResource (person : String) : String :=
  "/groups/" ++ Partner.personSegment person

/-- The collection of the members of a group. -/
def peopleResource (group : String) : String :=
  "/people/@all/" ++ Partner.groupSegment group

/-- The provider of a configuration. -/
def provider (network : Http.Network) (config : Config) : Provider where
  name := config.name
  organization := config.organization
  timeout := config.timeout
  isExternal := true
  listsMembers := config.listsMembers
  memberships _ person :=
    config.replyTo (config.get network (groupsResource person))
      (readGroups config.organization)
  membership _ person group :=
    config.replyTo (config.get network (groupsResource person))
      (readGroup config.organization group)
  members _ group := config.replyTo (config.get network (peopleResource group)) readMembers
  allGroups _ := { outcome := .answered [] }

end GroupFederation.Provider.OpenSocial
