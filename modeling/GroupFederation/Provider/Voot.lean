import GroupFederation.Provider.Partner

/-!
# Partners with the membership interface

Such a partner has a resource for the groups of a person, one for a single group of a person, and
one for the members of a group.
-/

namespace GroupFederation.Provider.Voot

open Json (Value)
open Partner (GroupItem MemberItem)

/-- The role in a membership value. -/
def role? (value : Value) : Option (Option String) :=
  match Json.Slot.read? [["basic"]] value with
  | some [basic] => basic.lenient Value.text?
  | _ => none

/-- The item of a JSON value. -/
def groupItem? (value : Value) : Option GroupItem :=
  match Json.Slot.read? [["id"], ["displayName", "title"], ["description"], ["membership"]]
      value with
  | some [id, displayName, description, membership] => do
      some
        { id := ← id.required Value.text?
          displayName := ← displayName.lenient Value.text?
          description := ← description.lenient Value.text?
          role := (← membership.lenient role?).join }
  | _ => none

/-- The groups in an answer. -/
def readGroups (organization : String) (answer : Http.Answer) :
    Except Failure (List Group) := do
  match ← Partner.content answer with
  | none => .ok []
  | some body =>
      let items ← Partner.decoded (Partner.lenientList? groupItem? body)
      .ok (items.map fun item => item.toGroup organization)

/-- The members in an answer. -/
def readMembers (answer : Http.Answer) : Except Failure (List Member) := do
  match ← Partner.content answer with
  | none => .ok []
  | some body =>
      let items ← Partner.decoded (Partner.lenientList? MemberItem.ofJson? body)
      .ok (items.map MemberItem.toMember)

/-- The resource with the groups of a person. -/
def membershipsResource (person : String) : String :=
  "/user/" ++ Partner.personSegment person ++ "/groups"

/-- The resource with one group of a person. -/
def membershipResource (person group : String) : String :=
  membershipsResource person ++ "/" ++ Partner.groupSegment group

/-- The resource with the members of a group. -/
def membersResource (group : String) : String :=
  "/members/" ++ Partner.groupSegment group

/-- The provider of a configuration. -/
def provider (network : Http.Network) (config : Config) : Provider where
  name := config.name
  organization := config.organization
  timeout := config.timeout
  isExternal := true
  listsMembers := config.listsMembers
  memberships _ person :=
    config.replyTo (config.get network (membershipsResource person))
      (readGroups config.organization)
  membership _ person group :=
    config.replyTo (config.get network (membershipResource person group)) fun answer =>
      (readGroups config.organization answer).map List.head?
  members _ group := config.replyTo (config.get network (membersResource group)) readMembers
  allGroups _ := { outcome := .answered [] }

end GroupFederation.Provider.Voot
