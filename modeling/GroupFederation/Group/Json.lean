import GroupFederation.Group
import GroupFederation.Json.Record
import GroupFederation.Json.Printer

/-!
# The JSON form of groups and members

A group is an object with the members `id`, `displayName`, `description`, `schacHomeOrganization`
and `membership`; a description that is not there is left out. A role is its name, and may also be
read from an object whose only member has that name and is null.
-/

namespace GroupFederation

open Json (Value Slot)

namespace Role

def toJson (role : Role) : Value :=
  Value.ofText role.name

def ofJson? : Value → Option Role
  | .string literal => literal.text?.bind ofName?
  | .object [(name, .null)] => name.text?.bind ofName?
  | _ => none

@[simp] theorem ofJson?_toJson (role : Role) : ofJson? role.toJson = some role := by
  simp [toJson, Value.ofText, ofJson?]

end Role

namespace Membership

def fields : List (List String) :=
  [["basic"]]

def toJson (membership : Membership) : Value :=
  Value.ofMembers [("basic", membership.basic.toJson)]

def ofJson? (value : Value) : Option Membership :=
  match Slot.read? fields value with
  | some [basic] => (basic.required Role.ofJson?).map Membership.mk
  | _ => none

end Membership

namespace Group

def fields : List (List String) :=
  [["id"], ["displayName"], ["description"], ["schacHomeOrganization"], ["membership"]]

def toJson (group : Group) : Value :=
  Value.ofMembers
    ([("id", Value.ofText group.id), ("displayName", Value.ofText group.displayName)] ++
      (match group.description with
        | none => []
        | some description => [("description", Value.ofText description)]) ++
      [("schacHomeOrganization", Value.ofText group.organization),
        ("membership", group.membership.toJson)])

def ofJson? (value : Value) : Option Group :=
  match Slot.read? fields value with
  | some [id, displayName, description, organization, membership] => do
      some
        { id := ← id.required Value.text?
          displayName := ← displayName.required Value.text?
          description := ← description.optional Value.text?
          organization := ← organization.required Value.text?
          membership := ← membership.required Membership.ofJson? }
  | _ => none

end Group

namespace Member

def fields : List (List String) :=
  [["id"], ["displayName"]]

def toJson (member : Member) : Value :=
  Value.ofMembers
    [("id", Value.ofText member.id), ("displayName", Value.ofText member.displayName)]

def ofJson? (value : Value) : Option Member :=
  match Slot.read? fields value with
  | some [id, displayName] => do
      some
        { id := ← id.required Value.text?
          displayName := ← displayName.required Value.text? }
  | _ => none

end Member

end GroupFederation
