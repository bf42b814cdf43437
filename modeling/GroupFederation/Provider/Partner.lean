import GroupFederation.Json.Record
import GroupFederation.Provider.Remote

/-!
# External partners

External partners answer in JSON. A resource that is not found holds nothing. Where a list is
expected an answer may also be a single item, and an answer of nothing but space is an empty list.
Names travel in their local form; a partner's own names become fully qualified ones unless they
are already.
-/

namespace GroupFederation.Provider

namespace Partner

open Json (Value)

variable {α : Type}

/-- The content of an answer; a resource that is not found has none. -/
def content (answer : Http.Answer) : Except Failure (Option String) :=
  if answer.status = 404 then .ok none
  else if !answer.isSuccess then
    .error (.unexpectedStatus answer.status (answer.text?.getD ""))
  else match answer.text? with
    | some text => .ok (some text)
    | none => .error .brokenOff

/-- The items of a list or a single item, when the value can be taken over as a whole. -/
def items? (decode : Value → Option α) (depth : Nat) (value : Value) : Option (List α) :=
  if value.isTransferable depth then Json.oneOrMany decode value else none

/-- The items in a text. -/
def lenientList? (decode : Value → Option α) (body : String) : Option (List α) :=
  if Text.isBlankText body then some []
  else (Json.read body).bind (items? decode 0)

/-- A decoded body, or the failure of one that cannot be decoded. -/
def decoded (result : Option α) : Except Failure α :=
  match result with
  | some value => .ok value
  | none => .error (.decode "unexpected content")

/-- The fully qualified name of a partner's group. -/
def qualify (organization id : String) : String :=
  if Urn.isQualified .group id then id else Urn.leader .group organization ++ id

/-- A group as a partner reports it. -/
structure GroupItem where
  id : String
  displayName : Option String
  description : Option String
  role : Option String
  deriving DecidableEq, Repr

/-- The group that a partner's item stands for. -/
def GroupItem.toGroup (item : GroupItem) (organization : String) : Group :=
  { id := qualify organization item.id
    displayName := item.displayName.getD item.id
    description := item.description
    organization := organization
    membership := ⟨(item.role.map Role.ofBackend).getD .member⟩ }

/-- A member as a partner reports it. -/
structure MemberItem where
  id : String
  displayName : Option String
  deriving DecidableEq, Repr

/-- The member that a partner's item stands for. -/
def MemberItem.toMember (item : MemberItem) : Member :=
  ⟨item.id, item.displayName.getD item.id⟩

/-- The item of a JSON value. -/
def MemberItem.ofJson? (value : Value) : Option MemberItem :=
  match Json.Slot.read? [["id"], ["displayName", "name"]] value with
  | some [id, displayName] => do
      some
        { id := ← id.required Value.text?
          displayName := ← displayName.lenient Value.text? }
  | _ => none

/-- A local name of a person as a path segment. -/
def personSegment (person : String) : String :=
  Text.Percent.encodeSegment (Urn.localPart .person person)

/-- A local name of a group as a path segment. -/
def groupSegment (group : String) : String :=
  Text.Percent.encodeSegment (Urn.localPart .group group)

end Partner

end GroupFederation.Provider
