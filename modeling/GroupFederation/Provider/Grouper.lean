import GroupFederation.Provider.Remote
import GroupFederation.Soap.Envelope
import GroupFederation.Soap.Results

/-!
# The authoritative registry

The registry knows groups by their local names, and a person may appear in several membership lists
of one group. Such a person has the most privileged of the roles that the lists stand for. A group
that is reported twice is taken once.
-/

namespace GroupFederation.Provider.Grouper

open Soap (GroupRecord MembershipRecord PersonRecord Results)

/-- The role that a membership record stands for. -/
def roleOf (record : MembershipRecord) : Role :=
  (record.listName.map Role.ofBackend).getD .member

/-- The most privileged role in a group, according to some membership records. -/
def roleIn (memberships : List MembershipRecord) (name : String) : Role :=
  (Role.highest? ((memberships.filter fun record => record.groupName == name).map roleOf)).getD
    .member

/-- Keep the first record of every name, and none without a name. -/
def firstOfEach {α : Type} (name : α → String) (seen : List String) : List α → List α
  | [] => []
  | record :: records =>
      if name record == "" || seen.contains (name record) then firstOfEach name seen records
      else record :: firstOfEach name (name record :: seen) records

/-- The group that a record stands for. -/
def toGroup (organization : String) (role : Role) (record : GroupRecord) : Group :=
  { id := Urn.leader .group organization ++ record.name
    displayName := (record.displayExtension.or record.displayName).getD record.name
    description := record.description
    organization := organization
    membership := ⟨role⟩ }

/-- The groups of an answer, each with the most privileged role. -/
def groupsOf (organization : String) (results : Results) : List Group :=
  (firstOfEach GroupRecord.name [] results.groups).map fun record =>
    toGroup organization (roleIn results.memberships record.name) record

/-- The member that a record stands for. -/
def toMember (record : PersonRecord) : Member :=
  ⟨record.id, record.name.getD record.id⟩

/-- The members of an answer. -/
def membersOf (results : Results) : List Member :=
  (firstOfEach PersonRecord.id [] results.persons).map toMember

/-- The results in an answer. A fault comes with the status of a failed request and is read all the
same. -/
def readResults (answer : Http.Answer) : Except Failure Results :=
  match answer.text? with
  | none => .error .brokenOff
  | some body =>
      if !answer.isSuccess && !Text.occursIn "Fault".toList body.toList then
        .error (.unexpectedStatus answer.status body)
      else (Results.read body).bind Results.checked

/-- The groups in an answer. -/
def readGroups (organization : String) (answer : Http.Answer) : Except Failure (List Group) :=
  (readResults answer).map (groupsOf organization)

/-- The group with a local name, among the groups in an answer. -/
def readGroup (organization localName : String) (answer : Http.Answer) :
    Except Failure (Option Group) :=
  (readGroups organization answer).map fun groups =>
    groups.find? fun group => Urn.localPart .group group.id == localName

/-- The members in an answer. -/
def readMembers (answer : Http.Answer) : Except Failure (List Member) :=
  (readResults answer).map membersOf

/-- Ask for memberships. -/
def askMemberships (network : Http.Network) (config : Config) (person group : Option String) :
    Http.Exchange :=
  config.call network "getMemberships" (Soap.membershipsRequest person group)

/-- The provider of a configuration. -/
def provider (network : Http.Network) (config : Config) : Provider where
  name := config.name
  organization := config.organization
  timeout := config.timeout
  isExternal := false
  listsMembers := config.listsMembers
  memberships _ person :=
    config.replyTo (askMemberships network config (some person) none)
      (readGroups config.organization)
  membership _ person group :=
    let localName := Urn.localPart .group group
    config.replyTo (askMemberships network config (some person) (some localName))
      (readGroup config.organization localName)
  members _ group :=
    config.replyTo (askMemberships network config none (some (Urn.localPart .group group)))
      readMembers
  allGroups _ :=
    config.replyTo (config.call network "findGroups" Soap.allGroupsRequest)
      (readGroups config.organization)

end GroupFederation.Provider.Grouper
