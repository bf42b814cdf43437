import GroupFederation.Provider.Failure
import GroupFederation.Xml.Event

/-!
# Answers of the group registry

An answer holds records of groups, of memberships and of persons, and says whether the call
succeeded. Each record is an element whose fields are elements with text; fields nobody knows are
passed over, and of several texts in one field the last one counts. A record is taken when its
element closes. A fault makes the whole answer a failure, and so does a call that did not succeed,
unless what it asked for was merely not found.
-/

namespace GroupFederation.Soap

structure GroupRecord where
  name : String := ""
  displayName : Option String := none
  displayExtension : Option String := none
  description : Option String := none
  deriving DecidableEq, Repr

structure MembershipRecord where
  groupName : String := ""
  listName : Option String := none
  personId : Option String := none
  deriving DecidableEq, Repr

structure PersonRecord where
  id : String := ""
  name : Option String := none
  deriving DecidableEq, Repr

/-- What an answer holds. -/
structure Results where
  groups : List GroupRecord := []
  memberships : List MembershipRecord := []
  persons : List PersonRecord := []
  success : Option Bool := none
  code : Option String := none
  fault : Option String := none
  deriving DecidableEq, Repr

namespace GroupRecord

/-- Set a field by the name of its element. -/
def set (record : GroupRecord) (field text : String) : GroupRecord :=
  match field with
  | "name" => { record with name := text }
  | "displayName" => { record with displayName := some text }
  | "displayExtension" => { record with displayExtension := some text }
  | "description" => { record with description := some text }
  | _ => record

end GroupRecord

namespace MembershipRecord

/-- Set a field by the name of its element. -/
def set (record : MembershipRecord) (field text : String) : MembershipRecord :=
  match field with
  | "groupName" => { record with groupName := text }
  | "listName" => { record with listName := some text }
  | "subjectId" => { record with personId := some text }
  | _ => record

end MembershipRecord

namespace PersonRecord

/-- Set a field by the name of its element. -/
def set (record : PersonRecord) (field text : String) : PersonRecord :=
  match field with
  | "id" => { record with id := text }
  | "name" => { record with name := some text }
  | _ => record

end PersonRecord

/-- The kinds of elements that hold records. -/
inductive RecordKind where
  | group
  | membership
  | person
  deriving DecidableEq, Repr

/-- The kind of record that an element holds. -/
def RecordKind.ofName? : String → Option RecordKind
  | "wsGroups" => some .group
  | "groupResults" => some .group
  | "wsMemberships" => some .membership
  | "wsSubjects" => some .person
  | _ => none

/-- An answer that is being read: what has been found, the names of the open elements with the
innermost one first, and the records that are not yet complete. -/
structure Reading where
  results : Results := {}
  path : List String := []
  group : Option GroupRecord := none
  membership : Option MembershipRecord := none
  person : Option PersonRecord := none
  deriving DecidableEq, Repr

namespace Reading

/-- An element opens. -/
def opening (reading : Reading) (name : String) : Reading :=
  let reading := { reading with path := name :: reading.path }
  match RecordKind.ofName? name with
  | some .group => { reading with group := some {} }
  | some .membership => { reading with membership := some {} }
  | some .person => { reading with person := some {} }
  | none => reading

/-- The innermost element closes. -/
def closing (reading : Reading) : Reading :=
  match reading.path with
  | [] => reading
  | name :: path =>
      let reading := { reading with path := path }
      let results := reading.results
      match RecordKind.ofName? name with
      | some .group =>
          { reading with
            results := { results with groups := results.groups ++ reading.group.toList }
            group := none }
      | some .membership =>
          { reading with
            results :=
              { results with memberships := results.memberships ++ reading.membership.toList }
            membership := none }
      | some .person =>
          { reading with
            results := { results with persons := results.persons ++ reading.person.toList }
            person := none }
      | none => reading

/-- A text in the innermost element. -/
def text (reading : Reading) (text : String) : Reading :=
  match reading.path with
  | field :: parent :: _ =>
      match RecordKind.ofName? parent with
      | some .group => { reading with group := reading.group.map (·.set field text) }
      | some .membership =>
          { reading with membership := reading.membership.map (·.set field text) }
      | some .person => { reading with person := reading.person.map (·.set field text) }
      | none =>
          if parent == "resultMetadata" && reading.person.isNone && reading.group.isNone then
            match field with
            | "success" =>
                { reading with results := { reading.results with success := some (text == "T") } }
            | "resultCode" =>
                { reading with results := { reading.results with code := some text } }
            | _ => reading
          else if field == "faultstring" then
            { reading with results := { reading.results with fault := some text } }
          else reading
  | _ => reading

/-- The next event; a text whose references cannot be read is an error. -/
def step (reading : Reading) : Xml.Event → Option Reading
  | .opened name => some (reading.opening name)
  | .closed => some reading.closing
  | .text content =>
      (Xml.unescape? content).map fun characters => reading.text (String.ofList characters)

end Reading

namespace Results

/-- What a sequence of events holds. -/
def ofEvents? (events : List Xml.Event) : Option Results :=
  (events.foldlM Reading.step {}).map Reading.results

/-- What the text of an answer holds. -/
def read (body : String) : Except Provider.Failure Results :=
  match (Xml.readEvents? body).bind ofEvents? with
  | some results => .ok results
  | none => .error (.decode "Invalid SOAP response")

/-- Whether a result code says that something was not found. -/
def isNotFound (code : String) : Bool :=
  Text.occursIn "NOT_FOUND".toList code.toList

/-- The results of a call that did not fail. -/
def checked (results : Results) : Except Provider.Failure Results :=
  match results.fault with
  | some fault => .error (.backend fault)
  | none =>
      let code := results.code.getD ""
      if results.success = some false ∧ isNotFound code = false then .error (.backend code)
      else .ok results

end Results

end GroupFederation.Soap
