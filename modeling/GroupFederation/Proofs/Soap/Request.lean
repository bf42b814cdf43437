import GroupFederation.Proofs.Xml.Tree
import GroupFederation.Soap.Envelope

/-!
# Requests carry their arguments

A request is made by putting texts together, and the values of callers are among them. They are
written as character data, in which no markup begins, so that a request is a document whose elements
do not depend on the values: each value is the text of an element of its own, as it was given, and
stands nowhere else.
-/

namespace GroupFederation

open Xml (CharacterData Content Tag Tree)

namespace Xml

/-- A text is written with the entities for the five characters that have them. -/
theorem CharacterData.written_ofText (text : List Char) :
    (ofText text).written = text.flatMap escapeChar := by
  rw [written, ofText, List.flatMap_map]
  congr 1
  funext character
  by_cases less : character = '<'
  · subst less; rfl
  by_cases ampersand : character = '&'
  · subst ampersand; rfl
  by_cases greater : character = '>'
  · subst greater; rfl
  by_cases apostrophe : character = '\''
  · subst apostrophe; rfl
  by_cases quote : character = '"'
  · subst quote; rfl
  have plain : escapeChar character = [character] := by
    unfold escapeChar
    split
    · exact absurd rfl less
    · exact absurd rfl greater
    · exact absurd rfl ampersand
    · exact absurd rfl apostrophe
    · exact absurd rfl quote
    · rfl
  rw [plain, dif_neg less, dif_neg ampersand, if_neg greater, if_neg apostrophe, if_neg quote]
  rfl

end Xml

namespace Soap

/-! ## Requests as documents -/

/-- An element of the operations in front of other content. -/
def operand (name : String) (inner after : Content)
    (isName : Xml.IsName name.toList := by decide) : Content :=
  .element [] (.named (.ofText name isName) (some (.ofText "xsd"))) inner after

/-- An element with a value as its text. -/
def operandText (name value : String) (after : Content)
    (isName : Xml.IsName name.toList := by decide) : Content :=
  operand name (.text (.ofText value.toList)) after isName

/-- An element around the element of a value, if there is one. -/
def operandLookup (name field : String) (value : Option String) (after : Content)
    (isName : Xml.IsName name.toList := by decide)
    (isField : Xml.IsName field.toList := by decide) : Content :=
  match value with
  | some value => operand name (operandText field value (.text []) isField) after isName
  | none => after

theorem isName_envelope : Xml.IsName "Envelope".toList := by decide

theorem isName_groupName : Xml.IsName "groupName".toList := by decide

theorem isName_subjectId : Xml.IsName "subjectId".toList := by decide

theorem one_ne_nil : Xml.Blank.one.characters ≠ [] := by decide

/-- The tag of the envelope, with the names of the two namespaces. -/
def envelopeTag : Tag :=
  .named (.ofText "Envelope" isName_envelope) (some (.ofText "soapenv"))
    [{ before_ne_nil := one_ne_nil
       name := ⟨some (.ofText "xmlns"), .ofText "soapenv"⟩
       value := "http://schemas.xmlsoap.org/soap/envelope/".toList
       mark_not_mem := by decide },
      { before_ne_nil := one_ne_nil
        name := ⟨some (.ofText "xmlns"), .ofText "xsd"⟩
        value := "http://soap_v2_2.ws.grouper.middleware.internet2.edu/xsd".toList
        mark_not_mem := by decide }]

/-- An envelope around the content of an operation. -/
def envelopeContent (operation : Content) : Content :=
  .element [] envelopeTag
    (.skipped [] (.empty (.named (.ofText "Header") (some (.ofText "soapenv")))) <|
      .element [] (.named (.ofText "Body") (some (.ofText "soapenv"))) operation (.text []))
    (.text [])

/-- The group whose memberships are asked for. -/
def groupOperand (group : Option String) (after : Content) : Content :=
  operandLookup "wsGroupLookups" "groupName" group after (by decide) isName_groupName

/-- The person whose memberships are asked for. -/
def personOperand (person : Option String) (after : Content) : Content :=
  operandLookup "wsSubjectLookups" "subjectId" person after (by decide) isName_subjectId

/-- The request for memberships as a document. -/
def membershipsContent (person group : Option String) : Content :=
  envelopeContent <|
    operand "getMemberships"
      (operandText "clientVersion" "v2_2_000" <|
        groupOperand group <| personOperand person <|
        operandText "memberFilter" "All" <| operandText "includeGroupDetail" "F" <|
        operandText "includeSubjectDetail" "T" <| operandText "enabled" "T" <| .text [])
      (.text [])

section Writing

variable {name field : String} {isName : Xml.IsName name.toList}
  {isField : Xml.IsName field.toList}

theorem written_operand (inner after : Content) :
    (operand name inner after isName).written =
      "<xsd:".toList ++ (name.toList ++ '>' :: (inner.written ++
        ("</xsd:".toList ++ (name.toList ++ '>' :: after.written)))) := by
  simp [operand, Content.written, Tag.named, Tag.opening, Tag.closing, Xml.Name.ofText,
    Xml.QualifiedName.written, CharacterData.written, Xml.Blank.none]

theorem toList_element (content : String) :
    (element name content).toList =
      "<xsd:".toList ++ (name.toList ++ '>' :: (content.toList ++
        ("</xsd:".toList ++ (name.toList ++ ['>'])))) := by
  have bracket : ">".toList = ['>'] := rfl
  simp only [element, String.toList_append, List.append_assoc, bracket, List.cons_append,
    List.nil_append]

theorem written_operandText (value : String) (after : Content) :
    (operandText name value after isName).written =
      (element name (Xml.escape value)).toList ++ after.written := by
  rw [operandText, written_operand, toList_element, Content.written,
    CharacterData.written_ofText, Xml.escape, String.toList_ofList]
  simp

theorem written_operandLookup (value : Option String) (after : Content) :
    (operandLookup name field value after isName isField).written =
      (match value with
        | some value => Soap.lookup name field value
        | none => "").toList ++ after.written := by
  cases value with
  | none => rfl
  | some value =>
      rw [operandLookup, written_operand, written_operandText]
      simp only [Soap.lookup, toList_element]
      simp [Content.written, CharacterData.written]

/-- What stands in an envelope in front of the operation. -/
def envelopeFront : String :=
  "<soapenv:Envelope xmlns:soapenv=\"http://schemas.xmlsoap.org/soap/envelope/\" " ++
    "xmlns:xsd=\"http://soap_v2_2.ws.grouper.middleware.internet2.edu/xsd\">" ++
    "<soapenv:Header/><soapenv:Body>"

theorem written_envelopeContent (operation : Content) :
    (envelopeContent operation).written =
      envelopeFront.toList ++
        (operation.written ++ "</soapenv:Body></soapenv:Envelope>".toList) := by
  have front : envelopeFront.toList =
      '<' :: (envelopeTag.opening ++ '>' :: '<' ::
        ((Xml.Aside.empty (.named (.ofText "Header") (some (.ofText "soapenv")))).written ++
          '<' :: ((Tag.named (.ofText "Body") (some (.ofText "soapenv"))).opening ++ ['>']))) := by
    decide +kernel
  rw [front]
  simp only [envelopeContent, Content.written, List.cons_append, List.append_assoc]
  congr

/-- A request is written as the document that it stands for. -/
theorem toList_membershipsRequest (person group : Option String) :
    (membershipsRequest person group).toList = (membershipsContent person group).written := by
  have version : Xml.escape "v2_2_000" = "v2_2_000" := by decide
  have all : Xml.escape "All" = "All" := by decide
  have no : Xml.escape "F" = "F" := by decide
  have yes : Xml.escape "T" = "T" := by decide
  rw [membershipsContent, written_envelopeContent, written_operand]
  simp only [groupOperand, personOperand, written_operandText, written_operandLookup, version, all,
    no, yes]
  unfold membershipsRequest envelope
  change (envelopeFront ++ element "getMemberships" _ ++ _).toList = _
  rw [String.toList_append, String.toList_append, toList_element]
  cases person <;> cases group <;>
    simp only [String.toList_append, List.append_assoc, List.cons_append, List.nil_append,
      Content.written, CharacterData.written, List.flatMap_nil]

end Writing

/-! ## What a request says -/

/-- An element with a value as its text, in front of a tree. -/
def saying (name value : String) (rest : Tree) : Tree :=
  .element name (.ofText value.toList .nil) rest

/-- An element around the element of a value, if there is one, in front of a tree. -/
def sayingLookup (name field : String) (value : Option String) (rest : Tree) : Tree :=
  match value with
  | some value => .element name (saying field value .nil) rest
  | none => rest

/-- What the request for memberships says. -/
def membershipsTree (person group : Option String) : Tree :=
  .element "Envelope"
    (.element "Header" .nil <| .element "Body"
      (.element "getMemberships"
        (saying "clientVersion" "v2_2_000" <|
          sayingLookup "wsGroupLookups" "groupName" group <|
          sayingLookup "wsSubjectLookups" "subjectId" person <|
          saying "memberFilter" "All" <| saying "includeGroupDetail" "F" <|
          saying "includeSubjectDetail" "T" <| saying "enabled" "T" .nil)
        .nil)
      .nil)
    .nil

section Saying

variable {name field : String} {isName : Xml.IsName name.toList}
  {isField : Xml.IsName field.toList}

theorem before_operand (inner after : Content) (rest : Tree) :
    (operand name inner after isName).before rest =
      .element name (inner.before .nil) (after.before rest) := by
  rw [operand, Content.before, Tag.localName_named_ofText]
  rfl

theorem before_operandText (value : String) (after : Content) (rest : Tree) :
    (operandText name value after isName).before rest = saying name value (after.before rest) := by
  rw [operandText, before_operand, Content.before, CharacterData.meaning_ofText, saying]

theorem before_operandLookup (value : Option String) (after : Content) (rest : Tree) :
    (operandLookup name field value after isName isField).before rest =
      sayingLookup name field value (after.before rest) := by
  cases value with
  | none => rfl
  | some value =>
      rw [operandLookup, before_operand, before_operandText, sayingLookup]
      rfl

theorem meaning_membershipsContent (person group : Option String) :
    (membershipsContent person group).meaning = membershipsTree person group := by
  have named (name : String) (isName : Xml.IsName name.toList) (qualifier : Option Xml.Name)
      (attributes : List Xml.Attribute) :
      (Tag.named (.ofText name isName) qualifier attributes).localName = name :=
    Tag.localName_named_ofText isName qualifier attributes
  simp only [Content.meaning, membershipsContent, groupOperand, personOperand, envelopeContent,
    envelopeTag, Content.before, Xml.Aside.before, before_operand, before_operandText,
    before_operandLookup, named]
  rfl

end Saying

/-! ### What depends on the values -/

/-- Which elements there are depends on which values there are, and not on the values. -/
theorem shape_membershipsTree {person group person' group' : Option String}
    (samePerson : person.isSome = person'.isSome) (sameGroup : group.isSome = group'.isSome) :
    (membershipsTree person group).shape = (membershipsTree person' group').shape := by
  have saying (name value : String) (rest : Tree) :
      (saying name value rest).shape = .element name .nil rest.shape := by
    simp [Soap.saying, Tree.shape]
  have lookup (name field : String) {value value' : Option String}
      (same : value.isSome = value'.isSome) {rest rest' : Tree}
      (sameRest : rest.shape = rest'.shape) :
      (sayingLookup name field value rest).shape =
        (sayingLookup name field value' rest').shape := by
    cases value <;> cases value' <;> simp_all [sayingLookup, Tree.shape]
  simp only [membershipsTree, Tree.shape, saying]
  rw [lookup "wsGroupLookups" "groupName" sameGroup
    (lookup "wsSubjectLookups" "subjectId" samePerson rfl)]

/-- Where the elements of an operation are. -/
def operationPath : List String :=
  ["Envelope", "Body", "getMemberships"]

theorem textsAt_membershipsTree (person group : Option String) :
    (membershipsTree person group).textsAt (operationPath ++ ["wsGroupLookups", "groupName"]) =
        group.toList ∧
      (membershipsTree person group).textsAt (operationPath ++ ["wsSubjectLookups", "subjectId"]) =
        person.toList := by
  cases person <;> cases group <;>
    simp [membershipsTree, operationPath, Tree.textsAt, saying, sayingLookup, Tree.text]

/-! ## Requests are read back -/

theorem tree?_membershipsRequest (person group : Option String) :
    Xml.tree? (membershipsRequest person group) = some (membershipsTree person group) := by
  have unmarked : (membershipsContent person group).written.head? ≠ some '\ufeff' := by
    have first : (membershipsContent person group).written.head? = some '<' := rfl
    rw [first]
    decide
  have same : membershipsRequest person group =
      String.ofList (membershipsContent person group).written := by
    rw [← toList_membershipsRequest, String.ofList_toList]
  rw [same, Xml.tree?_written _ unmarked, meaning_membershipsContent]

/-- A request for memberships is a document, whatever the values are. A person and a group have one
element each, exactly if they are given, and its text is the value as it was given. Which elements
there are depends on which of the two are given and on nothing else, so that no value opens, closes
or adds an element; and requests for different values are different. -/
theorem membershipsRequest_carries_values :
    (∀ person group,
      Xml.tree? (membershipsRequest person group) = some (membershipsTree person group) ∧
      (membershipsTree person group).textsAt (operationPath ++ ["wsGroupLookups", "groupName"]) =
        group.toList ∧
      (membershipsTree person group).textsAt (operationPath ++ ["wsSubjectLookups", "subjectId"]) =
        person.toList) ∧
    (∀ person group person' group' : Option String, person.isSome = person'.isSome →
      group.isSome = group'.isSome →
        (membershipsTree person group).shape = (membershipsTree person' group').shape) ∧
    ∀ person group person' group',
      membershipsRequest person group = membershipsRequest person' group' →
        person = person' ∧ group = group' := by
  refine ⟨fun person group => ?_, fun person group person' group' samePerson sameGroup => ?_,
    fun person group person' group' same => ?_⟩
  · exact ⟨tree?_membershipsRequest person group, textsAt_membershipsTree person group⟩
  · exact shape_membershipsTree samePerson sameGroup
  · have sameTree : membershipsTree person group = membershipsTree person' group' := by
      apply Option.some.inj
      rw [← tree?_membershipsRequest, ← tree?_membershipsRequest, same]
    obtain ⟨groupText, personText⟩ := textsAt_membershipsTree person group
    obtain ⟨groupText', personText'⟩ := textsAt_membershipsTree person' group'
    rw [sameTree, groupText'] at groupText
    rw [sameTree, personText'] at personText
    have ofList (value value' : Option String) (same : value.toList = value'.toList) :
        value = value' := by
      rw [← Option.head?_toList (o := value), same, Option.head?_toList]
    exact ⟨ofList _ _ personText.symm, ofList _ _ groupText.symm⟩

end Soap

end GroupFederation
