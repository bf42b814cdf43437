import GroupFederation.Xml.Escape

/-!
# Requests to the group registry

The registry is asked with small envelopes. One operation asks for memberships, of a person, of a
group, or of a person in a group; the other one asks for all groups. Values of callers appear only
as character data, so that an envelope has the same elements whatever the values are.
-/

namespace GroupFederation.Soap

/-- An element with a prefixed name around its content. -/
def element (name content : String) : String :=
  "<xsd:" ++ name ++ ">" ++ content ++ "</xsd:" ++ name ++ ">"

/-- An envelope around the parameters of an operation. -/
def envelope (operation parameters : String) : String :=
  "<soapenv:Envelope xmlns:soapenv=\"http://schemas.xmlsoap.org/soap/envelope/\" " ++
    "xmlns:xsd=\"http://soap_v2_2.ws.grouper.middleware.internet2.edu/xsd\">" ++
    "<soapenv:Header/><soapenv:Body>" ++
    element operation (element "clientVersion" "v2_2_000" ++ parameters) ++
    "</soapenv:Body></soapenv:Envelope>"

/-- A look-up element around one value. -/
def lookup (name field value : String) : String :=
  element name (element field (Xml.escape value))

/-- Ask for the memberships of a person, of a group, or of both. -/
def membershipsRequest (person group : Option String) : String :=
  envelope "getMemberships"
    ((match group with
      | some group => lookup "wsGroupLookups" "groupName" group
      | none => "") ++
    (match person with
      | some person => lookup "wsSubjectLookups" "subjectId" person
      | none => "") ++
    element "memberFilter" "All" ++ element "includeGroupDetail" "F" ++
    element "includeSubjectDetail" "T" ++ element "enabled" "T")

/-- Ask for all groups. -/
def allGroupsRequest : String :=
  envelope "findGroups"
    (element "wsQueryFilter"
        (element "queryFilterType" "FIND_BY_STEM_NAME" ++ element "stemName" ":" ++
          element "stemNameScope" "ALL_IN_SUBTREE") ++
      element "includeGroupDetail" "F")

end GroupFederation.Soap
