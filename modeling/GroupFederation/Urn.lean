/-!
# Person and group names

People and groups are known across organizations by a URN: a fixed namespace, the organization, a
colon, and a name local to that organization. The organization is not empty and holds no colon;
the local name is not empty and stays on one line. Everything that asks about a name goes through
`Urn.split?`, and `Urn.render` puts the two parts together again.
-/

namespace GroupFederation

/-- The two families of names. -/
inductive Namespace where
  | person
  | group
  deriving DecidableEq, Repr

/-- The text every name of the family starts with. -/
def Namespace.text : Namespace → String
  | .person => "urn:collab:person:"
  | .group => "urn:collab:group:"

/-- The parts of a fully qualified name behind its namespace. -/
structure Urn where
  organization : String
  localName : String
  deriving DecidableEq, Repr

namespace Urn

/-- What every name of an organization starts with. -/
def leader (family : Namespace) (organization : String) : String :=
  family.text ++ organization ++ ":"

/-- The fully qualified name with the given parts. -/
def render (family : Namespace) (urn : Urn) : String :=
  leader family urn.organization ++ urn.localName

/-- The organization is everything up to the first colon behind the namespace. -/
def splitParts? (rest : List Char) : Option Urn :=
  match rest.dropWhile (· != ':') with
  | [] => none
  | _ :: localName =>
      let organization := rest.takeWhile (· != ':')
      if organization.isEmpty || localName.isEmpty || localName.contains '\n' then none
      else some ⟨String.ofList organization, String.ofList localName⟩

/-- The parts of a fully qualified name of the family, and nothing for any other text. -/
def split? (family : Namespace) (text : String) : Option Urn :=
  (family.text.toList.isPrefixOf? text.toList).bind splitParts?

/-- Whether the text is a fully qualified name of the family. -/
def isQualified (family : Namespace) (text : String) : Bool :=
  (split? family text).isSome

/-- The organization that the name belongs to. -/
def organization? (family : Namespace) (text : String) : Option String :=
  (split? family text).map Urn.organization

/-- The local name; a text that is not fully qualified is its own local name. -/
def localPart (family : Namespace) (text : String) : String :=
  match split? family text with
  | some urn => urn.localName
  | none => text

/-- A text that claims to be a URN but is not a fully qualified group name. -/
def isMalformedGroup (text : String) : Bool :=
  "urn:".toList.isPrefixOf text.toList && !isQualified .group text

/-- Why a text is refused as a name of a family. -/
structure Malformed where
  family : Namespace
  text : String
  deriving DecidableEq, Repr

/-- The form that names of the family have, as it is shown to callers. -/
def pattern (family : Namespace) : String :=
  "^" ++ family.text ++ "([^:]+):(.+)$"

/-- The wording of a refusal. -/
def Malformed.message (refusal : Malformed) : String :=
  let kind := match refusal.family with
    | .person => "person-urn"
    | .group => "group-urn"
  refusal.text ++ " is not a valid " ++ kind ++ ". Values must adhere to regexp: " ++
    pattern refusal.family

/-- Accept a fully qualified group name as it is. -/
def requireGroup (text : String) : Except Malformed String :=
  if isQualified .group text then .ok text else .error ⟨.group, text⟩

/-- The organization of a fully qualified person name. -/
def requirePerson (text : String) : Except Malformed String :=
  match organization? .person text with
  | some organization => .ok organization
  | none => .error ⟨.person, text⟩

theorem split?_eq_none_of_not_isQualified {family : Namespace} {text : String}
    (unqualified : isQualified family text = false) : split? family text = none := by
  simpa [isQualified] using unqualified

theorem localPart_of_not_isQualified {family : Namespace} {text : String}
    (unqualified : isQualified family text = false) : localPart family text = text := by
  simp [localPart, split?_eq_none_of_not_isQualified unqualified]

end Urn

end GroupFederation
