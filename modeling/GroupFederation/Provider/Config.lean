import GroupFederation.ConfigError
import GroupFederation.Provider.Failure
import GroupFederation.Text.Blank

/-!
# Provider configurations

A provider entry arrives as the operator wrote it and is validated once: its kind must be known,
its name, address and organization must say something after trimming, and its timeout must not be
zero. The checks run in a fixed order and the first one that fails is reported. A list of entries
is accepted only as a whole, and with at most one authoritative provider.
-/

namespace GroupFederation.Provider

/-- The kinds of backends. -/
inductive Kind where
  /-- The authoritative registry of the home institution, asked over SOAP. -/
  | grouper
  /-- A partner with the JSON membership interface. -/
  | voot2
  /-- A partner with the OpenSocial collections of groups and people. -/
  | openSocial
  deriving DecidableEq, Repr

namespace Kind

def name : Kind → String
  | .grouper => "grouper"
  | .voot2 => "voot2"
  | .openSocial => "open_social"

/-- The name for developers. -/
def detail : Kind → String
  | .grouper => "Grouper"
  | .voot2 => "Voot2"
  | .openSocial => "OpenSocial"

/-- Partners are external; the registry is not. -/
def isExternal : Kind → Bool
  | .grouper => false
  | .voot2 => true
  | .openSocial => true

/-- The kind that an entry names, up to case and surrounding space; a word that names none is
handed back in the form in which it was compared. -/
def read (word : String) : Except String Kind :=
  let known := Text.lower (Text.trim word)
  if known = "grouper" then .ok .grouper
  else if known = "voot2" then .ok .voot2
  else if known = "open_social" ∨ known = "opensocial" then .ok .openSocial
  else .error known

end Kind

/-- The account a provider is asked with. -/
structure Credentials where
  username : String
  password : String
  deriving DecidableEq, Repr

/-- A description for logs, which does not depend on the password. -/
def Credentials.description (credentials : Credentials) : String :=
  "Credentials \x7b username: " ++ Text.quoted credentials.username ++
    ", password: \"[REDACTED]\" \x7d"

/-- A provider entry as the operator wrote it. -/
structure Entry where
  kind : String
  url : String
  username : String
  secret : String
  timeout : Nat
  organization : String
  name : String
  listsMembers : Bool := false
  deriving DecidableEq, Repr

/-- A validated provider definition; the timeout is in milliseconds. -/
structure Config where
  kind : Kind
  url : String
  credentials : Credentials
  timeout : Nat
  organization : String
  name : String
  listsMembers : Bool
  deriving DecidableEq, Repr

namespace Config

/-- An address without surrounding space and without slashes at its end. -/
def normalizeUrl (url : String) : String :=
  String.ofList (Text.dropEndWhile (· == '/') (Text.trim url).toList)

/-- Validate the fields of an entry whose kind is known. -/
def ofFields (kind : Kind) (url : String) (credentials : Credentials) (timeout : Nat)
    (organization name : String) (listsMembers : Bool) : Except ConfigError Config :=
  let trimmedName := Text.trim name
  let trimmedUrl := normalizeUrl url
  let trimmedOrganization := Text.trim organization
  if trimmedName = "" then .error (.missingField url "name")
  else if trimmedUrl = "" then .error (.missingField trimmedName "url")
  else if trimmedOrganization = "" then
    .error (.missingField trimmedName "schac_home_organization")
  else if timeout = 0 then .error (.invalidTimeout trimmedName)
  else
    .ok
      { kind := kind
        url := trimmedUrl
        credentials := credentials
        timeout := timeout
        organization := trimmedOrganization
        name := trimmedName
        listsMembers := listsMembers }

/-- What is accepted, and how it is written then. -/
theorem ofFields_eq_ok_iff {kind : Kind} {url : String} {credentials : Credentials} {timeout : Nat}
    {organization name : String} {listsMembers : Bool} {config : Config} :
    ofFields kind url credentials timeout organization name listsMembers = .ok config ↔
      Text.trim name ≠ "" ∧ normalizeUrl url ≠ "" ∧ Text.trim organization ≠ "" ∧ timeout ≠ 0 ∧
        config = ⟨kind, normalizeUrl url, credentials, timeout, Text.trim organization,
          Text.trim name, listsMembers⟩ := by
  unfold ofFields
  by_cases nameless : Text.trim name = ""
  · simp [nameless]
  by_cases nowhere : normalizeUrl url = ""
  · simp [nameless, nowhere]
  by_cases unowned : Text.trim organization = ""
  · simp [nameless, nowhere, unowned]
  by_cases impatient : timeout = 0
  · simp [nameless, nowhere, unowned, impatient]
  simp [nameless, nowhere, unowned, impatient, eq_comm]

/-- Validate an entry; its kind is looked at first. -/
def ofEntry (entry : Entry) : Except ConfigError Config :=
  match Kind.read entry.kind with
  | .error kind => .error (.unknownProviderKind entry.name kind)
  | .ok kind =>
      ofFields kind entry.url ⟨entry.username, entry.secret⟩ entry.timeout entry.organization
        entry.name entry.listsMembers

def isExternal (config : Config) : Bool :=
  config.kind.isExternal

/-- The definition in one line, without the credentials. -/
def description (config : Config) : String :=
  "ProviderConfig\x7bkind=" ++ config.kind.name ++ ", url=" ++ config.url ++ ", name=" ++
    config.name ++ ", timeout_ms=" ++ toString config.timeout ++ ", schac_home_organization=" ++
    config.organization ++ "\x7d"

/-- The description for developers, with the account but not with its password. -/
def detail (config : Config) : String :=
  "ProviderConfig \x7b kind: " ++ config.kind.detail ++ ", url: " ++ Text.quoted config.url ++
    ", credentials: " ++ config.credentials.description ++ ", timeout: " ++
    durationText config.timeout ++ ", schac_home_organization: " ++
    Text.quoted config.organization ++ ", name: " ++ Text.quoted config.name ++
    ", supports_get_members: " ++ toString config.listsMembers ++ " \x7d"

/-- Validate the entries in order, up to the first one that is refused. -/
def ofEntries : List Entry → Except ConfigError (List Config)
  | [] => .ok []
  | entry :: entries =>
      match ofEntry entry with
      | .error error => .error error
      | .ok config =>
          match ofEntries entries with
          | .error error => .error error
          | .ok configs => .ok (config :: configs)

/-- Accept a list of entries: not empty, every entry valid, at most one authoritative. -/
def acceptAll (entries : List Entry) : Except ConfigError (List Config) :=
  match entries with
  | [] => .error .noProviders
  | entries =>
      match ofEntries entries with
      | .error error => .error error
      | .ok configs =>
          let authoritative := configs.filter fun config => !config.isExternal
          if 1 < authoritative.length then
            .error (.multipleAuthoritativeProviders (authoritative.map Config.name))
          else .ok configs

end Config

end GroupFederation.Provider
