import GroupFederation.ConfigError
import GroupFederation.Http.Client
import GroupFederation.Json.Record
import GroupFederation.Text.Base64
import GroupFederation.Token.Validator
import GroupFederation.Urn

/-!
# Token introspection

An authorization server is asked about a token by sending it in a form to the server's
introspection address, together with an account of its own. Its answer says whether the token is
active; of an active token it may say whom it belongs to, which client it was given to, its scopes,
an organization, and when it ends. A token whose subject is its own client belongs to that client
and to nobody else.
-/

namespace GroupFederation.Token

open Json (Value)

/-- An authorization server as the operator wrote it; the timeout is in milliseconds. -/
structure ServerEntry where
  name : String
  url : String
  clientId : String
  secret : String
  timeout : Nat
  deriving DecidableEq, Repr

namespace ServerEntry

/-- An entry has to have an address. -/
def check (entry : ServerEntry) : Except ConfigError Unit :=
  if Text.isBlankText entry.url then .error (.missingValidatorUrl entry.name) else .ok ()

/-- Check all entries, up to the first one that is refused. -/
def checkAll : List ServerEntry → Except ConfigError Unit
  | [] => .ok ()
  | entry :: entries =>
      match entry.check with
      | .error error => .error error
      | .ok _ => checkAll entries

end ServerEntry

/-- What an authorization server says about a token. -/
structure Introspection where
  isActive : Bool
  subject : Option String
  userName : Option String
  scopes : Option (List String)
  clientId : Option String
  organization : Option String
  expiry : Option Int
  deriving DecidableEq, Repr

namespace Introspection

/-- Scopes are a list of texts, or one text with space between them. -/
def scopes? (value : Value) : Option (List String) :=
  if !value.isTransferable 1 then none
  else match value with
    | .string literal => literal.text?.map Text.words
    | .array items => items.mapM Value.text?
    | _ => none

/-- A whole number of seconds in 64 bits, with a sign. -/
def seconds? : Value → Option Int
  | .number number => number.integer?.filter fun seconds => seconds < Int.pow 2 63
  | _ => none

/-- The names of the organization field. -/
def organizationNames : List String :=
  ["schac_home_organization", "schacHomeOrganization", "schac_home"]

def fields : List (List String) :=
  [["active"], ["sub"], ["user_name"], ["scope"], ["client_id"], organizationNames, ["exp"]]

/-- What a JSON value says; nothing has to be given. -/
def ofJson? (value : Value) : Option Introspection :=
  match Json.Slot.read? fields value with
  | some [active, subject, userName, scopes, clientId, organization, expiry] => do
      some
        { isActive := ← active.withDefault false Value.truth?
          subject := ← subject.lenient Value.text?
          userName := ← userName.lenient Value.text?
          scopes := ← scopes.lenient scopes?
          clientId := ← clientId.lenient Value.text?
          organization := ← organization.lenient Value.text?
          expiry := ← expiry.lenient seconds? }
  | _ => none

/-- Whom the token belongs to: its user, or else its subject unless that is the client itself. -/
def principal (introspection : Introspection) : Option String :=
  introspection.userName.or
    (introspection.subject.filter fun subject => introspection.clientId != some subject)

/-- The verdict on the token. An organization that is not given is read from a principal that
names one. -/
def verdict (introspection : Introspection) (issuer : String) : Verdict :=
  if !introspection.isActive then .invalid
  else
    { valid := true
      principal := introspection.principal
      clientId := introspection.clientId
      scopes := introspection.scopes.getD []
      organization := introspection.organization.or
        (introspection.principal.bind (Urn.organization? .person))
      expiresAt := introspection.expiry.bind Timestamp.ofSeconds?
      issuer := some issuer }

/-- The verdict in the bytes of an answer. -/
def readVerdict? (issuer : String) (body : Text.Bytes) : Option Verdict :=
  ((Json.readSource (Text.Utf8.decode body)).bind ofJson?).map fun introspection =>
    introspection.verdict issuer

/-- The verdict in an answer. -/
def readAnswer (issuer : String) (answer : Http.Answer) : Except Failure Verdict :=
  if !answer.isSuccess then
    .error (.unexpectedStatus answer.status (answer.text?.getD ""))
  else if !answer.isComplete then .error .decode
  else match readVerdict? issuer answer.body with
    | some verdict => .ok verdict
    | none => .error .decode

end Introspection

namespace ServerEntry

/-- The headers of a request; an account in the address is shown beside the server's own. -/
def headers (entry : ServerEntry) (url : Http.Url) : Http.Headers :=
  let accounts := url.account.toList ++ [(entry.clientId, entry.secret)]
  ⟨accounts.map (fun (name, password) =>
      ("authorization", Text.Base64.basicAuthorization name password)) ++
    [("accept", "application/json"), ("content-type", "application/x-www-form-urlencoded")]⟩

/-- Send a token to the server. -/
def send (entry : ServerEntry) (network : Http.Network) (token : String) : Http.Exchange :=
  Http.Client.send { network := network, limit := entry.timeout } "POST" (Text.trim entry.url)
    entry.headers (Text.Percent.encodeForm [("token", token)])

/-- The validator of an authorization server. -/
def validator (entry : ServerEntry) (network : Http.Network) : Validator where
  name := entry.name
  appraise _ token :=
    let exchange := entry.send network token
    { delay := exchange.elapsed
      result := match exchange.result with
        | .error _ => .error .connection
        | .ok answer => Introspection.readAnswer entry.name answer
      sent := exchange.arrived }

end ServerEntry

end GroupFederation.Token
