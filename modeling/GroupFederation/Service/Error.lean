import GroupFederation.Service.Response
import GroupFederation.ConfigError
import GroupFederation.Urn

/-!
# Service errors

Whatever goes wrong while a request is answered ends as one of a few kinds of error, each with its
own status. Callers are told the reason in a JSON object; for faults of the service itself they get
a general text, and the reason is added as a detail.
-/

namespace GroupFederation

/-- A fault of the service itself. -/
inductive Fault where
  /-- A fault with a reason in words. -/
  | reason (text : String)
  /-- A failed input or output operation of no particular kind. -/
  | inputOutput (text : String)
  deriving DecidableEq, Repr

namespace Fault

/-- The reason in words. -/
def message : Fault → String
  | .reason text => text
  | .inputOutput text => text

/-- The description for developers. -/
def detail : Fault → String
  | .reason text => Text.quoted text
  | .inputOutput text =>
      "Custom \x7b\n    kind: Other,\n    error: " ++ Text.quoted text ++ ",\n\x7d"

end Fault

/-- Why a request is not answered as asked. -/
inductive ServiceError where
  | badRequest (reason : String)
  | notFound (reason : String)
  | unauthorized (reason : String)
  | forbidden (reason : String)
  | internal (fault : Fault)
  | configuration (reason : String)
  deriving DecidableEq, Repr

namespace ServiceError

/-- A name that is not well formed is the caller's mistake. -/
def ofMalformed (refusal : Urn.Malformed) : ServiceError :=
  .badRequest refusal.message

/-- A refused configuration. -/
def ofConfigError (error : ConfigError) : ServiceError :=
  .configuration error.message

/-- The text for logs. -/
def message : ServiceError → String
  | .badRequest reason => "Bad request: " ++ reason
  | .notFound reason => "Not found: " ++ reason
  | .unauthorized reason => "Unauthorized: " ++ reason
  | .forbidden reason => "Forbidden: " ++ reason
  | .internal fault => "Internal server error: " ++ fault.message
  | .configuration reason => "Configuration error: " ++ reason

def status : ServiceError → Nat
  | .badRequest _ => 400
  | .notFound _ => 404
  | .unauthorized _ => 401
  | .forbidden _ => 403
  | .internal _ => 500
  | .configuration _ => 500

/-- What the caller is told. -/
def summary : ServiceError → String
  | .badRequest reason => reason
  | .notFound reason => reason
  | .unauthorized reason => reason
  | .forbidden reason => reason
  | .internal _ => "Internal server error"
  | .configuration _ => "Configuration error"

/-- The detail that is added for faults of the service itself. -/
def detail? : ServiceError → Option String
  | .internal fault => some fault.detail
  | .configuration reason => some reason
  | _ => none

/-- The JSON object in the body of the answer. -/
def toJson (error : ServiceError) : Json.Value :=
  Json.Value.ofMembers
    (("error", Json.Value.ofText error.summary) ::
      match error.detail? with
      | none => []
      | some detail => [("details", Json.Value.ofText detail)])

/-- The answer to the caller; a caller who is not authenticated is told how to be. -/
def response (error : ServiceError) : Service.Response :=
  let answer := Service.Response.json error.status error.toJson
  if error.status = 401 then answer.withHeader "www-authenticate" "Bearer" else answer

end ServiceError

end GroupFederation
