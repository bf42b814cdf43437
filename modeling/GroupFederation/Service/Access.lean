import GroupFederation.Service.Error
import GroupFederation.Token.Verdict

/-!
# Access to the service

A caller shows a bearer token in the first `authorization` field of a request: the scheme, in any
case, a space, and the token. What the token permits is read from the verdict on it: it must be
valid and carry the scope that the service asks for, and some routes are for machine clients only.
-/

namespace GroupFederation.Access

/-- The token of an `authorization` value. Space around the value and around the token does not
count, and an empty token is none. -/
def tokenOf? (value : String) : Option String :=
  match Text.cutAt ' ' (Text.trim value).toList with
  | (scheme, some rest) =>
      let token := Text.trim (String.ofList rest)
      if Text.lower (String.ofList scheme) == "bearer" && token != "" then some token else none
  | (_, none) => none

/-- The bearer token that comes with a request. -/
def bearerToken? (headers : Http.Headers) : Option String :=
  (headers.text? "authorization").bind tokenOf?

/-- The token, or the refusal of a request without one. -/
def requireToken (headers : Http.Headers) : Except ServiceError String :=
  match bearerToken? headers with
  | some token => .ok token
  | none => .error (.unauthorized "Missing or invalid Authorization header")

/-- The verdict must be positive and carry the scope. -/
def requireScope (scope : String) (verdict : Verdict) : Except ServiceError Unit :=
  if !verdict.valid then .error (.unauthorized "Invalid or expired token")
  else if !verdict.hasScope scope then
    .error (.forbidden ("Insufficient scopes. Required: " ++ scope))
  else .ok ()

/-- The verdict that was stored with a request when its token was validated. -/
def requireVerdict : Option Verdict → Except ServiceError Verdict
  | some verdict => .ok verdict
  | none => .error (.internal (.reason "Token verdict missing from request extensions"))

/-- Only a machine client that acts on its own behalf may pass. -/
def requireClient (stored : Option Verdict) : Except ServiceError Unit :=
  match requireVerdict stored with
  | .error error => .error error
  | .ok verdict =>
      if verdict.isClientCredentials then .ok ()
      else .error (.forbidden "Endpoint requires a client credentials token")

end GroupFederation.Access
