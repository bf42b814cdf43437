import GroupFederation.Json.Record
import GroupFederation.Json.Printer
import GroupFederation.Timestamp

/-!
# Verdicts on tokens

A verdict is what an authorization server says about a bearer token. A valid token without a
principal belongs to a machine client that acts on its own behalf.
-/

namespace GroupFederation

open Json (Value)

/-- The outcome of validating one bearer token. -/
structure Verdict where
  valid : Bool := false
  principal : Option String := none
  clientId : Option String := none
  scopes : List String := []
  organization : Option String := none
  expiresAt : Option Timestamp := none
  issuer : Option String := none
  deriving DecidableEq, Repr

namespace Verdict

/-- The verdict on a token that nobody accepts; it says nothing else. -/
def invalid : Verdict := {}

/-- Scopes are compared as they are, letter for letter. -/
def hasScope (verdict : Verdict) (scope : String) : Bool :=
  verdict.scopes.contains scope

/-- Whether the token belongs to a machine client. -/
def isClientCredentials (verdict : Verdict) : Bool :=
  verdict.principal.isNone

@[simp] theorem valid_invalid : invalid.valid = false := rfl

/-- A member for a text that is there, and none for one that is not. -/
def optionalMember (name : String) : Option String → List (String × Value)
  | none => []
  | some text => [(name, Value.ofText text)]

/-- The JSON form; what is not known is left out. -/
def toJson (verdict : Verdict) : Value :=
  Value.ofMembers
    ([("valid", .bool verdict.valid)] ++ optionalMember "principal" verdict.principal ++
      optionalMember "client_id" verdict.clientId ++
      [("scopes", .array (verdict.scopes.map Value.ofText))] ++
      optionalMember "organization" verdict.organization ++
      optionalMember "expires_at" (verdict.expiresAt.map Timestamp.text) ++
      optionalMember "issuer" verdict.issuer)

end Verdict

end GroupFederation
