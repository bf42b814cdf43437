import GroupFederation.Http.Network
import GroupFederation.Token.Verdict

/-!
# Token validators

A validator is one authorization server. Asked about a token, it gives a verdict after some delay,
or it cannot be asked. What it says may depend on everything it was asked before.
-/

namespace GroupFederation.Token

/-- Why a validator gives no verdict. -/
inductive Failure where
  | connection
  | unexpectedStatus (status : Nat) (body : String)
  | decode
  deriving DecidableEq, Repr

/-- What an unexpected status is reported as; the other failures have no text of their own. -/
def Failure.message? : Failure → Option String
  | .unexpectedStatus status body =>
      some ("Unexpected status " ++ toString status ++ ": " ++ body)
  | _ => none

/-- The outcome of asking a validator: its delay in milliseconds, the verdict or the failure, and
the requests that were sent. -/
structure Appraisal where
  delay : Nat := 0
  result : Except Failure Verdict
  sent : List Http.Request := []

/-- An authorization server. -/
structure Validator where
  name : String
  appraise : (earlier : List String) → (token : String) → Appraisal

end GroupFederation.Token
