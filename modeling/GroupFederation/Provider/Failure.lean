/-!
# Failed provider calls

A call fails because the backend cannot be reached, does not answer in time, answers with a status
or a text that makes no sense, or reports a failure of its own. Only the second kind is counted as
a timeout.
-/

namespace GroupFederation.Provider

/-- A duration in its largest unit: seconds with the digits that are needed, or milliseconds. -/
def durationText (milliseconds : Nat) : String :=
  if milliseconds = 0 then "0ns"
  else if milliseconds < 1000 then toString milliseconds ++ "ms"
  else
    let rest := milliseconds % 1000
    let digits := [rest / 100, rest / 10 % 10, rest % 10]
    let significant := (digits.reverse.dropWhile (· == 0)).reverse
    toString (milliseconds / 1000) ++
      (if significant.isEmpty then "" else "." ++ String.join (significant.map toString)) ++ "s"

/-- Why a call has no result; a timeout is in milliseconds. -/
inductive Failure where
  | connection (reason : String)
  | timeout (limit : Nat)
  | unexpectedStatus (status : Nat) (body : String)
  | decode (reason : String)
  | backend (reason : String)
  deriving DecidableEq, Repr

namespace Failure

def message : Failure → String
  | .connection reason => "Connection error: " ++ reason
  | .timeout limit => "Request timed out after " ++ durationText limit
  | .unexpectedStatus status body => "Unexpected status " ++ toString status ++ ": " ++ body
  | .decode reason => "Decode error: " ++ reason
  | .backend reason => "Backend reported failure: " ++ reason

/-- The label under which the call is counted. -/
def outcome : Failure → String
  | .timeout _ => "timeout"
  | _ => "error"

end Failure

end GroupFederation.Provider
