import GroupFederation.Http.Headers
import GroupFederation.Http.Url
import GroupFederation.Text.Charset

/-!
# Networks

A network is what becomes of each request that is put on it: the request gets nowhere, its server
hangs up or keeps silent, or an answer comes back after some time. An answer may break off before
its announced end.
-/

namespace GroupFederation.Http

/-- A request on its way to a server. -/
structure Request where
  method : String
  url : Url
  headers : Headers
  body : String := ""
  deriving DecidableEq, Repr

/-- The answer of a server. -/
structure Answer where
  status : Nat
  headers : Headers
  body : Text.Bytes
  /-- Whether all of the announced body arrived. -/
  isComplete : Bool := true
  deriving DecidableEq, Repr

namespace Answer

/-- Whether the status says that the request was carried out. -/
def isSuccess (answer : Answer) : Bool :=
  200 ≤ answer.status && answer.status ≤ 299

/-- The body as text in the character set that the answer names; there is none for an answer that
broke off. -/
def text? (answer : Answer) : Option String :=
  if answer.isComplete then
    let charset := (answer.headers.first? "content-type").bind Text.Charset.ofMediaType?
    some ((charset.getD .utf8).decode answer.body)
  else none

end Answer

/-- What becomes of a request; delays are in milliseconds. -/
inductive Delivery where
  /-- No server is reached. -/
  | unreachable
  /-- The server takes the request and hangs up. -/
  | dropped (delay : Nat)
  /-- The server takes the request and never answers. -/
  | silent
  | answered (delay : Nat) (answer : Answer)
  deriving DecidableEq, Repr

/-- What becomes of every request. -/
abbrev Network := Request → Delivery

/-- The network on which no server is reached. -/
def Network.unplugged : Network := fun _ => .unreachable

end GroupFederation.Http
