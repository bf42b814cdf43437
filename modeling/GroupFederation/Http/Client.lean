import GroupFederation.Http.Network
import GroupFederation.Trace.Context

/-!
# Web client

The client puts a request on the network, follows redirections, and waits no longer than its limit
for the last answer. A redirection to another server does not take the credentials along; one that
changes the method to `GET` leaves the body behind. After ten redirections the client gives up.
-/

namespace GroupFederation.Http

/-- Why there is no answer. -/
inductive Trouble where
  | connection
  | timeout
  deriving DecidableEq, Repr

/-- How a request and its redirections went. -/
structure Exchange where
  elapsed : Nat
  /-- The requests that reached a server, in order. -/
  arrived : List Request
  result : Except Trouble Answer

/-- A client with its network, its time limit in milliseconds, and the span it works for. -/
structure Client where
  network : Network
  limit : Nat
  span : Option Trace.SpanContext := none

/-- Where an answer leads. -/
inductive Redirection where
  /-- The answer is final. -/
  | none
  /-- The answer leads to something that is no web server. -/
  | nowhere
  | next (request : Request)

namespace Request

/-- The same request at another address, where it may have to do without its credentials. -/
def movedTo (request : Request) (url : Url) : Request :=
  let isSameServer := url.host == request.url.host && url.port == request.url.port
  { request with
    url := url
    headers := if isSameServer then request.headers else request.headers.erase "authorization" }

/-- The request that only asks for what is there. -/
def reading (request : Request) : Request :=
  { request with
    method := if request.method == "HEAD" then "HEAD" else "GET"
    headers := request.headers.erase "content-type"
    body := "" }

/-- Where the answer to a request leads. -/
def redirection (request : Request) (answer : Answer) : Redirection :=
  if !([301, 302, 303, 307, 308].contains answer.status) then .none
  else match answer.headers.first? "location" with
    | none => .none
    | some location =>
        match request.url.resolve? location with
        | some url =>
            let moved := request.movedTo url
            .next (if answer.status = 307 ∨ answer.status = 308 then moved else moved.reading)
        | none =>
            match Url.splitScheme? (Url.clean location) with
            | some (scheme, _) =>
                if (Url.isSecureScheme? scheme).isNone then .nowhere else .none
            | none => .none

end Request

namespace Client

/-- Go on with a request after some time, with a number of redirections left. -/
def follow (client : Client) (redirections elapsed : Nat) (arrived : List Request)
    (request : Request) : Exchange :=
  match client.network request with
  | .unreachable => ⟨elapsed, arrived, .error .connection⟩
  | .silent => ⟨client.limit, arrived ++ [request], .error .timeout⟩
  | .dropped delay =>
      if client.limit < elapsed + delay then
        ⟨client.limit, arrived ++ [request], .error .timeout⟩
      else ⟨elapsed + delay, arrived ++ [request], .error .connection⟩
  | .answered delay answer =>
      if client.limit < elapsed + delay then
        ⟨client.limit, arrived ++ [request], .error .timeout⟩
      else
        match request.redirection answer with
        | .none => ⟨elapsed + delay, arrived ++ [request], .ok answer⟩
        | .nowhere => ⟨elapsed + delay, arrived ++ [request], .error .connection⟩
        | .next request' =>
            match redirections with
            | 0 => ⟨elapsed + delay, arrived ++ [request], .error .connection⟩
            | redirections + 1 =>
                follow client redirections (elapsed + delay) (arrived ++ [request]) request'

/-- Send a request to an address, which may not be one. -/
def send (client : Client) (method address : String) (headers : Url → Headers)
    (body : String := "") : Exchange :=
  match Url.parse? address with
  | none => ⟨0, [], .error .connection⟩
  | some url =>
      client.follow 10 0 []
        { method := method
          url := url
          headers := Trace.inject client.span (headers url)
          body := body }

end Client

end GroupFederation.Http
