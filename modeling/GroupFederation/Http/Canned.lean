import GroupFederation.Http.Network

/-!
# Prepared backends

A network can be made of backends with prepared answers. A backend has a name, under which its
server is found, and a list of routes; the first route whose conditions hold for a request answers
it, and a request that no route takes is answered with the status for what is not found.
-/

namespace GroupFederation.Http.Canned

/-- What a route does with a request that it takes. -/
inductive Manner where
  | answers
  | hangsUp
  | breaksOff
  | keepsSilent
  deriving DecidableEq, Repr

/-- A prepared answer and the conditions under which it is given. -/
structure Route where
  method : Option String := none
  target : Option String := none
  action : Option String := none
  bodyPart : Option String := none
  status : Nat := 200
  headers : Headers := .empty
  body : Text.Bytes := []
  manner : Manner := .answers
  deriving Repr

namespace Route

/-- Whether a condition holds, if it is made. -/
def holds (condition : Option String) (test : String → Bool) : Bool :=
  condition.all test

/-- Whether the route takes a request. -/
def takes (route : Route) (request : Request) : Bool :=
  holds route.method (· == request.method) &&
    holds route.target (· == request.url.target) &&
    holds route.action (fun action => request.headers.first? "soapaction" == some action) &&
    holds route.bodyPart (fun part => Text.occursIn part.toList request.body.toList)

/-- What becomes of a request that the route takes. -/
def delivery (route : Route) : Delivery :=
  let answer : Answer := ⟨route.status, route.headers, route.body, true⟩
  match route.manner with
  | .answers => .answered 0 answer
  | .hangsUp => .dropped 0
  | .breaksOff => .answered 0 { answer with isComplete := false }
  | .keepsSilent => .silent

end Route

/-- A backend with its name and its routes. -/
structure Backend where
  name : String
  routes : List Route
  deriving Repr

namespace Backend

/-- Whether an address belongs to the server of the backend. -/
def serves (backend : Backend) (url : Url) : Bool :=
  !url.isSecure && url.host == backend.name ++ ".test" && url.port == 80

/-- What becomes of a request to the backend. -/
def delivery (backend : Backend) (request : Request) : Delivery :=
  match backend.routes.find? fun route => route.takes request with
  | some route => route.delivery
  | none => .answered 0 ⟨404, .empty, [], true⟩

end Backend

/-- The network of some backends. -/
def network (backends : List Backend) : Network := fun request =>
  match backends.find? fun backend => backend.serves request.url with
  | some backend => backend.delivery request
  | none => .unreachable

/-- The requests that the backend's server got, of those that were sent. -/
def received (backend : Backend) (sent : List Request) : List Request :=
  sent.filter fun request => backend.serves request.url

end GroupFederation.Http.Canned
