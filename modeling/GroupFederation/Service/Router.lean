import GroupFederation.Group.Json
import GroupFederation.Metrics.Report
import GroupFederation.Service.Access
import GroupFederation.Service.RequestId
import GroupFederation.Service.Route

/-!
# Answering requests

A request passes through several hands. A path without a route is answered at once. Otherwise the
caller has to show a token where the route asks for one, the token has to be valid and carry the
scope of the service, and for some routes it has to belong to a machine client. Only then does it
matter whether the method is one that reads, whether the parameters are text, and whether they are
well-formed names; and only after all of that are providers asked.

Every answer carries the identifier of its request. Every request that has a route is counted under
the template of its route, whatever its answer.

There is one way for a request to get no answer. The members of a group are asked of a provider in
place, and when this provider breaks down the request breaks down with it: the caller gets no
response, and as counting comes after the answer the request is not counted.
-/

namespace GroupFederation

namespace Service

/-- A request to the service. -/
structure Request where
  method : String := "GET"
  /-- The path with its query, or a whole address, as it was sent. -/
  target : String
  headers : Http.Headers
  deriving DecidableEq, Repr

namespace Request

/-- The characters that the scheme of an address consists of. -/
def isSchemeChar (character : Char) : Bool :=
  character.isAlphanum || character == '+' || character == '-' || character == '.'

/-- What follows the scheme of a whole address and its two slashes. -/
def behindScheme? (target : List Char) : Option (List Char) :=
  match target.dropWhile isSchemeChar with
  | ':' :: '/' :: '/' :: rest => some rest
  | _ => none

/-- Whether a query or a fragment begins with a character. -/
def endsPath (character : Char) : Bool :=
  character == '?' || character == '#'

/-- The path, without query and fragment. In a whole address it stands behind the host, and an
address without one asks for the root. -/
def path (request : Request) : String :=
  match behindScheme? request.target.toList with
  | none => String.ofList (request.target.toList.takeWhile (!endsPath ·))
  | some address =>
      let rest := address.dropWhile fun character => character != '/' && !endsPath character
      let path := rest.takeWhile (!endsPath ·)
      if path.isEmpty then "/" else String.ofList path

/-- Whether the request only reads. -/
def isReading (request : Request) : Bool :=
  request.method == "GET" || request.method == "HEAD"

end Request

end Service

open Service (Response Route)

/-- The running service: what it knows, what it asks for, and what has happened so far. Times are
in milliseconds since it was started. -/
structure Service where
  engine : Aggregation.Engine
  chain : Token.Chain
  /-- The scope that every token has to carry. -/
  requiredScope : String
  requests : Tally RequestLabel := .empty
  now : Nat := 0

namespace Service

/-- Let time pass. -/
def wait (service : Service) (duration : Nat) : Service :=
  { service with
    now := service.now + duration
    chain := service.chain.sweepUpTo (service.now + duration) }

/-- The service after the engine has answered. -/
def afterwards {α : Type} (service : Service) (result : Aggregation.Result α) : Service :=
  { service with engine := result.engine, now := service.now + result.elapsed }

/-- Answer with a list of groups. -/
def answerGroups (service : Service) (result : Aggregation.Result (List Group)) :
    Option Response × Service :=
  (some (.json 200 (.array (result.value.map Group.toJson))), service.afterwards result)

/-- Answer with a group, which may not have been found. -/
def answerGroup (service : Service) (group : String)
    (result : Aggregation.Result (Option Group)) : Option Response × Service :=
  (some (match result.value with
    | some found => .json 200 found.toJson
    | none => (ServiceError.notFound ("Group " ++ group ++ " not found")).response),
    service.afterwards result)

/-- Answer with a list of members, unless the provider has broken down. -/
def answerMembers (service : Service) (result : Aggregation.Result (Option (List Member))) :
    Option Response × Service :=
  (result.value.map fun members => .json 200 (.array (members.map Member.toJson)),
    service.afterwards result)

/-- Go on with a value, or answer with the error in its place. -/
def orRefuse {α : Type} (service : Service) (attempt : Except ServiceError α)
    (next : α → Option Response × Service) : Option Response × Service :=
  match attempt with
  | .ok value => next value
  | .error error => (some error.response, service)

/-- A name, or the refusal of one that is not well formed. -/
def wellFormed {α : Type} : Except Urn.Malformed α → Except ServiceError α
  | .ok value => .ok value
  | .error refusal => .error (.ofMalformed refusal)

/-- The person behind a token and that person's organization, which may be empty. -/
def userOf (verdict : Verdict) : Except ServiceError (String × String) :=
  match verdict.principal with
  | none =>
      .error (.forbidden "Client credentials tokens carry no user; use the internal endpoints")
  | some principal =>
      .ok (principal,
        (verdict.organization.or (Urn.organization? .person principal)).getD "")

/-- What the service says about itself. -/
def healthReport : Json.Value :=
  Json.Value.ofMembers
    [("status", Json.Value.ofText "ok"), ("service", Json.Value.ofText "group-service"),
      ("version", Json.Value.ofText "0.1.0")]

/-- The metrics text. -/
def metricsText (service : Service) : String :=
  Report.text service.requests service.engine.calls service.chain.lookups

/-- Carry out a request whose parameters have been read. There is no response if the request breaks
down. -/
def perform (service : Service) (route : Route) (stored : Option Verdict)
    (parameters : List String) : Option Response × Service :=
  let user (next : String → String → Option Response × Service) : Option Response × Service :=
    service.orRefuse ((Access.requireVerdict stored).bind userOf) fun (person, organization) =>
      next person organization
  let person (name : String) (next : String → Option Response × Service) :
      Option Response × Service :=
    service.orRefuse (wellFormed (Urn.requirePerson name)) next
  let group (name : String) (next : Option Response × Service) : Option Response × Service :=
    service.orRefuse (wellFormed (Urn.requireGroup name)) fun _ => next
  match route, parameters with
  | .health, _ => (some (.json 200 healthReport), service)
  | .metrics, _ => (some (.text 200 service.metricsText), service)
  | .myGroups, _ =>
      user fun name organization => service.answerGroups (service.engine.myGroups name organization)
  | .myGroup, [groupId] =>
      user fun name _ =>
        group groupId (service.answerGroup groupId (service.engine.groupById name groupId))
  | .userGroups, [userId] =>
      person userId fun organization =>
        service.answerGroups (service.engine.myGroups userId organization)
  | .userGroup, [userId, groupId] =>
      person userId fun _ =>
        group groupId (service.answerGroup groupId (service.engine.groupById userId groupId))
  | .userExternalGroups, [userId] =>
      person userId fun organization =>
        service.answerGroups (service.engine.myExternalGroups userId organization)
  | .allGroups, _ => service.answerGroups service.engine.allGroups
  | .members, [groupId] =>
      group groupId (service.answerMembers (service.engine.members groupId))
  | _, _ => (some (.bare 404), service)

/-- Handle a request that may use its route: other methods than those that read are refused, and so
are parameters that are no text. -/
def handle (service : Service) (route : Route) (stored : Option Verdict)
    (parameters : List (String × String)) (request : Request) : Option Response × Service :=
  if !request.isReading then (some (.bare 405), service)
  else match Route.decodeParameters parameters with
    | .error name =>
        (some (.text 400 ("Invalid URL: Invalid UTF-8 in \x60" ++ name ++ "\x60")), service)
    | .ok values => service.perform route stored values

/-- Let a caller pass to a route if the token and its verdict permit. -/
def authorize (service : Service) (route : Route) (parameters : List (String × String))
    (request : Request) : Option Response × Service :=
  match route.audience with
  | .anyone => service.handle route none parameters request
  | audience =>
      service.orRefuse (Access.requireToken request.headers) fun token =>
        let (chain, verdict, now) := service.chain.validate service.now token
        let service := { service with chain := chain, now := now }
        service.orRefuse (Access.requireScope service.requiredScope verdict) fun _ =>
          if audience = .clients then
            service.orRefuse (Access.requireClient (some verdict)) fun _ =>
              service.handle route (some verdict) parameters request
          else service.handle route (some verdict) parameters request

/-- The answer as it is sent for the method of its request: a method that does not read is told the
ones that do, and `HEAD` gets no content. -/
def shape (request : Request) (response : Response) : Response :=
  let response :=
    if request.isReading then response else response.withHeader "allow" "GET,HEAD"
  if request.method == "HEAD" then response.withoutBody else response

/-- Answer a request, given a fresh identifier for it. A request that breaks down gets no response
and is not counted. -/
def respond (service : Service) (fresh : String) (request : Request) :
    Option Response × Service :=
  let identifier := RequestId.choose fresh request.headers
  match Route.find? request.path with
  | none => (some ((Response.bare 404).withHeader RequestId.headerName identifier), service)
  | some (route, parameters) =>
      match service.authorize route parameters request with
      | (none, service) => (none, service)
      | (some response, service) =>
          let response := shape request response
          let label : RequestLabel := ⟨request.method, route.template, response.status⟩
          (some (response.withHeader RequestId.headerName identifier),
            { service with requests := service.requests.add label })

end Service

end GroupFederation
