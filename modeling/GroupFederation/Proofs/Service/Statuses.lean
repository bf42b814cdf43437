import GroupFederation.Http.Canned
import GroupFederation.Proofs.Service.Breakdown

/-!
# Statuses of responses

Requests reach a running service one after the other, with time passing between them. Whatever
validators and providers do meanwhile, every response is an answer or a refusal: what goes wrong
behind the service never makes it report a fault of its own, and the guards that look for a verdict
always find one. A request is left without a response only when it breaks down.
-/

namespace GroupFederation

open Service (Response Route Request)

namespace Service

/-- What happens to a running service. -/
inductive Event where
  | pause (duration : Nat)
  /-- A request arrives while a fresh identifier for it is at hand. -/
  | arrival (fresh : String) (request : Request)

/-- A request with the service that it reached and the response that it got, if it got one. -/
structure Exchange where
  service : Service
  request : Request
  response : Option Response

/-- The exchanges of a service, in order. -/
def exchanges (service : Service) : List Event → List Exchange
  | [] => []
  | .pause duration :: events => (service.wait duration).exchanges events
  | .arrival fresh request :: events =>
      ⟨service, request, (service.respond fresh request).1⟩ ::
        (service.respond fresh request).2.exchanges events

/-- The service after some events. -/
def serveAll (service : Service) : List Event → Service
  | [] => service
  | .pause duration :: events => (service.wait duration).serveAll events
  | .arrival fresh request :: events => (service.respond fresh request).2.serveAll events

/-- The statuses of answers and refusals. -/
def regularStatuses : List Nat := 200 :: refusals

section Induction

variable {property : Exchange → Prop}

/-- What every response of a service has that keeps an invariant, every exchange of such a service
has while it is running. -/
theorem exchanges_induction_of_invariant {invariant : Service → Prop}
    (waits : ∀ (service : Service) (duration : Nat),
      invariant service → invariant (service.wait duration))
    (responds : ∀ (service : Service) (fresh : String) (request : Request), invariant service →
      invariant (service.respond fresh request).2 ∧
        property ⟨service, request, (service.respond fresh request).1⟩)
    {service : Service} (initially : invariant service) (events : List Event) :
    ∀ exchange ∈ service.exchanges events, property exchange := by
  induction events generalizing service with
  | nil => simp [exchanges]
  | cons event events inductionHypothesis =>
      cases event with
      | pause duration => exact inductionHypothesis (waits service duration initially)
      | arrival fresh request =>
          obtain ⟨later, holds⟩ := responds service fresh request initially
          exact List.forall_mem_cons.mpr ⟨holds, inductionHypothesis later⟩

/-- What every response has, every exchange of a running service has. -/
theorem exchanges_induction
    (responses : ∀ (service : Service) (fresh : String) (request : Request),
      property ⟨service, request, (service.respond fresh request).1⟩)
    (service : Service) (events : List Event) :
    ∀ exchange ∈ service.exchanges events, property exchange :=
  @exchanges_induction_of_invariant property (fun _ => True) (fun _ _ _ => trivial)
    (fun service fresh request _ => ⟨trivial, responses service fresh request⟩) service trivial
    events

end Induction

/-- A request gets no response exactly if it breaks down. -/
theorem response_eq_none_iff (service : Service) (events : List Event) :
    ∀ exchange ∈ service.exchanges events,
      exchange.response = none ↔ exchange.service.BreaksDown exchange.request :=
  exchanges_induction fst_respond_eq_none_iff service events

/-- Where no provider breaks down while it lists members, no request does. -/
theorem not_breaksDown_of_listsSafely {service : Service} (safe : service.ListsSafely)
    (events : List Event) :
    ∀ exchange ∈ service.exchanges events, ¬exchange.service.BreaksDown exchange.request := by
  refine exchanges_induction_of_invariant (fun _ _ safe => safe) ?_ safe events
  intro service fresh request safe
  exact ⟨safe.respond fresh request, safe.not_breaksDown request⟩

theorem isSome_response_of_listsSafely {service : Service} (safe : service.ListsSafely)
    {events : List Event} {exchange : Exchange} (member : exchange ∈ service.exchanges events) :
    exchange.response.isSome := by
  rw [Option.isSome_iff_ne_none, Ne, response_eq_none_iff service events exchange member]
  exact not_breaksDown_of_listsSafely safe events exchange member

/-! ## One response -/

/-- What the engine says is an answer; only a group that is looked up may not be found. -/
theorem status_ask (service : Service) (question : Question) :
    ∀ response ∈ (service.ask question).1, response.status ∈ regularStatuses := by
  cases question with
  | groups | externalGroups | allGroups =>
      simp [ask, answerGroups, Response.json, regularStatuses]
  | members =>
      intro response answered
      obtain ⟨members, -, rfl⟩ := Option.map_eq_some_iff.mp answered
      simp [Response.json, regularStatuses]
  | group person group =>
      simp only [ask, answerGroup, Option.mem_some, forall_eq']
      split
      · simp [Response.json, regularStatuses]
      · rw [status_response]
        simp [ServiceError.status, regularStatuses, refusals]

/-- What is for everyone is reported, unless the request does not read or a parameter is no text. -/
theorem status_of_unrestricted (service : Service) {route : Route}
    (unrestricted : route.audience = .anyone) (parameters : List (String × String))
    (request : Request) :
    ∀ response ∈ (service.authorize route parameters request).1,
      response.status ∈ regularStatuses := by
  simp only [authorize, unrestricted, handle]
  split
  · simp [Response.bare, regularStatuses, refusals]
  · split
    · simp [Response.text, regularStatuses, refusals]
    · cases route with
      | health | metrics => simp [perform, Response.json, Response.text, regularStatuses]
      | _ => cases unrestricted

theorem status_authorize (service : Service) (route : Route)
    (parameters : List (String × String)) (request : Request) :
    ∀ response ∈ (service.authorize route parameters request).1,
      response.status ∈ regularStatuses := by
  by_cases unrestricted : route.audience = .anyone
  · exact status_of_unrestricted service unrestricted parameters request
  · rw [authorize_of_restricted service unrestricted]
    cases resolved : service.resolve route parameters request with
    | ok question => exact status_ask _ question
    | error response =>
        have refused := refuses_resolve service route parameters request _ resolved
        rintro _ ⟨⟩
        exact List.mem_cons_of_mem 200 refused

theorem status_respond (service : Service) (fresh : String) (request : Request) :
    ∀ response ∈ (service.respond fresh request).1, response.status ∈ regularStatuses := by
  cases found : Route.find? request.path with
  | none => simp [respond, found, Response.withHeader, Response.bare, regularStatuses, refusals]
  | some destination =>
      obtain ⟨route, parameters⟩ := destination
      rw [(respond_of_find? service fresh found).1]
      intro _ sent
      obtain ⟨response, answered, rfl⟩ := Option.map_eq_some_iff.mp sent
      rw [status_dress]
      exact status_authorize service route parameters request response answered

/-- Nothing but a fault of the service stands in place of a verdict that is missing. -/
theorem status_of_no_verdict {error : ServiceError}
    (missing : Access.requireVerdict none = .error error ∨
      Access.requireClient none = .error error) : error.status = 500 := by
  rcases missing with extracted | guarded
  · cases extracted
    rfl
  · cases guarded
    rfl

/-- A route is handed as many values as it has parameters. -/
theorem Route.length_of_find? {path : String} {route : Route} {parameters : List (String × String)}
    {values : List String} (found : find? path = some (route, parameters))
    (decoded : decodeParameters parameters = .ok values) :
    values.length = route.parameterNames.length := by
  obtain ⟨segments, _, fits⟩ := matchParts_of_find? found
  have names : parameters.map Prod.fst = route.parameterNames := names_of_matchParts fits
  rw [length_of_decodeParameters decoded, ← names, List.length_map]

/-! ## All responses -/

theorem status_of_answered (service : Service) (events : List Event) :
    ∀ exchange ∈ service.exchanges events, ∀ response ∈ exchange.response,
      response.status ∈ regularStatuses :=
  exchanges_induction status_respond service events

/-- A running service answers or refuses every request, but for those that break down, and where no
provider breaks down while it lists members there are none of these. No response is what a guard
that misses its verdict would say, and no route is handed another number of values than it has
parameters. -/
theorem responses_blame_no_fault (service : Service) (events : List Event) :
    ∀ exchange ∈ service.exchanges events,
      (exchange.response = none ↔ exchange.service.BreaksDown exchange.request) ∧
      (service.ListsSafely → exchange.response.isSome) ∧
      (∀ response ∈ exchange.response, response.status ∈ [200, 400, 401, 403, 404, 405] ∧
        ∀ error, Access.requireVerdict none = .error error ∨
          Access.requireClient none = .error error → response.status ≠ error.status) ∧
      ∀ route parameters values,
        Route.find? exchange.request.path = some (route, parameters) →
          Route.decodeParameters parameters = .ok values →
            values.length = route.parameterNames.length := by
  intro exchange member
  refine ⟨response_eq_none_iff service events exchange member,
    fun safe => isSome_response_of_listsSafely safe member, ?_,
    fun route parameters values => Route.length_of_find?⟩
  intro response answered
  have isRegular := status_of_answered service events exchange member response answered
  constructor
  · simpa [regularStatuses, refusals, or_comm, or_left_comm] using isRegular
  · intro error missing
    rw [status_of_no_verdict missing]
    intro fault
    rw [fault] at isRegular
    revert isRegular
    decide

/-- A registry that fails and an issuer that cannot be asked stand behind a service. Its machine
client gets an empty list of members, and everything else is refused. -/
theorem responses_blame_no_fault_of_failing_registry :
    let issuer (name : String) : Token.ServerEntry :=
      ⟨name, "http://" ++ name ++ ".test", "service", "secret", 500⟩
    let settings : Settings :=
      { providers :=
          [⟨"grouper", "http://home.test", "user", "secret", 500, "example.org", "home", true⟩]
        tokenValidators := [issuer "nobody", issuer "issuer"] }
    let network := Http.Canned.network
      [⟨"home", [{ status := 500, body := Text.Utf8.ofText "down" }]⟩,
        ⟨"issuer",
          [{ bodyPart := some "token=portal"
             body := Text.Utf8.ofText "\x7b\"active\": true, \"scope\": \"read\"\x7d" },
            { bodyPart := some "token=jane"
              body := Text.Utf8.ofText
                "\x7b\"active\": true, \"scope\": \"read\", \"sub\": \"jane\"\x7d" },
            { status := 503 }]⟩]
    let ask (token target : String) : Event := .arrival "1"
      { target := target, headers := .ofFields [("Authorization", "Bearer " ++ token)] }
    let group := "/members/urn:collab:group:example.org:staff"
    let request : Request :=
      { target := group, headers := .ofFields [("Authorization", "Bearer portal")] }
    let events : List Event := [.arrival "1" request, ask "portal" "/members/staff",
      .pause 70000, ask "guess" group, ask "jane" group,
      ask "jane" "/me/groups/urn:collab:group:example.org:staff",
      .arrival "2" { request with method := "POST" }]
    let statuses (service : Service) :=
      (service.exchanges events).map fun exchange => exchange.response.map Response.status
    (Service.ofSettings settings network).toOption.map statuses =
        some [some 200, some 400, some 401, some 403, some 404, some 405] ∧
      ∀ service, Service.ofSettings settings network = .ok service →
        ⟨service, request, (service.respond "1" request).1⟩ ∈ service.exchanges events ∧
          ∃ response, (service.respond "1" request).1 = some response ∧
            response.status ∈ [200, 400, 401, 403, 404, 405] := by
  intro issuer settings network ask group request events statuses
  refine ⟨by decide +kernel, ?_⟩
  intro service accepted
  have member : ⟨service, request, (service.respond "1" request).1⟩ ∈ service.exchanges events :=
    List.mem_cons_self
  obtain ⟨-, answers, statuses, -⟩ := responses_blame_no_fault service events _ member
  obtain ⟨response, answered⟩ :=
    Option.isSome_iff_exists.mp (answers (listsSafely_ofSettings accepted))
  exact ⟨member, response, answered, (statuses response answered).1⟩

end Service

end GroupFederation
