import GroupFederation.Proofs.Service.Exit

/-!
# The envelope of responses

Wherever a response arises, it is sent in the same envelope. It names the request by the identifier
that the caller chose, or else by a fresh one; it asks for a token exactly if there was none that
holds; and an error of the service is told as a JSON object. Only to the method that asks for no
content the object is not sent. Requests that break down, and no others, get no response.
-/

namespace GroupFederation

open Service (Response Route Request)

namespace RequestId

/-- The caller names the request: the first identifier that comes with it is text, and not empty. -/
structure Chosen (headers : Http.Headers) (identifier : String) : Prop where
  first : headers.first? "x-request-id" = some identifier
  nonempty : identifier ≠ ""
  text : ∀ character ∈ identifier.toList,
    character = '\t' ∨ (' ' ≤ character ∧ character ≤ '~')

variable {headers : Http.Headers} {identifier : String}

theorem supplied?_eq_some_iff :
    supplied? headers = some identifier ↔ Chosen headers identifier := by
  simp only [supplied?, Http.Headers.text?, headerName, Option.filter_eq_some_iff,
    Http.Headers.isText, Http.Headers.isTextChar, List.all_eq_true, Bool.or_eq_true,
    Bool.and_eq_true, beq_iff_eq, decide_eq_true_iff, bne_iff_ne]
  exact ⟨fun ⟨⟨first, text⟩, nonempty⟩ => ⟨first, nonempty, text⟩, fun chosen =>
    ⟨⟨chosen.first, chosen.text⟩, chosen.nonempty⟩⟩

theorem choose_of_chosen (fresh : String) (chosen : Chosen headers identifier) :
    choose fresh headers = identifier := by
  rw [choose, supplied?_eq_some_iff.mpr chosen, Option.getD_some]

theorem choose_of_not_chosen (fresh : String)
    (unnamed : ∀ identifier, ¬Chosen headers identifier) : choose fresh headers = fresh := by
  have none : supplied? headers = none := Option.eq_none_iff_forall_ne_some.mpr
    fun identifier supplied => unnamed identifier (supplied?_eq_some_iff.mp supplied)
  rw [choose, none, Option.getD_none]

end RequestId

namespace Service

/-! ## Asking for a token -/

namespace Response

/-- The response asks for a token exactly if its status says that none was accepted. -/
def Challenges (response : Response) : Prop :=
  response.headers.values "www-authenticate" = if response.status = 401 then ["Bearer"] else []

theorem challenges_bare {status : Nat} (accepted : status ≠ 401) : Challenges (bare status) := by
  simp [Challenges, bare, accepted, Http.Headers.values, Http.Headers.empty]

theorem challenges_json {status : Nat} (accepted : status ≠ 401) (value : Json.Value) :
    Challenges (json status value) := by
  simp [Challenges, json, accepted, Http.Headers.values]

theorem challenges_text {status : Nat} (accepted : status ≠ 401) (content : String) :
    Challenges (text status content) := by
  simp [Challenges, text, accepted, Http.Headers.values]

theorem challenges_error (error : ServiceError) : Challenges error.response := by
  by_cases unauthorized : error.status = 401
  · simp [Challenges, ServiceError.response, unauthorized, withHeader, json,
      Http.Headers.values_insert]
  · simp only [ServiceError.response, unauthorized]
    exact challenges_json unauthorized _

/-- Other fields have nothing to do with that. -/
theorem Challenges.withHeader {response : Response} (challenges : response.Challenges)
    {name : String} (value : String) (other : "www-authenticate" ≠ name) :
    (response.withHeader name value).Challenges := by
  rw [Challenges, Response.withHeader, Http.Headers.values_insert_of_ne _ _ other]
  exact challenges

theorem Challenges.shape {response : Response} (challenges : response.Challenges)
    (request : Request) : (Service.shape request response).Challenges := by
  have allowed : (response.withHeader "allow" "GET,HEAD").Challenges :=
    challenges.withHeader _ (by decide)
  unfold Service.shape
  split <;> split <;> assumption

end Response

variable {service : Service} {request : Request} {exit : Exit}

theorem challenges_ask {service : Service} {question : Question} {response : Response}
    (told : (service.ask question).1 = some response) : response.Challenges := by
  cases question with
  | group person group =>
      cases told
      split
      · exact Response.challenges_json (by decide) _
      · exact Response.challenges_error _
  | groups | externalGroups | allGroups =>
      cases told
      exact Response.challenges_json (by decide) _
  | members group =>
      obtain ⟨members, -, rfl⟩ := Option.map_eq_some_iff.mp told
      exact Response.challenges_json (by decide) _

/-- Routes for everyone report to everyone. -/
theorem challenges_perform {service : Service} {route : Route}
    (unrestricted : route.audience = .anyone) {values : List String} {response : Response}
    (told : (service.perform route none values).1 = some response) : response.Challenges := by
  cases route with
  | health =>
      cases told
      exact Response.challenges_json (by decide) _
  | metrics =>
      cases told
      exact Response.challenges_text (by decide) _
  | _ => cases unrestricted

theorem challenges_of_leaves (leaves : service.Leaves request exit) :
    exit.response.Challenges := by
  cases leaves with
  | unrouted => exact Response.challenges_bare (by decide)
  | guarded => exact Response.challenges_error _
  | writing => exact Response.challenges_bare (by decide)
  | unreadable => exact Response.challenges_text (by decide) _
  | handled found admitted reads decoded handled =>
      cases handled with
      | refused | notFound => exact Response.challenges_error _
      | answered asked present told => exact challenges_ask told
      | reported told =>
          cases admitted with
          | anyone unrestricted => exact challenges_perform unrestricted told

/-! ## Sending the response -/

theorem body_shape (request : Request) (response : Response) :
    (shape request response).body =
      if request.method = "HEAD" then .empty else response.body := by
  have body : (if request.isReading then response
      else response.withHeader "allow" "GET,HEAD").body = response.body := by
    split <;> rfl
  simp only [shape, beq_iff_eq]
  split
  · rfl
  · exact body

theorem exit_of_unrouted (absent : Route.find? request.path = none)
    (leaves : service.Leaves request exit) : exit = .unrouted := by
  cases leaves with
  | unrouted => rfl
  | guarded found | writing found | unreadable found | handled found =>
      rw [absent] at found
      cases found

/-- What arises at the exit of a request is sent as a response, but without content when none was
asked for. -/
theorem respond_of_leaves (fresh : String) (leaves : service.Leaves request exit) :
    ∃ response, (service.respond fresh request).1 = some response ∧
      response.status = exit.response.status ∧
      response.body = if request.method = "HEAD" then .empty else exit.response.body := by
  cases found : Route.find? request.path with
  | none =>
      rw [exit_of_unrouted found leaves, respond, found]
      exact ⟨_, rfl, rfl, by simp [Exit.response, Response.withHeader, Response.bare]⟩
  | some destination =>
      obtain ⟨route, parameters⟩ := destination
      rw [(respond_of_find? service fresh found).1, authorize_of_leaves found leaves]
      exact ⟨_, rfl, status_dress fresh request _, body_shape request _⟩

section Sent

variable {fresh : String} {response : Response}

theorem challenges_respond (sent : (service.respond fresh request).1 = some response) :
    response.Challenges := by
  have other : "www-authenticate" ≠ RequestId.headerName := by decide
  obtain ⟨exit, leaves⟩ := exists_leaves sent
  have challenges := challenges_of_leaves leaves
  cases found : Route.find? request.path with
  | none =>
      rw [exit_of_unrouted found leaves] at challenges
      rw [respond, found] at sent
      cases sent
      exact challenges.withHeader _ other
  | some destination =>
      obtain ⟨route, parameters⟩ := destination
      rw [(respond_of_find? service fresh found).1, authorize_of_leaves found leaves] at sent
      cases sent
      exact (challenges.shape request).withHeader _ other

theorem identifier_respond (sent : (service.respond fresh request).1 = some response) :
    response.headers.values "x-request-id" = [RequestId.choose fresh request.headers] := by
  cases found : Route.find? request.path with
  | none =>
      rw [respond, found] at sent
      cases sent
      exact Http.Headers.values_insert _ _ _
  | some destination =>
      rw [(respond_of_find? service fresh found).1] at sent
      obtain ⟨inner, -, rfl⟩ := Option.map_eq_some_iff.mp sent
      exact Http.Headers.values_insert _ _ _

end Sent

/-- An error is told in an object, whatever else that holds. -/
theorem exists_details (error : ServiceError) :
    ∃ details, error.toJson =
      Json.Value.ofMembers (("error", Json.Value.ofText error.summary) :: details) :=
  ⟨_, rfl⟩

theorem body_response (error : ServiceError) : error.response.body = .json error.toJson := by
  simp only [ServiceError.response]
  split <;> rfl

/-! ## All responses -/

/-- Every request leaves the service at one of its exits, unless it breaks down, and what arises
there is sent in one envelope. The response has one identifier, which is the caller's if the caller
chose one and a fresh one otherwise. It asks for a token exactly if its status is 401. An error of
the service, no matter which guard or handler it comes from, is sent with its own status and as a
JSON object that tells it, unless the method asks for a response without content. -/
theorem responses_are_enveloped (service : Service) (fresh : String) (request : Request) :
    let answer := (service.respond fresh request).1
    (answer = none ↔ service.BreaksDown request) ∧
      (∀ response ∈ answer,
        (∀ identifier, RequestId.Chosen request.headers identifier →
          response.headers.values "x-request-id" = [identifier]) ∧
        ((∀ identifier, ¬RequestId.Chosen request.headers identifier) →
          response.headers.values "x-request-id" = [fresh]) ∧
        (response.headers.values "www-authenticate" =
          if response.status = 401 then ["Bearer"] else []) ∧
        ∃ exit, service.Leaves request exit) ∧
      (∀ exit, service.Leaves request exit → ∃ response, answer = some response ∧
        response.status = exit.response.status ∧
        response.body = if request.method = "HEAD" then .empty else exit.response.body) ∧
      ∀ error, service.Leaves request (.refused error) → ∃ response, answer = some response ∧
        response.status = error.status ∧
        (request.method ≠ "HEAD" → ∃ details, response.body =
          .json (Json.Value.ofMembers
            (("error", Json.Value.ofText error.summary) :: details))) ∧
        (request.method = "HEAD" → response.body = .empty) := by
  intro answer
  refine ⟨service.fst_respond_eq_none_iff fresh request, fun response sent => ?_,
    fun exit => respond_of_leaves fresh, fun error leaves => ?_⟩
  · have identifier := identifier_respond sent
    refine ⟨fun chosen isChosen => ?_, fun unnamed => ?_, challenges_respond sent,
      exists_leaves sent⟩
    · rw [identifier, RequestId.choose_of_chosen fresh isChosen]
    · rw [identifier, RequestId.choose_of_not_chosen fresh unnamed]
  · obtain ⟨response, sent, status, body⟩ := respond_of_leaves fresh leaves
    refine ⟨response, sent, status.trans (status_response error), fun content => ?_,
      fun noContent => ?_⟩
    · rw [body, if_neg content, Exit.response, body_response]
      obtain ⟨details, told⟩ := exists_details error
      exact ⟨details, congrArg Body.json told⟩
    · rw [body, if_pos noContent]

/-- The first of two identifiers is the one that counts, with the space around it; where it is empty
the second one does not help. A guess at a token is refused with an object. -/
theorem responses_are_enveloped_when_refused :
    let service : Service :=
      { engine := .ofRegistry (.ofList []), chain := .ofValidators [] none,
        requiredScope := "read" }
    let named : Request :=
      { target := "/nowhere"
        headers := .ofFields [("X-Request-Id", " a\t"), ("x-request-id", "b")] }
    let unnamed : Request :=
      { target := "/me/groups"
        headers := .ofFields [("x-request-id", ""), ("x-request-id", "b"),
          ("authorization", "Bearer guess")] }
    let error := ServiceError.unauthorized "Invalid or expired token"
    RequestId.Chosen named.headers " a\t" ∧
      (∃ response, (service.respond "1" named).1 = some response ∧
        response.headers.values "x-request-id" = [" a\t"]) ∧
      (∀ identifier, ¬RequestId.Chosen unnamed.headers identifier) ∧
      service.Leaves unnamed (.refused error) ∧
      ∃ response, (service.respond "1" unnamed).1 = some response ∧
        response.headers.values "x-request-id" = ["1"] ∧ response.status = 401 ∧
        ∃ details, response.body = .json (Json.Value.ofMembers
          (("error", Json.Value.ofText "Invalid or expired token") :: details)) := by
  intro service named unnamed error
  have chosen : RequestId.Chosen named.headers " a\t" :=
    RequestId.supplied?_eq_some_iff.mp (by decide)
  have unchosen : ∀ identifier, ¬RequestId.Chosen unnamed.headers identifier := by
    intro identifier isChosen
    have supplied := RequestId.supplied?_eq_some_iff.mpr isChosen
    rw [show RequestId.supplied? unnamed.headers = none by decide] at supplied
    cases supplied
  have nowhere : service.Leaves named .unrouted := .unrouted (by decide)
  have found : Route.find? unnamed.path = some (.myGroups, []) := by decide
  have shown : Access.requireToken unnamed.headers = .ok "guess" := by
    rw [Access.requireToken, show Access.bearerToken? unnamed.headers = some "guess" by decide]
  have leaves : service.Leaves unnamed (.refused error) :=
    .guarded found (.scope (by decide) shown (by rfl))
  obtain ⟨-, namedSent, namedLeaves, -⟩ := responses_are_enveloped service "1" named
  obtain ⟨-, unnamedSent, -, refused⟩ := responses_are_enveloped service "1" unnamed
  obtain ⟨first, isFirst, -⟩ := namedLeaves _ nowhere
  obtain ⟨second, isSecond, status, body, -⟩ := refused error leaves
  obtain ⟨accepted, -⟩ := namedSent first isFirst
  obtain ⟨-, made, -⟩ := unnamedSent second isSecond
  exact ⟨chosen, ⟨first, isFirst, accepted _ chosen⟩, unchosen, leaves, second, isSecond,
    made unchosen, status, body (by decide)⟩

/-- A refusal is sent without its object to whoever asks for a response without content. -/
theorem refusal_without_object :
    let service : Service :=
      { engine := .ofRegistry (.ofList []), chain := .ofValidators [] none,
        requiredScope := "read" }
    let request : Request := { method := "HEAD", target := "/me/groups", headers := .empty }
    let error := ServiceError.unauthorized "Missing or invalid Authorization header"
    service.Leaves request (.refused error) ∧
      ∃ response, (service.respond "1" request).1 = some response ∧ response.status = 401 ∧
        response.body = .empty ∧ ¬∃ value, response.body = .json value := by
  intro service request error
  have found : Route.find? request.path = some (.myGroups, []) := by decide
  have missing : Access.requireToken request.headers = .error error := by
    rw [Access.requireToken, show Access.bearerToken? request.headers = none by decide]
  have leaves : service.Leaves request (.refused error) :=
    .guarded found (.token (by decide) missing)
  obtain ⟨response, sent, status, body⟩ := respond_of_leaves "1" leaves
  rw [if_pos (show request.method = "HEAD" from rfl)] at body
  refine ⟨leaves, response, sent, status, body, ?_⟩
  rintro ⟨value, told⟩
  rw [body] at told
  cases told

end Service

end GroupFederation
