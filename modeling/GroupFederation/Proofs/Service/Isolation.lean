import GroupFederation.Proofs.Service.Authorization
import GroupFederation.Provider.Fake

/-!
# Refused requests and the engine

A request that is not authorized is refused with one of a few statuses. The engine has then not been
asked anything, and the response would have been the same with any other engine in its place: from a
refusal nobody learns what providers know.
-/

namespace GroupFederation

open Service (Response Route Request Part)

namespace Service

/-! ## Routes for everyone -/

/-- A path of one fixed segment is that segment behind a slash. -/
theorem Route.path_of_find? {path : String} (text : String) {route : Route}
    {parameters : List (String × String)} (single : route.parts = [.fixed text])
    (found : find? path = some (route, parameters)) : path = "/" ++ text := by
  obtain ⟨segments, split, fits⟩ := matchParts_of_find? found
  have only : segments = [text] := by
    rw [single] at fits
    cases segments with
    | nil => cases fits
    | cons segment others =>
        by_cases same : segment = text
        · cases others with
          | nil => rw [same]
          | cons other others => simp [matchParts] at fits
        · simp [matchParts, same] at fits
  unfold segments? at split
  split at split
  · rename_i rest characters
    simp only [only, Option.some.injEq] at split
    obtain ⟨piece, pieces, rfl⟩ := List.map_eq_singleton_iff.mp split
    have whole := Text.intercalate_splitOn '/' rest
    rw [pieces, List.intercalate_singleton] at whole
    rw [← String.toList_inj, characters, whole]
    simp
  · cases split

/-- A request that anybody may make and that is answered: health or metrics are read. -/
def IsPublic (request : Request) : Prop :=
  (request.method = "GET" ∨ request.method = "HEAD") ∧
    (request.path = "/health" ∨ request.path = "/metrics")

theorem isPublic_of_find? {request : Request} {route : Route}
    {parameters : List (String × String)} (reading : request.isReading = true)
    (found : Route.find? request.path = some (route, parameters))
    (unrestricted : route.audience = .anyone) : IsPublic request := by
  refine ⟨isReading_iff.mp reading, ?_⟩
  cases route with
  | health => exact .inl (Route.path_of_find? "health" rfl found)
  | metrics => exact .inr (Route.path_of_find? "metrics" rfl found)
  | _ => cases unrestricted

/-- A request to a route for everyone changes nothing, as far as it is not counted. -/
theorem state_of_unrestricted (service : Service) {route : Route}
    (unrestricted : route.audience = .anyone) (parameters : List (String × String))
    (request : Request) : (service.authorize route parameters request).2 = service := by
  simp only [authorize, unrestricted, handle]
  split
  · rfl
  · split
    · rfl
    · cases route with
      | health | metrics => rfl
      | _ => cases unrestricted

theorem authorize_of_not_isReading (service : Service) {route : Route}
    (unrestricted : route.audience = .anyone) (parameters : List (String × String))
    {request : Request} (writing : request.isReading = false) :
    service.authorize route parameters request = (some (.bare 405), service) := by
  simp [authorize, unrestricted, handle, writing]

/-! ## How requests are refused -/

theorem refuses_questionOf (verdict : Verdict) (route : Route) (values : List String) :
    Refuses (questionOf verdict route values) := by
  have user := objects_userOf verdict
  have person (name : String) := objects_wellFormed (Urn.requirePerson name)
  have group (name : String) := objects_wellFormed (Urn.requireGroup name)
  fun_cases questionOf verdict route values
  · exact Objects.refuses (user.bind fun _ => .ok _)
  · exact Objects.refuses (user.bind fun _ => (group _).bind fun _ => .ok _)
  · exact Objects.refuses ((person _).bind fun _ => .ok _)
  · exact Objects.refuses ((person _).bind fun _ => (group _).bind fun _ => .ok _)
  · exact Objects.refuses ((person _).bind fun _ => .ok _)
  · exact .ok _
  · exact Objects.refuses ((group _).bind fun _ => .ok _)
  · exact .error (by decide)

theorem refuses_questionOfRequest (verdict : Verdict) (route : Route)
    (parameters : List (String × String)) (request : Request) :
    Refuses (questionOfRequest verdict route parameters request) := by
  unfold questionOfRequest
  split
  · exact .error (by decide)
  · split
    · exact .error (by simp [Response.text, refusals])
    · exact refuses_questionOf verdict route _

theorem refuses_resolve (service : Service) (route : Route)
    (parameters : List (String × String)) (request : Request) :
    Refuses (service.resolve route parameters request) := by
  have questions (verdict : Verdict) :=
    refuses_questionOfRequest verdict route parameters request
  apply FailsWith.bind (objects_requireToken request.headers).refuses
  intro token
  apply FailsWith.bind (objects_requireScope _ _).refuses
  intro _
  split
  · exact FailsWith.bind (objects_requireClient _).refuses fun _ => questions _
  · exact questions _

/-! ## The response and the engine -/

/-- A response in the shape of its request, with the identifier of that. -/
def dress (fresh : String) (request : Request) (response : Response) : Response :=
  (shape request response).withHeader RequestId.headerName
    (RequestId.choose fresh request.headers)

theorem respond_of_find? (service : Service) (fresh : String) {request : Request} {route : Route}
    {parameters : List (String × String)}
    (found : Route.find? request.path = some (route, parameters)) :
    (service.respond fresh request).1 =
        (service.authorize route parameters request).1.map (dress fresh request) ∧
      (service.respond fresh request).2.engine =
        (service.authorize route parameters request).2.engine := by
  simp only [respond, found]
  rcases service.authorize route parameters request with ⟨_ | response, after⟩
  · exact ⟨rfl, rfl⟩
  · exact ⟨rfl, rfl⟩

theorem status_shape (request : Request) (response : Response) :
    (shape request response).status = response.status := by
  unfold shape
  split <;> split <;> rfl

theorem status_dress (fresh : String) (request : Request) (response : Response) :
    (dress fresh request response).status = response.status :=
  status_shape request response

theorem engine_afterToken (service : Service) (request : Request) :
    (service.afterToken request).engine = service.engine := by
  unfold afterToken
  split <;> rfl

/-- A route that is not for everyone answers without the engine when there is no question. -/
theorem authorize_of_resolve_eq_error (service : Service) {route : Route}
    (restricted : route.audience ≠ .anyone) {parameters : List (String × String)}
    {request : Request} {response : Response}
    (refused : service.resolve route parameters request = .error response) :
    service.authorize route parameters request = (some response, service.afterToken request) := by
  rw [authorize_of_restricted service restricted, refused]
  rfl

theorem engine_of_not_authorized (service : Service) {request : Request} {route : Route}
    {parameters : List (String × String)}
    (found : Route.find? request.path = some (route, parameters))
    (unauthorized : ¬service.Authorized request) :
    (service.authorize route parameters request).2.engine = service.engine := by
  by_cases unrestricted : route.audience = .anyone
  · rw [state_of_unrestricted service unrestricted]
  · obtain ⟨response, resolved⟩ := exists_resolve_eq_error service found unauthorized
    rw [authorize_of_resolve_eq_error service unrestricted resolved]
    exact engine_afterToken service request

/-- One refusal answers the request whatever engine there is. -/
theorem exists_refusal_of_not_authorized (service : Service) {request : Request} {route : Route}
    {parameters : List (String × String)}
    (found : Route.find? request.path = some (route, parameters))
    (unauthorized : ¬service.Authorized request) (reserved : ¬IsPublic request) :
    ∃ response, response.status ∈ refusals ∧ ∀ engine,
      ({ service with engine := engine }.authorize route parameters request).1 =
        some response := by
  by_cases unrestricted : route.audience = .anyone
  · have writing : request.isReading = false := by
      cases reading : request.isReading with
      | false => rfl
      | true => exact absurd (isPublic_of_find? reading found unrestricted) reserved
    refine ⟨.bare 405, by decide, ?_⟩
    intro engine
    rw [authorize_of_not_isReading _ unrestricted parameters writing]
  · obtain ⟨response, resolved⟩ := exists_resolve_eq_error service found unauthorized
    refine ⟨response, refuses_resolve service route parameters request response resolved, ?_⟩
    intro engine
    -- Neither the token nor the verdict on it has anything to do with the engine.
    have same : { service with engine := engine }.resolve route parameters request =
        .error response := resolved
    rw [authorize_of_resolve_eq_error _ unrestricted same]

theorem no_user_of_requireClient {verdict : Verdict}
    (client : Access.requireClient (some verdict) = .ok ()) :
    ¬∃ user, userOf verdict = .ok user := by
  rw [exists_userOf_eq_ok_iff, Access.requireClient_eq_ok_iff.mp client]
  simp

/-- The engine is asked on behalf of authorized requests, and of those only. Any other request
leaves it as it is, and unless it reads health or metrics it is refused, with a response that does
not depend on the engine. No verdict passes both the guard of the routes for persons and that of the
routes for machine clients. -/
theorem engine_asked_only_if_authorized (service : Service) (fresh : String) (request : Request) :
    ((service.respond fresh request).2.engine ≠ service.engine → service.Authorized request) ∧
      (service.Authorized request → ∃ question,
        (service.respond fresh request).2.engine =
          ((service.afterToken request).ask question).2.engine) ∧
      (¬service.Authorized request → ¬IsPublic request →
        (service.respond fresh request).2.engine = service.engine ∧
          (∃ response, (service.respond fresh request).1 = some response ∧
            response.status ∈ refusals) ∧
          ∀ engine, ({ service with engine := engine }.respond fresh request).1 =
            (service.respond fresh request).1) ∧
      ∀ verdict, Access.requireClient (some verdict) = .ok () →
        ¬∃ user, userOf verdict = .ok user := by
  have untouched (unauthorized : ¬service.Authorized request) :
      (service.respond fresh request).2.engine = service.engine := by
    cases found : Route.find? request.path with
    | none => simp only [respond, found]
    | some destination =>
        rw [(respond_of_find? service fresh found).2]
        exact engine_of_not_authorized service found unauthorized
  refine ⟨?_, ?_, ?_, fun verdict => no_user_of_requireClient⟩
  · intro asked
    exact Classical.byContradiction fun unauthorized => asked (untouched unauthorized)
  · intro authorized
    obtain ⟨route, parameters, question, found, answered⟩ :=
      exists_question_of_authorized service authorized
    refine ⟨question, ?_⟩
    rw [(respond_of_find? service fresh found).2, answered]
  · intro unauthorized reserved
    refine ⟨untouched unauthorized, ?_⟩
    cases found : Route.find? request.path with
    | none =>
        simp only [respond, found]
        exact ⟨⟨_, rfl, by simp [Response.withHeader, Response.bare, refusals]⟩, fun _ => trivial⟩
    | some destination =>
        obtain ⟨response, refused, answered⟩ :=
          exists_refusal_of_not_authorized service found unauthorized reserved
        have here := answered service.engine
        constructor
        · rw [(respond_of_find? service fresh found).1, here]
          exact ⟨_, rfl, (status_dress fresh request response).symm ▸ refused⟩
        · intro engine
          rw [(respond_of_find? _ fresh found).1, (respond_of_find? _ fresh found).1, answered,
            here]

/-- A machine client asks for the members of a group. With its token the provider is asked, with
a token that nobody knows it is not. -/
theorem engine_asked_only_if_authorized_for_members :
    let client : Verdict := { valid := true, clientId := some "portal", scopes := ["read"] }
    let issuer : Token.Validator := ⟨"issuer", fun _ token =>
      { result := .ok (if token = "secret" then client else .invalid) }⟩
    let home := Provider.Fake.scripted ⟨"home", "example.org", false, 500, [], some []⟩ 0 .answer
    let service : Service :=
      { engine := .ofRegistry (.ofList [home]), chain := .ofValidators [issuer] none,
        requiredScope := "read" }
    let request (shown : String) : Request :=
      { target := "/members/urn:collab:group:example.org:staff",
        headers := .ofFields [("Authorization", shown)] }
    service.Authorized (request "BEARER  secret ") ∧
      ¬service.Authorized (request "Bearer guess") ∧
      (service.respond "1" (request "Bearer guess")).2.engine = service.engine := by
  intro client issuer home service request
  have asked : (service.respond "1" (request "BEARER  secret ")).2.engine.partners.map
      Aggregation.Partner.asked = [[.members "urn:collab:group:example.org:staff"]] := by
    decide +kernel
  have different :
      (service.respond "1" (request "BEARER  secret ")).2.engine ≠ service.engine := by
    intro same
    rw [same] at asked
    cases asked
  have shown : Access.bearerToken? (request "Bearer guess").headers = some "guess" := by
    decide +kernel
  have unauthorized : ¬service.Authorized (request "Bearer guess") := by
    rintro ⟨_, _, token, _, shows, enough⟩
    have same : some token = some "guess" :=
      (Access.bearerToken?_eq_some_iff.mpr shows).symm.trans shown
    cases same
    exact absurd enough.valid (by decide +kernel)
  have reserved : ¬IsPublic (request "Bearer guess") := by
    rintro ⟨_, path | path⟩
    · exact absurd path (by decide +kernel)
    · exact absurd path (by decide +kernel)
  have authorized := (engine_asked_only_if_authorized service "1" (request "BEARER  secret ")).1
  have refused := (engine_asked_only_if_authorized service "1" (request "Bearer guess")).2.2.1
  exact ⟨authorized different, unauthorized, (refused unauthorized reserved).1⟩

end Service

end GroupFederation
