import GroupFederation.Service.Router

/-!
# From requests to questions

What the engine is asked for a request is settled before it is asked anything: the token, its
verdict, the method and the names in the path give either a question or the response that stands in
its place. `Service.resolve` computes which of the two it is, from everything but the engine, and
`authorize_of_restricted` says that the service answers exactly so.
-/

namespace GroupFederation

open Service (Response Route Request)

namespace Service

/-- What the engine can be asked for a request. -/
inductive Question where
  | groups (person organization : String)
  | externalGroups (person organization : String)
  | group (person group : String)
  | allGroups
  | members (group : String)
  deriving DecidableEq, Repr

/-- Put a question to the engine and answer with the result. -/
def ask (service : Service) : Question → Option Response × Service
  | .groups person organization =>
      service.answerGroups (service.engine.myGroups person organization)
  | .externalGroups person organization =>
      service.answerGroups (service.engine.myExternalGroups person organization)
  | .group person group => service.answerGroup group (service.engine.groupById person group)
  | .allGroups => service.answerGroups service.engine.allGroups
  | .members group => service.answerMembers (service.engine.members group)

/-- Answer with a question put to the engine, or with the response in its place. -/
def carryOut (service : Service) : Except Response Question → Option Response × Service
  | .ok question => service.ask question
  | .error response => (some response, service)

/-- An error counts as its response. -/
def refusing {α : Type} (attempt : Except ServiceError α) : Except Response α :=
  attempt.mapError ServiceError.response

/-- The question of a route for groups, from the verdict on the token and the names in the path. -/
def questionOf (verdict : Verdict) : Route → List String → Except Response Question
  | .myGroups, _ => refusing do
      let (person, organization) ← userOf verdict
      return .groups person organization
  | .myGroup, [group] => refusing do
      let (person, _) ← userOf verdict
      let _ ← wellFormed (Urn.requireGroup group)
      return .group person group
  | .userGroups, [person] => refusing do
      let organization ← wellFormed (Urn.requirePerson person)
      return .groups person organization
  | .userGroup, [person, group] => refusing do
      let _ ← wellFormed (Urn.requirePerson person)
      let _ ← wellFormed (Urn.requireGroup group)
      return .group person group
  | .userExternalGroups, [person] => refusing do
      let organization ← wellFormed (Urn.requirePerson person)
      return .externalGroups person organization
  | .allGroups, _ => .ok .allGroups
  | .members, [group] => refusing do
      let _ ← wellFormed (Urn.requireGroup group)
      return .members group
  | _, _ => .error (.bare 404)

/-- The question of a request whose token permits the route. -/
def questionOfRequest (verdict : Verdict) (route : Route) (parameters : List (String × String))
    (request : Request) : Except Response Question :=
  if !request.isReading then .error (.bare 405)
  else match Route.decodeParameters parameters with
    | .error name => .error (.text 400 ("Invalid URL: Invalid UTF-8 in \x60" ++ name ++ "\x60"))
    | .ok values => questionOf verdict route values

/-- The verdict of the chain on a token. -/
def verdictOn (service : Service) (token : String) : Verdict :=
  (service.chain.validate service.now token).2.1

/-- The service once the chain has given its verdict on a token. -/
def heard (service : Service) (token : String) : Service :=
  { service with
    chain := (service.chain.validate service.now token).1
    now := (service.chain.validate service.now token).2.2 }

/-- The question of a request with a verdict on its token, to a route that is not for everyone. -/
def permit (scope : String) (verdict : Verdict) (route : Route)
    (parameters : List (String × String)) (request : Request) : Except Response Question := do
  let _ ← refusing (Access.requireScope scope verdict)
  if route.audience = .clients then
    let _ ← refusing (Access.requireClient (some verdict))
    questionOfRequest verdict route parameters request
  else questionOfRequest verdict route parameters request

/-- The question of a request to a route that is not for everyone. -/
def resolve (service : Service) (route : Route) (parameters : List (String × String))
    (request : Request) : Except Response Question := do
  let token ← refusing (Access.requireToken request.headers)
  permit service.requiredScope (service.verdictOn token) route parameters request

/-- The service when it puts the question of a request, if it has one: the token has been looked
at. -/
def afterToken (service : Service) (request : Request) : Service :=
  match Access.bearerToken? request.headers with
  | none => service
  | some token => service.heard token

/-! ## The service answers so -/

theorem perform_of_restricted (service : Service) {route : Route}
    (restricted : route.audience ≠ .anyone) (verdict : Verdict) (values : List String) :
    service.perform route (some verdict) values =
      service.carryOut (questionOf verdict route values) := by
  cases route with
  | health | metrics => exact absurd rfl restricted
  | myGroups =>
      simp only [perform, questionOf, Access.requireVerdict, Except.bind]
      cases userOf verdict <;> rfl
  | allGroups => rfl
  | myGroup =>
      rcases values with _ | ⟨group, _ | ⟨_, _⟩⟩
      · rfl
      · simp only [perform, questionOf, Access.requireVerdict, Except.bind]
        cases userOf verdict <;> cases Urn.requireGroup group <;> rfl
      · rfl
  | userGroups | userExternalGroups =>
      rcases values with _ | ⟨person, _ | ⟨_, _⟩⟩
      · rfl
      · simp only [perform, questionOf]
        cases Urn.requirePerson person <;> rfl
      · rfl
  | userGroup =>
      rcases values with _ | ⟨person, _ | ⟨group, _ | ⟨_, _⟩⟩⟩
      · rfl
      · rfl
      · simp only [perform, questionOf]
        cases Urn.requirePerson person <;> cases Urn.requireGroup group <;> rfl
      · rfl
  | members =>
      rcases values with _ | ⟨group, _ | ⟨_, _⟩⟩
      · rfl
      · simp only [perform, questionOf]
        cases Urn.requireGroup group <;> rfl
      · rfl

theorem handle_of_restricted (service : Service) {route : Route}
    (restricted : route.audience ≠ .anyone) (verdict : Verdict)
    (parameters : List (String × String)) (request : Request) :
    service.handle route (some verdict) parameters request =
      service.carryOut (questionOfRequest verdict route parameters request) := by
  unfold handle questionOfRequest
  cases request.isReading with
  | false => rfl
  | true =>
      cases Route.decodeParameters parameters with
      | error name => rfl
      | ok values => exact service.perform_of_restricted restricted verdict values

/-- Who shows a token is let through or refused by the verdict on it. -/
theorem orRefuse_of_verdict (service : Service) {route : Route}
    (restricted : route.audience ≠ .anyone) (verdict : Verdict)
    (parameters : List (String × String)) (request : Request) :
    (service.orRefuse (Access.requireScope service.requiredScope verdict) fun _ =>
      if route.audience = .clients then
        service.orRefuse (Access.requireClient (some verdict)) fun _ =>
          service.handle route (some verdict) parameters request
      else service.handle route (some verdict) parameters request) =
      service.carryOut (permit service.requiredScope verdict route parameters request) := by
  rw [service.handle_of_restricted restricted]
  unfold permit
  cases Access.requireScope service.requiredScope verdict with
  | error error => rfl
  | ok _ =>
      cases route.audience with
      | anyone | authenticated => rfl
      | clients => cases Access.requireClient (some verdict) <;> rfl

/-- The service answers a request to such a route with its question, or with the response in its
place; either way it has looked at the token before. -/
theorem authorize_of_restricted (service : Service) {route : Route}
    (restricted : route.audience ≠ .anyone) (parameters : List (String × String))
    (request : Request) :
    service.authorize route parameters request =
      (service.afterToken request).carryOut (service.resolve route parameters request) := by
  have judged (token : String) := (service.heard token).orRefuse_of_verdict restricted
    (service.verdictOn token) parameters request
  unfold authorize resolve afterToken Access.requireToken
  cases Access.bearerToken? request.headers with
  | none =>
      cases audience : route.audience with
      | anyone => exact absurd audience restricted
      | authenticated | clients => rfl
  | some token =>
      refine Eq.trans ?_ (judged token)
      cases audience : route.audience with
      | anyone => exact absurd audience restricted
      | authenticated | clients => rfl

end Service

end GroupFederation
