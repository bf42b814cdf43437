import GroupFederation.Proofs.Service.EndpointAgreement
import GroupFederation.Proofs.Service.Statuses

/-!
# Where responses arise

A request leaves the service at one of a few exits: no route has its path, a guard refuses it, its
method does not read, a parameter is no text, its handler refuses it, or it is answered. What arises
at the exit is what the inner layers say, and the outer ones put it in its envelope. A request that
breaks down does not get as far as any exit.
-/

namespace GroupFederation

open Service (Response Route Request)

namespace Service

/-- The exits, each with what is said there. -/
inductive Exit where
  /-- No route has the path. -/
  | unrouted
  /-- A guard or a handler refuses the request with an error of the service. -/
  | refused (error : ServiceError)
  /-- The method does not read. -/
  | writing
  /-- The bytes of a parameter are no text. -/
  | unreadable (parameter : String)
  | answered (response : Response)

/-- The response that arises at an exit. -/
def Exit.response : Exit → Response
  | .unrouted => .bare 404
  | .refused error => error.response
  | .writing => .bare 405
  | .unreadable parameter =>
      .text 400 ("Invalid URL: Invalid UTF-8 in \x60" ++ parameter ++ "\x60")
  | .answered response => response

section Exits

variable (service : Service) (request : Request)

/-- The guards of a route let the request pass, with a verdict if the route asks for one. -/
inductive Admits (route : Route) : Option Verdict → Prop where
  | anyone (unrestricted : route.audience = .anyone) : Admits route none
  | judged {verdict : Verdict} (restricted : route.audience ≠ .anyone)
      (bears : service.Bears request verdict)
      (permitted : route.audience = .clients → verdict.principal = none) :
      Admits route (some verdict)

/-- A guard of a route refuses the request. -/
inductive GuardRefuses (route : Route) : ServiceError → Prop where
  | token {error : ServiceError} (restricted : route.audience ≠ .anyone)
      (refused : Access.requireToken request.headers = .error error) : GuardRefuses route error
  | scope {token : String} {error : ServiceError} (restricted : route.audience ≠ .anyone)
      (shown : Access.requireToken request.headers = .ok token)
      (refused : Access.requireScope service.requiredScope (service.verdictOn token) =
        .error error) : GuardRefuses route error
  | client {token : String} {error : ServiceError} (clients : route.audience = .clients)
      (shown : Access.requireToken request.headers = .ok token)
      (granted : Access.requireScope service.requiredScope (service.verdictOn token) = .ok ())
      (refused : Access.requireClient (some (service.verdictOn token)) = .error error) :
      GuardRefuses route error

/-- The handler of a route ends a request that has been admitted. -/
inductive Handles (route : Route) (values : List String) : Option Verdict → Exit → Prop where
  | reported {response : Response}
      (told : (service.perform route none values).1 = some response) :
      Handles route values none (.answered response)
  | refused {verdict : Verdict} {error : ServiceError}
      (refused : questionOf verdict route values = .error error.response) :
      Handles route values (some verdict) (.refused error)
  | notFound {verdict : Verdict} {person group : String}
      (asked : questionOf verdict route values = .ok (.group person group))
      (absent : (service.engine.groupById person group).value = none) :
      Handles route values (some verdict) (.refused (.notFound ("Group " ++ group ++ " not found")))
  | answered {verdict : Verdict} {question : Question} {response : Response}
      (asked : questionOf verdict route values = .ok question)
      (present : ∀ person group, question = .group person group →
        (service.engine.groupById person group).value ≠ none)
      (told : (service.ask question).1 = some response) :
      Handles route values (some verdict) (.answered response)

/-- The request leaves the service at an exit. -/
inductive Leaves : Exit → Prop where
  | unrouted (absent : Route.find? request.path = none) : Leaves .unrouted
  | guarded {route : Route} {parameters : List (String × String)} {error : ServiceError}
      (found : Route.find? request.path = some (route, parameters))
      (refused : service.GuardRefuses request route error) : Leaves (.refused error)
  | writing {route : Route} {parameters : List (String × String)} {stored : Option Verdict}
      (found : Route.find? request.path = some (route, parameters))
      (admitted : service.Admits request route stored)
      (writes : request.isReading = false) : Leaves .writing
  | unreadable {route : Route} {parameters : List (String × String)} {stored : Option Verdict}
      {parameter : String} (found : Route.find? request.path = some (route, parameters))
      (admitted : service.Admits request route stored) (reads : request.isReading = true)
      (undecoded : Route.decodeParameters parameters = .error parameter) :
      Leaves (.unreadable parameter)
  | handled {route : Route} {parameters : List (String × String)} {stored : Option Verdict}
      {values : List String} {exit : Exit}
      (found : Route.find? request.path = some (route, parameters))
      (admitted : service.Admits request route stored) (reads : request.isReading = true)
      (decoded : Route.decodeParameters parameters = .ok values)
      (handled : service.Handles route values stored exit) : Leaves exit

end Exits

variable {service : Service} {request : Request} {route : Route} {stored : Option Verdict}
  {parameters : List (String × String)} {values : List String} {exit : Exit}

/-! ## Who gets to an exit -/

/-- The guards of a route let a request pass or refuse it. -/
theorem admits_or_guardRefuses (service : Service) (request : Request) (route : Route) :
    (∃ stored, service.Admits request route stored) ∨
      ∃ error, service.GuardRefuses request route error := by
  by_cases unrestricted : route.audience = .anyone
  · exact .inl ⟨none, .anyone unrestricted⟩
  cases shown : Access.requireToken request.headers with
  | error error => exact .inr ⟨error, .token unrestricted shown⟩
  | ok token =>
      cases granted : Access.requireScope service.requiredScope (service.verdictOn token) with
      | error error => exact .inr ⟨error, .scope unrestricted shown granted⟩
      | ok _ =>
          obtain ⟨valid, carries⟩ := Access.requireScope_eq_ok_iff.mp granted
          have bears : service.Bears request (service.verdictOn token) :=
            ⟨⟨token, Access.requireToken_eq_ok_iff.mp shown, rfl⟩, valid, carries⟩
          by_cases clients : route.audience = .clients
          · cases client : Access.requireClient (some (service.verdictOn token)) with
            | error error => exact .inr ⟨error, .client clients shown granted client⟩
            | ok _ =>
                have machine := Access.requireClient_eq_ok_iff.mp client
                exact .inl ⟨_, .judged unrestricted bears fun _ => machine⟩
          · exact .inl ⟨_, .judged unrestricted bears fun isClients => absurd isClients clients⟩

/-- What is refused in place of a question is refused with an error of the service. -/
theorem exists_error_of_questionOf {verdict : Verdict} (restricted : route.audience ≠ .anyone)
    (lengths : values.length = route.parameterNames.length) {response : Response}
    (refused : questionOf verdict route values = .error response) :
    ∃ error : ServiceError, response = error.response := by
  have mapped {α : Type} {attempt : Except ServiceError α}
      (failed : refusing attempt = .error response) :
      ∃ error : ServiceError, response = error.response := by
    cases attempt with
    | error error =>
        cases failed
        exact ⟨error, rfl⟩
    | ok value => cases failed
  cases route with
  | health | metrics => exact absurd rfl restricted
  | myGroups => exact mapped refused
  | allGroups => cases refused
  | myGroup | userGroups | userExternalGroups | members =>
      obtain ⟨name, rfl⟩ := List.length_eq_one_iff.mp lengths
      exact mapped refused
  | userGroup =>
      obtain ⟨person, others, rfl⟩ := List.exists_cons_of_length_eq_add_one lengths
      obtain ⟨group, rfl⟩ := List.length_eq_one_iff.mp (Nat.succ.inj lengths)
      exact mapped refused

/-- The handler of a route is reached through its guards. -/
theorem authorize_of_admits (admitted : service.Admits request route stored) :
    (service.authorize route parameters request).1 =
      (service.handle route stored parameters request).1 := by
  cases admitted with
  | anyone unrestricted => rw [authorize, unrestricted]
  | judged restricted bears permitted =>
      rw [authorize_of_restricted service restricted, bears.resolve permitted,
        handle_of_restricted service restricted]
      exact (carryOut_alike (service.engine_afterToken request) _).1

theorem exists_handles (admitted : service.Admits request route stored)
    (lengths : values.length = route.parameterNames.length) {response : Response}
    (told : (service.perform route stored values).1 = some response) :
    ∃ exit, service.Handles route values stored exit := by
  cases admitted with
  | anyone unrestricted => exact ⟨_, .reported told⟩
  | @judged verdict restricted bears permitted =>
      rw [perform_of_restricted service restricted] at told
      cases asked : questionOf verdict route values with
      | error response =>
          obtain ⟨error, rfl⟩ := exists_error_of_questionOf restricted lengths asked
          exact ⟨_, .refused asked⟩
      | ok question =>
          rw [asked] at told
          cases question with
          | group person group =>
              cases looked : (service.engine.groupById person group).value with
              | none => exact ⟨_, .notFound asked looked⟩
              | some found =>
                  refine ⟨_, .answered asked (fun _ _ same => ?_) told⟩
                  cases same
                  simp [looked]
          | groups | externalGroups | allGroups | members =>
              exact ⟨_, .answered asked (fun _ _ same => nomatch same) told⟩

/-- A request that gets a response leaves at an exit. -/
theorem exists_leaves {fresh : String} {response : Response}
    (sent : (service.respond fresh request).1 = some response) :
    ∃ exit, service.Leaves request exit := by
  cases found : Route.find? request.path with
  | none => exact ⟨_, .unrouted found⟩
  | some destination =>
      obtain ⟨route, parameters⟩ := destination
      rcases service.admits_or_guardRefuses request route with ⟨stored, admitted⟩ | ⟨error, refused⟩
      · cases reads : request.isReading with
        | false => exact ⟨_, .writing found admitted reads⟩
        | true =>
            cases decoded : Route.decodeParameters parameters with
            | error parameter => exact ⟨_, .unreadable found admitted reads decoded⟩
            | ok values =>
                rw [(respond_of_find? service fresh found).1, authorize_of_admits admitted, handle,
                  reads, decoded] at sent
                obtain ⟨inner, told, -⟩ := Option.map_eq_some_iff.mp sent
                obtain ⟨exit, handled⟩ :=
                  exists_handles admitted (Route.length_of_find? found decoded) told
                exact ⟨exit, .handled found admitted reads decoded handled⟩
      · exact ⟨_, .guarded found refused⟩

/-! ## What arises at an exit is the response -/

theorem authorize_of_guardRefuses {error : ServiceError}
    (refused : service.GuardRefuses request route error) :
    (service.authorize route parameters request).1 = some error.response := by
  have restricted : route.audience ≠ .anyone := by
    cases refused with
    | token restricted | scope restricted => exact restricted
    | client clients => simp [clients]
  have resolved : service.resolve route parameters request = .error error.response := by
    unfold resolve permit
    cases refused with
    | token _ refused =>
        rw [refused]
        rfl
    | scope _ shown refused =>
        simp only [shown, refusing, Except.mapError, bind, Except.bind, refused]
    | client clients shown granted refused =>
        simp only [shown, refusing, Except.mapError, bind, Except.bind, granted, clients, if_true,
          refused]
  rw [authorize_of_resolve_eq_error service restricted resolved]

theorem perform_of_handles (admitted : service.Admits request route stored)
    (handled : service.Handles route values stored exit) :
    (service.perform route stored values).1 = some exit.response := by
  cases admitted with
  | anyone unrestricted =>
      cases handled with
      | reported told => exact told
  | judged restricted bears permitted =>
      rw [perform_of_restricted service restricted]
      cases handled with
      | refused refused =>
          rw [refused]
          rfl
      | notFound asked absent =>
          rw [asked]
          simp [carryOut, ask, answerGroup, absent, Exit.response]
      | answered asked present told =>
          rw [asked]
          exact told

theorem authorize_of_leaves (found : Route.find? request.path = some (route, parameters))
    (leaves : service.Leaves request exit) :
    (service.authorize route parameters request).1 = some exit.response := by
  cases leaves with
  | unrouted absent =>
      rw [found] at absent
      cases absent
  | guarded foundAgain refused =>
      cases found.symm.trans foundAgain
      exact authorize_of_guardRefuses refused
  | writing foundAgain admitted writes =>
      cases found.symm.trans foundAgain
      rw [authorize_of_admits admitted, handle, writes]
      rfl
  | unreadable foundAgain admitted reads undecoded =>
      cases found.symm.trans foundAgain
      rw [authorize_of_admits admitted, handle, reads, undecoded]
      rfl
  | handled foundAgain admitted reads decoded handled =>
      cases found.symm.trans foundAgain
      rw [authorize_of_admits admitted, handle, reads, decoded]
      exact perform_of_handles admitted handled

end Service

end GroupFederation
