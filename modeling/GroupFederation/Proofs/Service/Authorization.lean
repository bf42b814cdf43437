import GroupFederation.Proofs.Service.Guards

/-!
# Nobody is asked without authorization

A request is authorized when everything that the service demands of it holds at once: its route and
method, the token it shows, the verdict on that token, and the names in its path. The engine is
asked for authorized requests and for no others, and whoever is refused learns nothing about it.
-/

namespace GroupFederation

open Service (Response Route Request Part)

namespace Service

/-! ## Routes and their parameters -/

/-- The name of a parameter. -/
def Part.name? : Part → Option String
  | .fixed _ => none
  | .parameter name => some name

namespace Route

/-- The routes that lead to the engine. -/
def ofGroups : List Route :=
  [.myGroups, .myGroup, .userGroups, .userGroup, .userExternalGroups, .allGroups, .members]

/-- The first segment of the route is the given text. -/
def IsUnder (route : Route) (text : String) : Prop :=
  route.parts.head? = some (.fixed text)

/-- The names of the parameters in order. -/
def parameterNames (route : Route) : List String :=
  route.parts.filterMap Part.name?

/-- The value of a parameter is a well-formed name of the kind that the parameter is for. -/
def Accepts (name value : String) : Prop :=
  (name = "user_id" → Urn.isQualified .person value = true) ∧
    (name = "group_id" → Urn.isQualified .group value = true)

theorem mem_ofGroups_iff {route : Route} : route ∈ ofGroups ↔ route.audience ≠ .anyone := by
  cases route <;> decide

theorem audience_eq_clients_iff {route : Route} :
    route.audience = .clients ↔ route.IsUnder "internal" ∨ route.IsUnder "members" := by
  cases route <;> simp [audience, IsUnder, parts]

theorem matchParts_of_find? {path : String} {route : Route} {parameters : List (String × String)}
    (found : find? path = some (route, parameters)) :
    ∃ segments, segments? path = some segments ∧
      matchParts route.parts segments = some parameters := by
  obtain ⟨segments, split, chosen⟩ := Option.bind_eq_some_iff.mp found
  obtain ⟨candidate, _, matched⟩ := List.exists_of_findSome?_eq_some chosen
  obtain ⟨values, fits, same⟩ := Option.map_eq_some_iff.mp matched
  cases same
  exact ⟨segments, split, fits⟩

theorem names_of_matchParts {parts : List Part} {segments : List String}
    {parameters : List (String × String)} (fits : matchParts parts segments = some parameters) :
    parameters.map Prod.fst = parts.filterMap Part.name? := by
  induction parts generalizing segments parameters with
  | nil =>
      cases segments with
      | nil => cases fits; rfl
      | cons segment segments => cases fits
  | cons part parts inductionHypothesis =>
      cases segments with
      | nil => cases part <;> cases fits
      | cons segment segments =>
          cases part with
          | fixed text =>
              simp only [matchParts] at fits
              split at fits
              · exact inductionHypothesis fits
              · cases fits
          | parameter name =>
              simp only [matchParts] at fits
              split at fits
              · cases fits
              · obtain ⟨rest, remaining, rfl⟩ := Option.map_eq_some_iff.mp fits
                simp [Part.name?, inductionHypothesis remaining]

/-- Reading the parameters and judging what was read is judging them one by one. -/
theorem exists_decodeParameters_iff (accepts : String → String → Prop)
    (parameters : List (String × String)) :
    (∃ values, decodeParameters parameters = .ok values ∧
      ∀ pair ∈ (parameters.map Prod.fst).zip values, accepts pair.1 pair.2) ↔
      ∀ parameter ∈ parameters, ∃ value,
        Text.Percent.decodeText? parameter.2 = some value ∧ accepts parameter.1 value := by
  induction parameters with
  | nil => simp [decodeParameters]
  | cons parameter parameters inductionHypothesis =>
      obtain ⟨name, segment⟩ := parameter
      rw [List.forall_mem_cons, ← inductionHypothesis]
      simp only [decodeParameters]
      cases Text.Percent.decodeText? segment with
      | none => simp
      | some value =>
          cases decodeParameters parameters with
          | error name => simp
          | ok values => simp [or_imp, forall_and]

theorem length_of_decodeParameters {parameters : List (String × String)} {values : List String}
    (decoded : decodeParameters parameters = .ok values) : values.length = parameters.length := by
  induction parameters generalizing values with
  | nil => cases decoded; rfl
  | cons parameter parameters inductionHypothesis =>
      simp only [decodeParameters] at decoded
      split at decoded
      · cases decoded
      · split at decoded
        · cases decoded
        · rename_i rest read
          cases decoded
          simp [inductionHypothesis read]

end Route

/-! ## When a request has a question -/

theorem accepts_group_iff {name : String} :
    Route.Accepts "group_id" name ↔
      ∃ accepted, wellFormed (Urn.requireGroup name) = .ok accepted := by
  rw [exists_requireGroup_eq_ok_iff]
  simp [Route.Accepts]

theorem accepts_person_iff {name : String} :
    Route.Accepts "user_id" name ↔
      ∃ organization, wellFormed (Urn.requirePerson name) = .ok organization := by
  rw [exists_requirePerson_eq_ok_iff]
  simp [Route.Accepts]

/-- A question is made of names that are well formed; about oneself only a person can ask. -/
theorem exists_questionOf_eq_ok_iff {route : Route} (verdict : Verdict) {values : List String}
    (lengths : values.length = route.parameterNames.length) :
    (∃ question, questionOf verdict route values = .ok question) ↔
      route ∈ Route.ofGroups ∧ (route.IsUnder "me" → verdict.principal ≠ none) ∧
        ∀ pair ∈ route.parameterNames.zip values, Route.Accepts pair.1 pair.2 := by
  rw [← exists_userOf_eq_ok_iff]
  cases route with
  | health | metrics => simp [questionOf, Route.ofGroups]
  | allGroups =>
      have names : Route.allGroups.parameterNames = [] := rfl
      simp [questionOf, Route.ofGroups, Route.IsUnder, Route.parts, names]
  | myGroups =>
      have names : Route.myGroups.parameterNames = [] := rfl
      simp [questionOf, Route.ofGroups, Route.IsUnder, Route.parts, names, refusing_eq_ok_iff,
        exists_map_eq_ok_iff]
  | myGroup =>
      obtain ⟨group, rfl⟩ := List.length_eq_one_iff.mp lengths
      have names : Route.myGroup.parameterNames = ["group_id"] := rfl
      simp only [questionOf, names, List.zip_cons_cons, List.zip_nil_left, List.forall_mem_cons,
        accepts_group_iff]
      simp [Route.ofGroups, Route.IsUnder, Route.parts, refusing_eq_ok_iff,
        exists_bind_eq_ok_iff, exists_map_eq_ok_iff]
  | userGroups | userExternalGroups =>
      obtain ⟨person, rfl⟩ := List.length_eq_one_iff.mp lengths
      have names : Route.userGroups.parameterNames = ["user_id"] := rfl
      have externalNames : Route.userExternalGroups.parameterNames = ["user_id"] := rfl
      simp only [questionOf, names, externalNames, List.zip_cons_cons, List.zip_nil_left,
        List.forall_mem_cons, accepts_person_iff]
      simp [Route.ofGroups, Route.IsUnder, Route.parts, refusing_eq_ok_iff, exists_map_eq_ok_iff]
  | userGroup =>
      obtain ⟨person, others, rfl⟩ := List.exists_cons_of_length_eq_add_one lengths
      obtain ⟨group, rfl⟩ := List.length_eq_one_iff.mp (Nat.succ.inj lengths)
      have names : Route.userGroup.parameterNames = ["user_id", "group_id"] := rfl
      simp only [questionOf, names, List.zip_cons_cons, List.zip_nil_left, List.forall_mem_cons,
        accepts_person_iff, accepts_group_iff]
      simp [Route.ofGroups, Route.IsUnder, Route.parts, refusing_eq_ok_iff,
        exists_bind_eq_ok_iff, exists_map_eq_ok_iff]
  | members =>
      obtain ⟨group, rfl⟩ := List.length_eq_one_iff.mp lengths
      have names : Route.members.parameterNames = ["group_id"] := rfl
      simp only [questionOf, names, List.zip_cons_cons, List.zip_nil_left, List.forall_mem_cons,
        accepts_group_iff]
      simp [Route.ofGroups, Route.IsUnder, Route.parts, refusing_eq_ok_iff, exists_map_eq_ok_iff]

/-- What the service demands of a request besides its token and the verdict on that. -/
structure WellPosed (request : Request) (route : Route) (parameters : List (String × String)) :
    Prop where
  found : Route.find? request.path = some (route, parameters)
  leads : route ∈ Route.ofGroups
  reading : request.method = "GET" ∨ request.method = "HEAD"
  wellNamed : ∀ parameter ∈ parameters, ∃ value,
    Text.Percent.decodeText? parameter.2 = some value ∧ Route.Accepts parameter.1 value

/-- What the service demands of the verdict on the token that is shown for a route. -/
structure Suffices (verdict : Verdict) (scope : String) (route : Route) : Prop where
  valid : verdict.valid = true
  carries : scope ∈ verdict.scopes
  person : route.IsUnder "me" → verdict.principal ≠ none
  client : route.IsUnder "internal" ∨ route.IsUnder "members" → verdict.principal = none

/-- The request leads to the engine, shows a token, and the verdict on exactly that token
suffices. -/
def Authorized (service : Service) (request : Request) : Prop :=
  ∃ route parameters token, WellPosed request route parameters ∧
    Access.Shows request.headers token ∧
    Suffices (service.verdictOn token) service.requiredScope route

theorem isReading_iff {request : Request} :
    request.isReading = true ↔ request.method = "GET" ∨ request.method = "HEAD" := by
  simp [Request.isReading]

theorem exists_questionOfRequest_eq_ok_iff (verdict : Verdict) {route : Route}
    {parameters : List (String × String)} {request : Request}
    (found : Route.find? request.path = some (route, parameters)) :
    (∃ question, questionOfRequest verdict route parameters request = .ok question) ↔
      WellPosed request route parameters ∧ (route.IsUnder "me" → verdict.principal ≠ none) := by
  obtain ⟨segments, _, fits⟩ := Route.matchParts_of_find? found
  have names : parameters.map Prod.fst = route.parameterNames := Route.names_of_matchParts fits
  have judged := Route.exists_decodeParameters_iff Route.Accepts parameters
  have posed : WellPosed request route parameters ↔
      route ∈ Route.ofGroups ∧ request.isReading = true ∧
        ∃ values, Route.decodeParameters parameters = .ok values ∧
          ∀ pair ∈ route.parameterNames.zip values, Route.Accepts pair.1 pair.2 := by
    rw [← names, judged, isReading_iff]
    constructor
    · intro posed
      exact ⟨posed.leads, posed.reading, posed.wellNamed⟩
    · rintro ⟨leads, reading, wellNamed⟩
      exact ⟨found, leads, reading, wellNamed⟩
  rw [posed]
  unfold questionOfRequest
  cases request.isReading with
  | false => simp
  | true =>
      cases decoded : Route.decodeParameters parameters with
      | error name => simp
      | ok values =>
          have lengths : values.length = route.parameterNames.length := by
            rw [Route.length_of_decodeParameters decoded, ← names, List.length_map]
          have asked := exists_questionOf_eq_ok_iff verdict lengths
          simp [asked, and_comm, and_left_comm]

theorem suffices_iff {verdict : Verdict} {scope : String} {route : Route} :
    Suffices verdict scope route ↔
      Access.requireScope scope verdict = .ok () ∧
        (route.audience = .clients → Access.requireClient (some verdict) = .ok ()) ∧
        (route.IsUnder "me" → verdict.principal ≠ none) := by
  rw [Access.requireScope_eq_ok_iff, Access.requireClient_eq_ok_iff, Route.audience_eq_clients_iff]
  constructor
  · intro enough
    exact ⟨⟨enough.valid, enough.carries⟩, enough.client, enough.person⟩
  · rintro ⟨⟨valid, carries⟩, client, person⟩
    exact ⟨valid, carries, person, client⟩

theorem exists_permit_eq_ok_iff (scope : String) (verdict : Verdict) {route : Route}
    {parameters : List (String × String)} {request : Request}
    (found : Route.find? request.path = some (route, parameters)) :
    (∃ question, permit scope verdict route parameters request = .ok question) ↔
      WellPosed request route parameters ∧ Suffices verdict scope route := by
  have asked := exists_questionOfRequest_eq_ok_iff verdict found
  rw [suffices_iff]
  unfold permit
  simp only [exists_bind_eq_ok_iff, refusing_eq_ok_iff, exists_unit_iff]
  by_cases clients : route.audience = .clients
  · simp only [clients, if_true, exists_bind_eq_ok_iff, refusing_eq_ok_iff, exists_unit_iff, asked,
      true_implies, and_left_comm]
  · simp only [clients, if_false, asked, false_implies, true_and, and_left_comm]

/-- The service has a question for exactly the requests that are authorized. -/
theorem exists_resolve_eq_ok_iff (service : Service) {route : Route}
    {parameters : List (String × String)} {request : Request}
    (found : Route.find? request.path = some (route, parameters)) :
    (∃ question, service.resolve route parameters request = .ok question) ↔
      service.Authorized request := by
  unfold resolve
  simp only [exists_bind_eq_ok_iff, refusing_eq_ok_iff, Access.requireToken_eq_ok_iff,
    exists_permit_eq_ok_iff _ _ found]
  constructor
  · rintro ⟨token, shown, posed, enough⟩
    exact ⟨route, parameters, token, posed, shown, enough⟩
  · rintro ⟨other, values, token, posed, shown, enough⟩
    have same := posed.found.symm.trans found
    cases same
    exact ⟨token, shown, posed, enough⟩

/-- In place of a question an unauthorized request gets a response. -/
theorem exists_resolve_eq_error (service : Service) {route : Route}
    {parameters : List (String × String)} {request : Request}
    (found : Route.find? request.path = some (route, parameters))
    (unauthorized : ¬service.Authorized request) :
    ∃ response, service.resolve route parameters request = .error response := by
  cases resolved : service.resolve route parameters request with
  | ok question =>
      exact absurd ((exists_resolve_eq_ok_iff service found).mp ⟨question, resolved⟩) unauthorized
  | error response => exact ⟨response, rfl⟩

/-- An authorized request is answered with what the engine says to its question. -/
theorem exists_question_of_authorized (service : Service) {request : Request}
    (authorized : service.Authorized request) :
    ∃ route parameters question, Route.find? request.path = some (route, parameters) ∧
      service.authorize route parameters request =
        (service.afterToken request).ask question := by
  have ⟨route, parameters, token, posed, shown, enough⟩ := authorized
  obtain ⟨question, resolved⟩ := (exists_resolve_eq_ok_iff service posed.found).mpr authorized
  refine ⟨route, parameters, question, posed.found, ?_⟩
  rw [authorize_of_restricted service (Route.mem_ofGroups_iff.mp posed.leads), resolved]
  rfl

end Service

end GroupFederation
