import GroupFederation.Proofs.Service.Breakdown
import GroupFederation.Proofs.Text.Encoding
import GroupFederation.Provider.Fake

/-!
# Asking about oneself and being asked about

A person asks about the person's own groups under `/me`, and a machine client asks about any person
under `/internal`. The first takes the person and the organization from the verdict on a token, the
second takes the person from the path and the organization from the person's name. About the same
person both put the same question, or have the same response in its place: they differ in how they
come to a question only, and what follows depends on nothing but the question and the engine.
-/

namespace GroupFederation

open Service (Response Route Request)

namespace Service

/-! ## Paths -/

namespace Route

/-- A segment of a path that stands for a text. -/
structure Spells (segment text : String) : Prop where
  whole : '/' ∉ segment.toList
  decoded : Text.Percent.decodeText? segment = some text

namespace Spells

variable {segment text : String}

/-- The encoded form of a text stands for it. -/
theorem encodeSegment (text : String) : Spells (Text.Percent.encodeSegment text) text := by
  refine ⟨fun member => ?_, Text.Percent.decodeText?_encodeSegment text⟩
  have allowed := Text.Percent.of_mem_encodeSegment member
  revert allowed
  decide

/-- Only the empty segment stands for nothing. -/
theorem eq_empty_iff (spells : Spells segment text) : segment = "" ↔ text = "" := by
  rw [← Text.Percent.decodeText?_eq_empty_iff, spells.decoded, Option.some.injEq]

end Spells

section Find

variable {person segment : String}

theorem find?_me : find? "/me/groups" = some (.myGroups, []) := by
  decide

theorem find?_me_group (whole : '/' ∉ segment.toList) :
    find? ("/me/groups/" ++ segment) =
      if segment = "" then none else some (.myGroup, [("group_id", segment)]) := by
  have segments : segments? ("/me/groups/" ++ segment) = some ["me", "groups", segment] := by
    simp [segments?, Text.splitOn, Text.splitOn_of_not_mem whole]
  simp only [find?, segments]
  by_cases missing : segment = "" <;> simp [all, matchParts, parts, missing]

theorem find?_internal_person (whole : '/' ∉ person.toList) (present : person ≠ "") :
    find? ("/internal/groups/" ++ person) = some (.userGroups, [("user_id", person)]) := by
  have segments : segments? ("/internal/groups/" ++ person) =
      some ["internal", "groups", person] := by
    simp [segments?, Text.splitOn, Text.splitOn_of_not_mem whole]
  simp [find?, segments, all, matchParts, parts, present]

theorem find?_internal_group (whole : '/' ∉ person.toList) (wholeGroup : '/' ∉ segment.toList) :
    find? ("/internal/groups/" ++ person ++ "/" ++ segment) =
      if segment = "" then none
      else some (.userGroup, [("user_id", person), ("group_id", segment)]) := by
  have segments : segments? ("/internal/groups/" ++ person ++ "/" ++ segment) =
      some ["internal", "groups", person, segment] := by
    simp [segments?, Text.splitOn, Text.splitOn_append whole, Text.splitOn_of_not_mem wholeGroup]
  simp only [find?, segments]
  by_cases missing : segment = "" <;> simp [all, matchParts, parts, missing]

end Find

end Route

/-! ## Questions -/

/-- A request shows a token that the service finds valid and that carries its scope. -/
structure Bears (service : Service) (request : Request) (verdict : Verdict) : Prop where
  shown : ∃ token, Access.Shows request.headers token ∧ service.verdictOn token = verdict
  valid : verdict.valid = true
  carries : service.requiredScope ∈ verdict.scopes

/-- A valid token in scope permits a route that is not for machine clients, or that it has the right
kind for. -/
theorem Bears.resolve {service : Service} {request : Request} {verdict : Verdict}
    (bears : service.Bears request verdict) {route : Route}
    (permitted : route.audience = .clients → verdict.principal = none)
    (parameters : List (String × String)) :
    service.resolve route parameters request =
      questionOfRequest verdict route parameters request := by
  obtain ⟨token, shows, rfl⟩ := bears.shown
  have scope := Access.requireScope_eq_ok_iff.mpr ⟨bears.valid, bears.carries⟩
  unfold Service.resolve permit
  rw [Access.requireToken_eq_ok_iff.mpr shows]
  simp only [refusing, Except.mapError, bind, Except.bind, scope]
  by_cases clients : route.audience = .clients
  · rw [if_pos clients, Access.requireClient_eq_ok_iff.mpr (permitted clients)]
  · rw [if_neg clients]

/-- Without a question, and with the same one, the service responds alike. -/
theorem carryOut_alike {left right : Service} (engine : left.engine = right.engine)
    (resolved : Except Response Question) :
    (left.carryOut resolved).1 = (right.carryOut resolved).1 ∧
      (left.carryOut resolved).2.engine = (right.carryOut resolved).2.engine := by
  cases resolved with
  | error response => exact ⟨rfl, engine⟩
  | ok question =>
      cases question <;>
        simp [carryOut, ask, answerGroups, answerGroup, answerMembers, afterwards, engine]

/-- What a person asks about the own groups is what a machine client asks about that person. -/
theorem questionOf_agree {user : Verdict} (client : Verdict) {person organization : String}
    (principal : user.principal = some person)
    (qualified : Urn.organization? .person person = some organization)
    (home : user.organization = none ∨ user.organization = some organization) :
    questionOf user .myGroups [] = questionOf client .userGroups [person] ∧
      ∀ group, questionOf user .myGroup [group] = questionOf client .userGroup [person, group] := by
  have asUser : userOf user = .ok (person, organization) := by
    rcases home with none | same
    · simp [userOf, principal, none, qualified]
    · simp [userOf, principal, same]
  have asPerson : wellFormed (Urn.requirePerson person) = .ok organization := by
    simp [Urn.requirePerson, qualified, wellFormed]
  constructor
  · simp only [questionOf, asUser, asPerson]
    rfl
  · intro group
    simp only [questionOf, asUser, asPerson]
    rfl

theorem isReading_congr {left right : Request} (method : left.method = right.method) :
    left.isReading = right.isReading := by
  rw [Request.isReading, Request.isReading, method]

/-! ## Answers -/

/-- Two requests to a service are both answered, with the same status and the same body, and leave
the same engine behind. -/
structure Agree (service : Service) (fresh otherFresh : String) (left right : Request) : Prop where
  answers : ∃ response other, (service.respond fresh left).1 = some response ∧
    (service.respond otherFresh right).1 = some other ∧
      response.status = other.status ∧ response.body = other.body
  engine : (service.respond fresh left).2.engine = (service.respond otherFresh right).2.engine

section Agree

variable {service : Service} {fresh otherFresh : String} {left right : Request}

/-- Paths without a route are answered alike. -/
theorem agree_of_no_route (leftAbsent : Route.find? left.path = none)
    (rightAbsent : Route.find? right.path = none) :
    service.Agree fresh otherFresh left right := by
  constructor
  · simp only [respond, leftAbsent, rightAbsent]
    exact ⟨_, _, rfl, rfl, rfl, rfl⟩
  · simp only [respond, leftAbsent, rightAbsent]

/-- Requests with the same question, which is not for members, are answered alike. -/
theorem agree_of_resolve (method : left.method = right.method) {leftRoute rightRoute : Route}
    {leftParameters rightParameters : List (String × String)}
    (leftFound : Route.find? left.path = some (leftRoute, leftParameters))
    (rightFound : Route.find? right.path = some (rightRoute, rightParameters))
    (leftRestricted : leftRoute.audience ≠ .anyone)
    (rightRestricted : rightRoute.audience ≠ .anyone) (noMembers : rightRoute ≠ .members)
    (same : service.resolve leftRoute leftParameters left =
      service.resolve rightRoute rightParameters right) :
    service.Agree fresh otherFresh left right := by
  have engines : (service.afterToken left).engine = (service.afterToken right).engine :=
    (engine_afterToken service left).trans (engine_afterToken service right).symm
  obtain ⟨answers, engine⟩ :=
    carryOut_alike engines (service.resolve rightRoute rightParameters right)
  obtain ⟨leftAnswer, leftEngine⟩ := respond_of_find? service fresh leftFound
  obtain ⟨rightAnswer, rightEngine⟩ := respond_of_find? service otherFresh rightFound
  rw [authorize_of_restricted service leftRestricted, same] at leftAnswer leftEngine
  rw [authorize_of_restricted service rightRestricted] at rightAnswer rightEngine
  obtain ⟨response, answered⟩ : ∃ response, ((service.afterToken right).carryOut
      (service.resolve rightRoute rightParameters right)).1 = some response := by
    rw [← Option.ne_none_iff_exists', Ne, fst_carryOut_eq_none_iff]
    rintro ⟨group, resolved, -⟩
    exact noMembers (eq_members_of_resolve resolved)
  rw [answers, answered] at leftAnswer
  rw [answered] at rightAnswer
  have shapes : shape left response = shape right response := by
    rw [shape, shape, isReading_congr method, method]
  constructor
  · refine ⟨_, _, leftAnswer, rightAnswer, ?_, ?_⟩
    · rw [status_dress, status_dress]
    · show (shape left response).body = (shape right response).body
      rw [shapes]
  · rw [leftEngine, rightEngine, engine]

end Agree

/-- Whatever a service knows and whatever its providers do: a person who asks about the own groups,
or about one of them, is answered with the status and the body with which a machine client is
answered that asks about this person, and the engine is left as it is then, with the same calls to
providers. The names may be encoded in the paths in any way that is read back as the names; the
group need not be well formed, nor even there. -/
theorem me_agrees_with_internal (service : Service) (fresh otherFresh : String)
    {mine named : Request} (method : mine.method = named.method)
    {person organization : String} (qualified : Urn.organization? .person person = some organization)
    {user client : Verdict} (userBears : service.Bears mine user)
    (principal : user.principal = some person)
    (home : user.organization = none ∨ user.organization = some organization)
    (clientBears : service.Bears named client) (machine : client.principal = none)
    {segment : String} (spells : Route.Spells segment person) :
    (mine.path = "/me/groups" → named.path = "/internal/groups/" ++ segment →
        service.Agree fresh otherFresh mine named) ∧
      ∀ group mySegment groupSegment, Route.Spells mySegment group →
        Route.Spells groupSegment group →
        mine.path = "/me/groups/" ++ mySegment →
        named.path = "/internal/groups/" ++ segment ++ "/" ++ groupSegment →
          service.Agree fresh otherFresh mine named := by
  obtain ⟨groups, oneGroup⟩ := questionOf_agree client principal qualified home
  have present : segment ≠ "" := by
    rw [Ne, spells.eq_empty_iff]
    rintro rfl
    cases qualified
  have reading := isReading_congr method
  constructor
  · intro minePath namedPath
    refine agree_of_resolve method (minePath ▸ Route.find?_me)
      (namedPath ▸ Route.find?_internal_person spells.whole present) (by decide) (by decide)
      (by decide) ?_
    rw [userBears.resolve fun clients => absurd clients (by decide),
      clientBears.resolve fun _ => machine]
    simp only [questionOfRequest, reading, Route.decodeParameters, spells.decoded, groups]
  · intro group mySegment groupSegment mySpells groupSpells minePath namedPath
    have mineFound := Route.find?_me_group mySpells.whole
    have namedFound := Route.find?_internal_group spells.whole groupSpells.whole
    simp only [← minePath, mySpells.eq_empty_iff] at mineFound
    simp only [← namedPath, groupSpells.eq_empty_iff] at namedFound
    by_cases missing : group = ""
    · rw [if_pos missing] at mineFound namedFound
      exact agree_of_no_route mineFound namedFound
    · rw [if_neg missing] at mineFound namedFound
      refine agree_of_resolve method mineFound namedFound (by decide) (by decide) (by decide) ?_
      rw [userBears.resolve fun clients => absurd clients (by decide),
        clientBears.resolve fun _ => machine]
      simp only [questionOfRequest, reading, Route.decodeParameters, mySpells.decoded,
        groupSpells.decoded, spells.decoded, oneGroup]

/-- A group with a space in its name, which one request encodes as little as possible and the other
one further, and which the partner is asked for each time. -/
theorem me_agrees_with_internal_at_partner :
    let person := "urn:collab:person:example.org:jane"
    let group : Group :=
      ⟨"urn:collab:group:partner.org:a b", "A", none, "partner.org", ⟨.member⟩⟩
    let user : Verdict := { valid := true, principal := some person, scopes := ["read"] }
    let client : Verdict := { valid := true, clientId := some "portal", scopes := ["read"] }
    let issuer : Token.Validator := ⟨"issuer", fun _ token =>
      { result := .ok (if token = "jane" then user else client) }⟩
    let partner := Provider.Fake.scripted
      ⟨"partner", "partner.org", true, 500, [group], none⟩ 0 .answer
    let service : Service :=
      { engine := .ofRegistry (.ofList [partner]), chain := .ofValidators [issuer] none,
        requiredScope := "read" }
    let request (token target : String) : Request :=
      { target := target, headers := .ofFields [("Authorization", "Bearer " ++ token)] }
    let mine := request "jane" "/me/groups/urn:collab:group:partner.org:a%20b"
    let named := request "portal"
      "/internal/groups/urn:collab:person:example.org:jane/urn%3Acollab%3agroup:partner.org:a%20b"
    (service.respond "1" mine).1.map Response.status = some 200 ∧
      (service.respond "1" mine).2.engine.partners.map Aggregation.Partner.asked =
        [[.membership person group.id]] ∧
      service.Agree "1" "2" mine named := by
  intro person group user client issuer partner service request mine named
  have shows (token : String) (target : String)
      (read : Access.bearerToken? (request token target).headers = some token) :
      Access.Shows (request token target).headers token :=
    Access.bearerToken?_eq_some_iff.mp read
  have userBears : service.Bears mine user :=
    ⟨⟨"jane", shows _ _ (by decide +kernel), by decide +kernel⟩, rfl, by decide⟩
  have clientBears : service.Bears named client :=
    ⟨⟨"portal", shows _ _ (by decide +kernel), by decide +kernel⟩, rfl, by decide⟩
  have method : mine.method = named.method := rfl
  have qualified : Urn.organization? .person person = some "example.org" := by decide +kernel
  have personSpelled : Route.Spells person person := ⟨by decide +kernel, by decide +kernel⟩
  have mySpelled : Route.Spells "urn:collab:group:partner.org:a%20b" group.id :=
    ⟨by decide +kernel, by decide +kernel⟩
  have groupSpelled : Route.Spells "urn%3Acollab%3agroup:partner.org:a%20b" group.id :=
    ⟨by decide +kernel, by decide +kernel⟩
  have agree := (me_agrees_with_internal service "1" "2" method qualified userBears rfl (.inl rfl)
    clientBears rfl personSpelled).2 _ _ _ mySpelled groupSpelled (by decide +kernel)
    (by decide +kernel)
  exact ⟨by decide +kernel, by decide +kernel, agree⟩

end Service

end GroupFederation
