import GroupFederation.Proofs.Service.Statuses

/-!
# How requests are counted

A path belongs to at most one route, because two templates of the same length differ in a fixed
segment. A request whose path belongs to a route is counted once: under its method, the template of
the route and the status of the response that is sent, no matter who answers or refuses it. Any
other request is counted nowhere, and neither is a request that breaks down, which gets no response
that it could be counted by.
-/

namespace GroupFederation

open Service (Response Route Request Part)

namespace Service

/-! ## The route of a path -/

namespace Route

/-- Segments that the parts of a template stand for: a fixed part for its own text, and a parameter
for any segment, but at the end of a path not for an empty one. -/
inductive Fits : List Part → List String → Prop where
  | nil : Fits [] []
  | fixed {text : String} {parts : List Part} {segments : List String} :
      Fits parts segments → Fits (.fixed text :: parts) (text :: segments)
  | parameter {name segment : String} {parts : List Part} {segments : List String}
      (present : parts = [] → segment ≠ "") :
      Fits parts segments → Fits (.parameter name :: parts) (segment :: segments)

/-- The path belongs to the route. -/
def Matches (route : Route) (path : String) : Prop :=
  ∃ segments, segments? path = some segments ∧ Fits route.parts segments

theorem fits_of_matchParts {parts : List Part} {segments : List String}
    {parameters : List (String × String)} (fits : matchParts parts segments = some parameters) :
    Fits parts segments := by
  induction parts generalizing segments parameters with
  | nil =>
      cases segments with
      | nil => exact .nil
      | cons segment segments => cases fits
  | cons part parts inductionHypothesis =>
      cases segments with
      | nil => cases part <;> cases fits
      | cons segment segments =>
          cases part with
          | fixed text =>
              simp only [matchParts] at fits
              split at fits
              · rename_i same
                exact same ▸ .fixed (inductionHypothesis fits)
              · cases fits
          | parameter name =>
              simp only [matchParts] at fits
              split at fits
              · cases fits
              · rename_i present
                obtain ⟨rest, remaining, _⟩ := Option.map_eq_some_iff.mp fits
                refine .parameter ?_ (inductionHypothesis remaining)
                intro last empty
                simp [last, empty] at present

theorem exists_matchParts_of_fits {parts : List Part} {segments : List String}
    (fits : Fits parts segments) : ∃ parameters, matchParts parts segments = some parameters := by
  induction fits with
  | nil => exact ⟨[], rfl⟩
  | fixed _ inductionHypothesis =>
      obtain ⟨parameters, matched⟩ := inductionHypothesis
      exact ⟨parameters, by simp [matchParts, matched]⟩
  | @parameter name segment parts segments present _ inductionHypothesis =>
      obtain ⟨parameters, matched⟩ := inductionHypothesis
      have kept : (parts.isEmpty && segment == "") = false := by
        cases parts with
        | nil => simpa using present rfl
        | cons part parts => rfl
      exact ⟨(name, segment) :: parameters, by simp [matchParts, matched, kept]⟩

/-- Two templates may have a path in common. -/
def overlap : List Part → List Part → Bool
  | [], [] => true
  | .fixed left :: lefts, .fixed right :: rights => left == right && overlap lefts rights
  | _ :: lefts, _ :: rights => overlap lefts rights
  | _, _ => false

theorem overlap_of_fits {left right : List Part} {segments : List String}
    (leftFits : Fits left segments) (rightFits : Fits right segments) :
    overlap left right = true := by
  induction leftFits generalizing right with
  | nil =>
      cases rightFits with
      | nil => rfl
  | fixed _ inductionHypothesis =>
      cases rightFits with
      | fixed rest => simpa [overlap] using inductionHypothesis rest
      | parameter _ rest => exact inductionHypothesis rest
  | parameter _ _ inductionHypothesis =>
      cases rightFits with
      | fixed rest => exact inductionHypothesis rest
      | parameter _ rest => exact inductionHypothesis rest

theorem eq_of_overlap {left right : Route} :
    overlap left.parts right.parts = true → left = right := by
  cases left <;> cases right <;> decide

/-- A path belongs to one route at most. -/
theorem Matches.unique {left right : Route} {path : String} (leftMatches : left.Matches path)
    (rightMatches : right.Matches path) : left = right := by
  obtain ⟨segments, split, leftFits⟩ := leftMatches
  obtain ⟨others, splitAgain, rightFits⟩ := rightMatches
  have same : segments = others := Option.some.inj (split.symm.trans splitAgain)
  subst same
  exact eq_of_overlap (overlap_of_fits leftFits rightFits)

theorem mem_all (route : Route) : route ∈ all := by
  cases route <;> decide

/-- What is found is the route that the path belongs to. -/
theorem exists_find?_iff {path : String} {route : Route} :
    (∃ parameters, find? path = some (route, parameters)) ↔ route.Matches path := by
  have sound {route : Route} {parameters : List (String × String)}
      (found : find? path = some (route, parameters)) : route.Matches path := by
    obtain ⟨segments, split, fits⟩ := matchParts_of_find? found
    exact ⟨segments, split, fits_of_matchParts fits⟩
  constructor
  · rintro ⟨parameters, found⟩
    exact sound found
  · intro matched
    obtain ⟨segments, split, fits⟩ := matched
    obtain ⟨parameters, taken⟩ := exists_matchParts_of_fits fits
    have isFound : (find? path).isSome := by
      simp only [find?, split, Option.bind_eq_bind, Option.bind_some, List.findSome?_isSome_iff]
      exact ⟨route, mem_all route, by simp [taken]⟩
    obtain ⟨⟨other, values⟩, found⟩ := Option.isSome_iff_exists.mp isFound
    have same : other = route := (sound found).unique ⟨segments, split, fits⟩
    exact ⟨values, same ▸ found⟩

end Route

/-! ## One request -/

namespace Exchange

/-- The path of the request belongs to a route. -/
def IsRouted (exchange : Exchange) : Prop :=
  ∃ route : Route, route.Matches exchange.request.path

/-- The path of the request belongs to a route, and it gets a response. -/
def IsAnswered (exchange : Exchange) : Prop :=
  exchange.IsRouted ∧ exchange.response.isSome

/-- The series under which the request is counted: its method, the template of its route and the
status that is sent. -/
def CountsAs (exchange : Exchange) (label : RequestLabel) : Prop :=
  ∃ (route : Route) (response : Response), route.Matches exchange.request.path ∧
    exchange.response = some response ∧
      label = ⟨exchange.request.method, route.template, response.status⟩

/-- The label of that series, if the request has one. -/
def label? (exchange : Exchange) : Option RequestLabel := do
  let (route, _) ← Route.find? exchange.request.path
  let response ← exchange.response
  some ⟨exchange.request.method, route.template, response.status⟩

theorem label?_eq_some_iff {exchange : Exchange} {label : RequestLabel} :
    exchange.label? = some label ↔ exchange.CountsAs label := by
  simp only [label?, CountsAs, Option.bind_eq_bind, Option.bind_eq_some_iff, Prod.exists,
    Option.some.injEq, ← Route.exists_find?_iff]
  constructor
  · rintro ⟨route, parameters, found, response, answered, labelled⟩
    exact ⟨route, response, ⟨parameters, found⟩, answered, labelled.symm⟩
  · rintro ⟨route, response, ⟨parameters, found⟩, answered, labelled⟩
    exact ⟨route, parameters, found, response, answered, labelled.symm⟩

theorem isAnswered_iff {exchange : Exchange} :
    exchange.IsAnswered ↔ ∃ label, exchange.CountsAs label := by
  constructor
  · rintro ⟨⟨route, matched⟩, answered⟩
    obtain ⟨response, sent⟩ := Option.isSome_iff_exists.mp answered
    exact ⟨_, route, response, matched, sent, rfl⟩
  · rintro ⟨_, route, response, matched, sent, _⟩
    exact ⟨⟨route, matched⟩, Option.isSome_iff_exists.mpr ⟨response, sent⟩⟩

theorem isSome_label?_iff {exchange : Exchange} :
    exchange.label?.isSome ↔ exchange.IsAnswered := by
  simp only [Option.isSome_iff_exists, label?_eq_some_iff, isAnswered_iff]

theorem isSome_find?_iff {exchange : Exchange} :
    (Route.find? exchange.request.path).isSome ↔ exchange.IsRouted := by
  simp only [Option.isSome_iff_exists, Prod.exists, Route.exists_find?_iff, IsRouted]

instance (exchange : Exchange) (label : RequestLabel) : Decidable (exchange.CountsAs label) :=
  decidable_of_iff _ label?_eq_some_iff

instance (exchange : Exchange) : Decidable exchange.IsAnswered :=
  decidable_of_iff _ isSome_label?_iff

instance (exchange : Exchange) : Decidable exchange.IsRouted :=
  decidable_of_iff _ isSome_find?_iff

end Exchange

theorem requests_ask (service : Service) (question : Question) :
    (service.ask question).2.requests = service.requests := by
  cases question <;> rfl

theorem requests_afterToken (service : Service) (request : Request) :
    (service.afterToken request).requests = service.requests := by
  simp only [afterToken]
  split <;> rfl

/-- Counting is left to the end: neither guards nor handlers count a request. -/
theorem requests_authorize (service : Service) (route : Route)
    (parameters : List (String × String)) (request : Request) :
    (service.authorize route parameters request).2.requests = service.requests := by
  by_cases unrestricted : route.audience = .anyone
  · rw [state_of_unrestricted service unrestricted]
  · rw [authorize_of_restricted service unrestricted]
    cases service.resolve route parameters request with
    | ok question =>
        exact ((service.afterToken request).requests_ask question).trans
          (service.requests_afterToken request)
    | error response => exact service.requests_afterToken request

/-- A request is counted once under the label of its exchange, if it has one. -/
theorem requests_respond (service : Service) (fresh : String) (request : Request) :
    (service.respond fresh request).2.requests =
      service.requests.addAll
        (Exchange.mk service request (service.respond fresh request).1).label?.toList := by
  cases found : Route.find? request.path with
  | none => simp [respond, Exchange.label?, found, Tally.addAll]
  | some destination =>
      obtain ⟨route, parameters⟩ := destination
      have uncounted := service.requests_authorize route parameters request
      simp only [respond, found, Exchange.label?]
      revert uncounted
      rcases service.authorize route parameters request with ⟨_ | response, after⟩
      · exact id
      · rintro (uncounted : after.requests = service.requests)
        simp [Tally.addAll, Response.withHeader, uncounted]

/-! ## All requests -/

/-- The labels of the exchanges are counted one after the other. -/
theorem requests_serveAll (service : Service) (events : List Event) :
    (service.serveAll events).requests =
      service.requests.addAll ((service.exchanges events).filterMap Exchange.label?) := by
  induction events generalizing service with
  | nil => rfl
  | cons event events inductionHypothesis =>
      cases event with
      | pause duration => exact inductionHypothesis (service.wait duration)
      | arrival fresh request =>
          rw [serveAll, inductionHypothesis, requests_respond, exchanges, Tally.addAll,
            Tally.addAll, ← List.foldl_append, ← Tally.addAll]
          congr 1
          cases labelled : (Exchange.mk service request (service.respond fresh request).1).label?
          · simp [labelled]
          · simp [labelled]

theorem count_labels (exchanges : List Exchange) (label : RequestLabel) :
    (exchanges.filterMap Exchange.label?).count label =
      exchanges.countP fun exchange => exchange.CountsAs label := by
  rw [List.count_filterMap]
  refine List.countP_congr fun exchange _ => ?_
  rw [beq_iff_eq, decide_eq_true_iff, Exchange.label?_eq_some_iff]

theorem length_labels (exchanges : List Exchange) :
    (exchanges.filterMap Exchange.label?).length =
      exchanges.countP fun exchange => exchange.IsAnswered := by
  rw [List.length_filterMap_eq_countP]
  refine List.countP_congr fun exchange _ => ?_
  rw [decide_eq_true_iff, Exchange.isSome_label?_iff]

/-- Only requests that are counted make series. -/
theorem mem_labels_serveAll_iff {service : Service} {events : List Event} {label : RequestLabel} :
    label ∈ (service.serveAll events).requests.labels ↔
      label ∈ service.requests.labels ∨
        ∃ exchange ∈ service.exchanges events, exchange.CountsAs label := by
  rw [requests_serveAll, Tally.mem_labels_addAll]
  simp only [List.mem_filterMap, Exchange.label?_eq_some_iff]

/-- A running service counts each request whose path belongs to a route and that gets a response
once, whatever the response is: under its method, the template of the route and the status that is
sent. All counts together grow by the number of these requests, no other series appears, and no path
in a new one is more than the template of a route.

A request gets no response exactly if it breaks down. As long as none does, all counts together grow
by the number of requests whose paths belong to routes; and none ever does where no provider breaks
down while it lists members, as is the case in every service that is made from settings. -/
theorem requests_counted_exactly (service : Service) (events : List Event) :
    let exchanges := service.exchanges events
    let counts := (service.serveAll events).requests
    (∀ label, counts.count label =
        service.requests.count label +
          exchanges.countP fun exchange => exchange.CountsAs label) ∧
      counts.total =
        service.requests.total + (exchanges.countP fun exchange => exchange.IsAnswered) ∧
      (∀ label, label ∈ counts.labels ↔
        label ∈ service.requests.labels ∨ ∃ exchange ∈ exchanges, exchange.CountsAs label) ∧
      (∀ label ∈ counts.labels,
        label ∈ service.requests.labels ∨ ∃ route : Route, label.path = route.template) ∧
      (∀ exchange ∈ exchanges,
        exchange.response = none ↔ exchange.service.BreaksDown exchange.request) ∧
      ((∀ exchange ∈ exchanges, ¬exchange.service.BreaksDown exchange.request) →
        counts.total =
          service.requests.total + (exchanges.countP fun exchange => exchange.IsRouted)) ∧
      (service.ListsSafely →
        ∀ exchange ∈ exchanges, ¬exchange.service.BreaksDown exchange.request) ∧
      ∀ settings network, ofSettings settings network = .ok service → service.ListsSafely := by
  intro exchanges counts
  have counted : counts =
      service.requests.addAll (exchanges.filterMap Exchange.label?) :=
    requests_serveAll service events
  have total : counts.total =
      service.requests.total + (exchanges.countP fun exchange => exchange.IsAnswered) := by
    rw [counted, Tally.total_addAll, length_labels]
  refine ⟨?_, total, fun label => mem_labels_serveAll_iff, ?_,
    response_eq_none_iff service events, ?_,
    fun safe => not_breaksDown_of_listsSafely safe events,
    fun settings network => listsSafely_ofSettings⟩
  · intro label
    rw [counted, Tally.count_addAll, count_labels]
  · intro label member
    rcases mem_labels_serveAll_iff.mp member with before | ⟨exchange, _, route, _, _, _, rfl⟩
    · exact .inl before
    · exact .inr ⟨route, rfl⟩
  · intro unbroken
    rw [total]
    congr 1
    refine List.countP_congr fun exchange member => ?_
    have answered : exchange.response.isSome := by
      rw [Option.isSome_iff_ne_none, Ne, response_eq_none_iff service events exchange member]
      exact unbroken exchange member
    simp [Exchange.IsAnswered, answered]

/-- A service has answered health, refused to write it, and turned down four requests for groups;
beside that it was asked for a path without a route. Each of the six is counted once, and none of
the seven breaks down. -/
theorem requests_counted_exactly_of_refusals :
    let client : Verdict := { valid := true, clientId := some "portal", scopes := ["read"] }
    let issuer : Token.Validator := ⟨"issuer", fun _ token =>
      { result := .ok (if token = "portal" then client
          else if token = "jane" then { client with principal := some "jane" }
          else .invalid) }⟩
    let service : Service :=
      { engine := .ofRegistry (.ofList []), chain := .ofValidators [issuer] none,
        requiredScope := "read" }
    let ask (token target : String) : Event := .arrival "1"
      { target := target, headers := .ofFields [("Authorization", "Bearer " ++ token)] }
    let events : List Event := [
      .arrival "1" { target := "/health", headers := .empty },
      .arrival "1" { method := "POST", target := "/health", headers := .empty },
      ask "guess" "/me/groups", .pause 10, ask "jane" "/members/a", ask "portal" "/members/a",
      ask "portal" "/internal/groups/urn:collab:person:a:b/urn:collab:group:a:c",
      ask "portal" "/groups"]
    let label : RequestLabel := ⟨"GET", "/internal/groups/:user_id/:group_id", 404⟩
    let counts := (service.serveAll events).requests
    counts.counts = [(⟨"GET", "/health", 200⟩, 1), (⟨"POST", "/health", 405⟩, 1),
        (⟨"GET", "/me/groups", 401⟩, 1), (⟨"GET", "/members/:group_id", 403⟩, 1),
        (⟨"GET", "/members/:group_id", 400⟩, 1), (label, 1)] ∧
      (label ∈ counts.labels ∧ ∃ route : Route, label.path = route.template) ∧
      service.ListsSafely ∧
      (∀ exchange ∈ service.exchanges events, ¬exchange.service.BreaksDown exchange.request) ∧
      (service.exchanges events).countP (fun exchange => exchange.IsRouted) = 6 := by
  intro client issuer service ask events label counts
  have rows : counts.counts = [(⟨"GET", "/health", 200⟩, 1), (⟨"POST", "/health", 405⟩, 1),
      (⟨"GET", "/me/groups", 401⟩, 1), (⟨"GET", "/members/:group_id", 403⟩, 1),
      (⟨"GET", "/members/:group_id", 400⟩, 1), (label, 1)] := by
    decide +kernel
  have appears : label ∈ counts.labels := by
    rw [Tally.labels, rows]
    decide
  have safe : service.ListsSafely := fun provider listed => absurd listed List.not_mem_nil
  obtain ⟨-, -, -, templates, -, unbroken, never, -⟩ := requests_counted_exactly service events
  have routed := templates label appears
  have total := unbroken (never safe)
  have six : counts.total = 6 := by
    rw [Tally.total, rows]
    rfl
  refine ⟨rows, ⟨appears, routed.resolve_left List.not_mem_nil⟩, safe, never safe, ?_⟩
  rw [← six, total]
  exact (Nat.zero_add _).symm

/-- A machine client asks for the members of a group, and the provider that lists them breaks down:
nobody gets a response, and nothing is counted. -/
example :
    let client : Verdict := { valid := true, clientId := some "portal", scopes := ["read"] }
    let issuer : Token.Validator := ⟨"issuer", fun _ _ => { result := .ok client }⟩
    let home := Provider.Fake.scripted ⟨"home", "example.org", false, 500, [], some []⟩ 0 .crash
    let service : Service :=
      { engine := .ofRegistry (.ofList [home]), chain := .ofValidators [issuer] none,
        requiredScope := "read" }
    let request : Request :=
      { target := "/members/urn:collab:group:example.org:staff"
        headers := .ofFields [("Authorization", "Bearer portal")] }
    (service.respond "1" request).1 = none ∧
      (service.respond "1" request).2.requests.counts = [] ∧
      (service.respond "1" request).2.engine.partners.map Aggregation.Partner.asked =
        [[.members "urn:collab:group:example.org:staff"]] := by
  decide +kernel

end Service

end GroupFederation
