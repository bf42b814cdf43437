import GroupFederation.Proofs.Service.RequestCounts
import Mathlib.Data.Finite.Prod
import Mathlib.Data.Set.Finite.Lattice

/-!
# How many series requests can make

A series of counted requests is named by a method, the template of a route and a status. The
templates and the statuses are few, whatever is asked; but the method is taken from the request as
it stands, and a caller may make one up. So requests make finitely many series exactly when their
methods are finitely many.
-/

namespace GroupFederation

open Service (Request Route)

namespace Service

/-- The series that requests of a kind can make in services that have not counted any yet, however
many of them come and in whatever order. -/
def seriesOf (kind : Set Request) : Set RequestLabel :=
  {label | ∃ (service : Service) (events : List Event), service.requests = .empty ∧
    (∀ fresh request, .arrival fresh request ∈ events → request ∈ kind) ∧
    label ∈ (service.serveAll events).requests.labels}

/-- The methods of the requests of a kind, apart from those whose path has no route. -/
def methodsOf (kind : Set Request) : Set String :=
  {method | ∃ request ∈ kind, (∃ route : Route, route.Matches request.path) ∧
    request.method = method}

/-- The series with certain methods, the template of a route and the status of an answer or a
refusal. -/
def seriesWith (methods : Set String) : Set RequestLabel :=
  {label | label.method ∈ methods ∧ (∃ route : Route, label.path = route.template) ∧
    label.status ∈ regularStatuses}

theorem finite_seriesWith {methods : Set String} (finite : methods.Finite) :
    (seriesWith methods).Finite := by
  have templates : {path : String | ∃ route : Route, path = route.template}.Finite := by
    refine (List.finite_toSet (Route.all.map Route.template)).subset ?_
    rintro path ⟨route, rfl⟩
    exact List.mem_map_of_mem (Route.mem_all route)
  have statuses : {status | status ∈ regularStatuses}.Finite := List.finite_toSet regularStatuses
  have triples := (finite.prod (templates.prod statuses)).image
    fun (method, path, status) => RequestLabel.mk method path status
  refine triples.subset ?_
  rintro label ⟨method, path, status⟩
  exact ⟨(label.method, label.path, label.status), ⟨method, path, status⟩, rfl⟩

/-- The request of an exchange has arrived. -/
theorem exists_arrival_of_mem_exchanges {service : Service} {events : List Event}
    {exchange : Exchange} (member : exchange ∈ service.exchanges events) :
    ∃ fresh, Event.arrival fresh exchange.request ∈ events := by
  induction events generalizing service with
  | nil => cases member
  | cons event events inductionHypothesis =>
      cases event with
      | pause duration =>
          obtain ⟨fresh, arrived⟩ := inductionHypothesis member
          exact ⟨fresh, List.mem_cons_of_mem _ arrived⟩
      | arrival fresh request =>
          rcases List.mem_cons.mp member with rfl | later
          · exact ⟨fresh, List.mem_cons_self⟩
          · obtain ⟨other, arrived⟩ := inductionHypothesis later
            exact ⟨other, List.mem_cons_of_mem _ arrived⟩

theorem seriesOf_subset (kind : Set Request) : seriesOf kind ⊆ seriesWith (methodsOf kind) := by
  rintro label ⟨service, events, unused, ofKind, appears⟩
  have fresh : label ∉ service.requests.labels := by
    rw [unused]
    exact List.not_mem_nil
  obtain ⟨exchange, member, route, response, routed, answered, rfl⟩ :=
    (mem_labels_serveAll_iff.mp appears).resolve_left fresh
  obtain ⟨identifier, arrived⟩ := exists_arrival_of_mem_exchanges member
  exact ⟨⟨exchange.request, ofKind _ _ arrived, ⟨route, routed⟩, rfl⟩, ⟨route, rfl⟩,
    status_of_answered service events exchange member response answered⟩

/-- A request that has a route makes a series with its method, wherever it is sure of a response. -/
theorem exists_mem_labels_of_matches {service : Service} (safe : service.ListsSafely)
    (fresh : String) {request : Request} {route : Route} (routed : route.Matches request.path) :
    ∃ status, ⟨request.method, route.template, status⟩ ∈
      (service.serveAll [.arrival fresh request]).requests.labels := by
  have served : ⟨service, request, (service.respond fresh request).1⟩ ∈
      service.exchanges [.arrival fresh request] := List.mem_cons_self
  obtain ⟨response, sent⟩ :=
    Option.isSome_iff_exists.mp (isSome_response_of_listsSafely safe served)
  exact ⟨response.status, mem_labels_serveAll_iff.mpr
    (.inr ⟨_, served, route, response, routed, sent, rfl⟩)⟩

/-- A service without providers and without validators, as it is started. -/
def bare : Service :=
  { engine := .ofRegistry (.ofList []), chain := .ofValidators [] none, requiredScope := "read" }

theorem listsSafely_bare : bare.ListsSafely := by
  intro provider listed
  cases listed

theorem methodsOf_subset (kind : Set Request) :
    methodsOf kind ⊆ RequestLabel.method '' seriesOf kind := by
  rintro method ⟨request, member, ⟨route, routed⟩, rfl⟩
  obtain ⟨status, appears⟩ := exists_mem_labels_of_matches listsSafely_bare "1" routed
  refine ⟨_, ⟨bare, [.arrival "1" request], rfl, ?_, appears⟩, rfl⟩
  intro fresh other arrived
  cases List.mem_singleton.mp arrived
  exact member

/-- Requests of a kind can make no more than finitely many series exactly if there are finitely many
methods among them. Every series has one of these methods, the template of a route, and one of six
statuses. -/
theorem series_bounded_iff (kind : Set Request) :
    ((seriesOf kind).Finite ↔ (methodsOf kind).Finite) ∧
      ∀ label ∈ seriesOf kind, label.method ∈ methodsOf kind ∧
        (∃ route : Route, label.path = route.template) ∧
          label.status ∈ [200, 400, 401, 403, 404, 405] := by
  constructor
  · constructor
    · intro finite
      exact (finite.image RequestLabel.method).subset (methodsOf_subset kind)
    · intro finite
      exact (finite_seriesWith finite).subset (seriesOf_subset kind)
  · intro label member
    obtain ⟨method, path, status⟩ := seriesOf_subset kind member
    refine ⟨method, path, ?_⟩
    simpa [regularStatuses, refusals, or_comm, or_left_comm] using status

/-- Requests that only read make finitely many series. -/
theorem series_bounded_iff_of_reading :
    let reading : Set Request := {request | request.isReading = true}
    let label : RequestLabel := ⟨"GET", "/health", 200⟩
    (methodsOf reading).Finite ∧ (seriesOf reading).Finite ∧ label ∈ seriesOf reading ∧
      label.method ∈ methodsOf reading ∧ (∃ route : Route, label.path = route.template) ∧
        label.status ∈ [200, 400, 401, 403, 404, 405] := by
  intro reading label
  have few : (methodsOf reading).Finite := by
    refine (Set.toFinite {"GET", "HEAD"}).subset ?_
    rintro method ⟨request, reads, _, rfl⟩
    exact isReading_iff.mp reads
  have made : label ∈ seriesOf reading := by
    let request : Request := { target := "/health", headers := .empty }
    refine ⟨bare, [.arrival "1" request], rfl, ?_, by decide +kernel⟩
    intro fresh other arrived
    cases List.mem_singleton.mp arrived
    rfl
  have bounded := series_bounded_iff reading
  exact ⟨few, bounded.1.mpr few, made, bounded.2 label made⟩

/-- Methods that somebody makes up each make a series of their own, and nobody has to show a token
for that: no finite set holds all series of a service that is asked for its health. -/
theorem series_unbounded :
    let ask (method : String) : Event :=
      .arrival "1" { method := method, target := "/health", headers := .empty }
    let word (length : Nat) : String := String.ofList (List.replicate (length + 1) 'A')
    (bare.serveAll (["BREW", "CHEW", "STEW"].map ask)).requests.labels =
        ["BREW", "CHEW", "STEW"].map (⟨·, "/health", 405⟩) ∧
      ¬∃ labels : Set RequestLabel, labels.Finite ∧ ∀ lengths : List Nat,
        ∀ label ∈ (bare.serveAll (lengths.map fun length => ask (word length))).requests.labels,
          label ∈ labels := by
  intro ask word
  refine ⟨by decide +kernel, ?_⟩
  rintro ⟨labels, finite, complete⟩
  let request (length : Nat) : Request :=
    { method := word length, target := "/health", headers := .empty }
  have routed (length : Nat) : Route.health.Matches (request length).path := by
    have path : (request length).path = "/health" := by
      simp [request, Request.path, Request.behindScheme?, Request.isSchemeChar, Request.endsPath]
    rw [path]
    exact Route.exists_find?_iff.mp ⟨[], by decide +kernel⟩
  choose status appears using fun length =>
    exists_mem_labels_of_matches listsSafely_bare "1" (routed length)
  let label (length : Nat) : RequestLabel :=
    ⟨word length, Route.health.template, status length⟩
  have made (length : Nat) : label length ∈ labels := complete [length] _ (appears length)
  have distinct : Function.Injective label := by
    intro left right same
    have words : word left = word right := congrArg RequestLabel.method same
    have letters := congrArg List.length (String.ofList_inj.mp words)
    simpa using letters
  exact Set.infinite_of_injective_forall_mem distinct made finite

end Service

end GroupFederation
