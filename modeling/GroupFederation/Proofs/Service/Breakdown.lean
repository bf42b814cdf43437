import GroupFederation.Proofs.Aggregation.Conservation
import GroupFederation.Proofs.Service.Isolation
import GroupFederation.Startup

/-!
# Requests without a response

Every request gets a response, with one exception. The members of a group are asked of a partner in
place, and a partner that breaks down then takes the request down with it. So a request is left
without a response exactly if it is authorized to ask for members and the partner that lists them
breaks down. No provider that is made from a configuration does: all that such a provider meets is
an answer or a failure.
-/

namespace GroupFederation

/-- The provider never breaks down while it lists members. -/
def Provider.ListsSafely (provider : Provider) : Prop :=
  ∀ earlier group, (provider.members earlier group).outcome ≠ .crashed

theorem Outcome.ofExcept_ne_crashed {α : Type} (attempt : Except Provider.Failure α) :
    ofExcept attempt ≠ .crashed := by
  cases attempt <;> simp [ofExcept]

/-- A reply that is made of an exchange is an answer or a failure. -/
theorem Provider.Config.outcome_replyTo_ne_crashed {α : Type} (config : Config)
    (exchange : Http.Exchange) (read : Http.Answer → Except Failure α) :
    (config.replyTo exchange read).outcome ≠ .crashed := by
  unfold replyTo
  cases exchange.result with
  | error trouble => simp
  | ok answer => exact Outcome.ofExcept_ne_crashed (read answer)

theorem Provider.listsSafely_ofConfig (network : Http.Network) (config : Config) :
    (ofConfig network config).ListsSafely := by
  intro earlier group
  unfold ofConfig
  cases config.kind <;> exact config.outcome_replyTo_ne_crashed _ _

theorem Outcome.map_eq_crashed_iff {α β : Type} {change : α → β} {outcome : Outcome α} :
    outcome.map change = .crashed ↔ outcome = .crashed := by
  cases outcome <;> simp [map]

/-- A partner that is asked for members breaks down if its provider does before its time is up. -/
theorem Aggregation.Partner.breaksDown_members_iff (partner : Partner) (group : String) :
    partner.BreaksDown (.members group) ↔
      (partner.provider.members partner.asked group).delay ≤ partner.provider.timeout ∧
        (partner.provider.members partner.asked group).outcome = .crashed := by
  rw [BreaksDown, reply, Reply.forget, Outcome.map_eq_crashed_iff]

namespace Aggregation.Engine

/-- A call gives no answer about members exactly if it is not counted either. -/
theorem membersFrom?_eq_none_iff {outcome : Outcome (List Member)} :
    membersFrom? outcome = none ↔ outcome.label? = none := by
  cases outcome <;> simp [membersFrom?, Outcome.label?]

/-- There is no answer about the members of a group exactly if the partner that is asked for them
breaks down. -/
theorem value_members_eq_none_iff (engine : Engine) (group : String) :
    (engine.members group).value = none ↔
      ∃ partner ∈ engine.audience (.members group), partner.BreaksDown (.members group) := by
  rw [audience_members, ← bind_lister?]
  cases chosen : engine.lister? group with
  | none => simp [members, chosen]
  | some place =>
      cases found : engine.partners[place]? with
      | none => simp [members, chosen, found]
      | some partner =>
          have counted : partner.countedAs? (.members group) =
              ((partner.provider.members partner.asked group).within
                partner.provider.timeout).outcome.label? :=
            Reply.label?_within_forget _ _
          simp [members, chosen, found, membersFrom?_eq_none_iff, Arrival.ofReply, ← counted,
            (partner.countedAs?_iff (.members group)).2.2.1]

theorem mem_partners_of_mem_audience {engine : Engine} {operation : Operation} {partner : Partner}
    (asked : partner ∈ engine.audience operation) : partner ∈ engine.partners := by
  obtain ⟨pair, kept, rfl⟩ := List.mem_map.mp asked
  exact List.fst_mem_of_mem_zipIdx (List.mem_of_mem_filter kept)

/-- Providers that list members safely always give an answer about members. -/
theorem isSome_value_members {engine : Engine}
    (safe : ∀ provider ∈ engine.registry.providers, provider.ListsSafely) (group : String) :
    (engine.members group).value.isSome := by
  rw [Option.isSome_iff_ne_none, Ne, value_members_eq_none_iff]
  rintro ⟨partner, asked, broken⟩
  have listed : partner.provider ∈ engine.registry.providers :=
    List.mem_map_of_mem (mem_partners_of_mem_audience asked)
  have crashed := (partner.breaksDown_members_iff group).mp broken
  exact safe partner.provider listed partner.asked group crashed.2

end Aggregation.Engine

open Service (Response Route Request)

namespace Service

/-! ## When there is no response -/

/-- The request is authorized to ask for the members of a group, and the partner that is asked for
them breaks down. -/
def BreaksDown (service : Service) (request : Request) : Prop :=
  ∃ parameters group, Route.find? request.path = some (.members, parameters) ∧
    service.resolve .members parameters request = .ok (.members group) ∧
      ∃ partner ∈ service.engine.audience (.members group),
        partner.BreaksDown (.members group)

/-- No other route asks for members. -/
theorem eq_members_of_questionOf {verdict : Verdict} {route : Route} {values : List String}
    {group : String} (asked : questionOf verdict route values = .ok (.members group)) :
    route = .members := by
  revert asked
  fun_cases questionOf verdict route values
  case case1 =>
    cases userOf verdict <;> intro asked <;> cases asked
  case case2 name =>
    cases userOf verdict <;> cases wellFormed (Urn.requireGroup name) <;> intro asked <;>
      cases asked
  case case3 name | case5 name =>
    cases wellFormed (Urn.requirePerson name) <;> intro asked <;> cases asked
  case case4 name other =>
    cases wellFormed (Urn.requirePerson name) <;> cases wellFormed (Urn.requireGroup other) <;>
      intro asked <;> cases asked
  case case7 => exact fun _ => rfl
  case case6 | case8 => intro asked; cases asked

theorem eq_members_of_resolve {service : Service} {route : Route}
    {parameters : List (String × String)} {request : Request} {group : String}
    (resolved : service.resolve route parameters request = .ok (.members group)) :
    route = .members := by
  obtain ⟨token, -, permitted⟩ := bind_eq_ok_iff.mp resolved
  obtain ⟨_, -, granted⟩ := bind_eq_ok_iff.mp permitted
  have asked : ∃ verdict,
      questionOfRequest verdict route parameters request = .ok (.members group) := by
    split at granted
    · obtain ⟨_, -, asked⟩ := bind_eq_ok_iff.mp granted
      exact ⟨_, asked⟩
    · exact ⟨_, granted⟩
  obtain ⟨verdict, asked⟩ := asked
  unfold questionOfRequest at asked
  split at asked
  · cases asked
  · split at asked
    · cases asked
    · exact eq_members_of_questionOf asked

/-- Of all questions only the one for members may be left without an answer. -/
theorem fst_carryOut_eq_none_iff {service : Service} {resolved : Except Response Question} :
    (service.carryOut resolved).1 = none ↔
      ∃ group, resolved = .ok (.members group) ∧ (service.engine.members group).value = none := by
  cases resolved with
  | error response => simp [carryOut]
  | ok question =>
      cases question <;> simp [carryOut, ask, answerGroups, answerGroup, answerMembers]

/-- A route for everyone always answers. -/
theorem exists_authorize_of_unrestricted (service : Service) {route : Route}
    (unrestricted : route.audience = .anyone) (parameters : List (String × String))
    (request : Request) :
    ∃ response, (service.authorize route parameters request).1 = some response := by
  simp only [authorize, unrestricted, handle]
  split
  · exact ⟨_, rfl⟩
  · split
    · exact ⟨_, rfl⟩
    · cases route with
      | health | metrics => exact ⟨_, rfl⟩
      | _ => cases unrestricted

/-- A request gets no response exactly if it breaks down. -/
theorem fst_respond_eq_none_iff (service : Service) (fresh : String) (request : Request) :
    (service.respond fresh request).1 = none ↔ service.BreaksDown request := by
  unfold BreaksDown
  cases found : Route.find? request.path with
  | none => simp [respond, found]
  | some destination =>
      obtain ⟨route, parameters⟩ := destination
      rw [(respond_of_find? service fresh found).1, Option.map_eq_none_iff]
      by_cases unrestricted : route.audience = .anyone
      · obtain ⟨response, answered⟩ :=
          service.exists_authorize_of_unrestricted unrestricted parameters request
        rw [answered]
        constructor
        · intro silent
          cases silent
        · rintro ⟨others, group, same, -⟩
          cases same
          cases unrestricted
      · rw [authorize_of_restricted service unrestricted, fst_carryOut_eq_none_iff,
          engine_afterToken]
        constructor
        · rintro ⟨group, resolved, silent⟩
          obtain rfl := eq_members_of_resolve resolved
          exact ⟨parameters, group, rfl, resolved,
            (service.engine.value_members_eq_none_iff group).mp silent⟩
        · rintro ⟨others, group, same, resolved, broken⟩
          cases same
          exact ⟨group, resolved, (service.engine.value_members_eq_none_iff group).mpr broken⟩

/-! ## Services that always respond -/

/-- The operation by which the engine answers a question. -/
def Question.operation : Question → Aggregation.Operation
  | .groups person organization => .list (.memberships person organization)
  | .externalGroups person organization => .list (.externalMemberships person organization)
  | .group person name => .lookUp person name
  | .allGroups => .list .allGroups
  | .members name => .members name

theorem engine_ask (service : Service) (question : Question) :
    (service.ask question).2.engine = service.engine.perform question.operation := by
  cases question <;> rfl

theorem registry_respond (service : Service) (fresh : String) (request : Request) :
    (service.respond fresh request).2.engine.registry = service.engine.registry := by
  cases found : Route.find? request.path with
  | none => simp only [respond, found]
  | some destination =>
      obtain ⟨route, parameters⟩ := destination
      rw [(respond_of_find? service fresh found).2]
      by_cases unrestricted : route.audience = .anyone
      · rw [state_of_unrestricted service unrestricted]
      · rw [authorize_of_restricted service unrestricted]
        cases service.resolve route parameters request with
        | error response => exact congrArg _ (service.engine_afterToken request)
        | ok question =>
            rw [carryOut, engine_ask, Aggregation.Engine.registry_perform, engine_afterToken]

/-- None of the providers breaks down while it lists members. -/
def ListsSafely (service : Service) : Prop :=
  ∀ provider ∈ service.engine.registry.providers, provider.ListsSafely

theorem ListsSafely.respond {service : Service} (safe : service.ListsSafely) (fresh : String)
    (request : Request) : (service.respond fresh request).2.ListsSafely := by
  rw [ListsSafely, registry_respond]
  exact safe

theorem ListsSafely.not_breaksDown {service : Service} (safe : service.ListsSafely)
    (request : Request) : ¬service.BreaksDown request := by
  rintro ⟨parameters, group, -, -, broken⟩
  have answered := Aggregation.Engine.isSome_value_members safe group
  rw [(service.engine.value_members_eq_none_iff group).mpr broken] at answered
  cases answered

/-- Services that are made from settings always respond. -/
theorem listsSafely_ofSettings {settings : Settings} {network : Http.Network} {service : Service}
    (accepted : ofSettings settings network = .ok service) : service.ListsSafely := by
  obtain ⟨configs, rfl⟩ := exists_eq_atStart accepted
  intro provider listed
  rw [atStart, Aggregation.Engine.registry_ofRegistry, Registry.mem_providers_ofList] at listed
  obtain ⟨config, -, rfl⟩ := List.mem_map.mp listed
  exact Provider.listsSafely_ofConfig network config

end Service

end GroupFederation
