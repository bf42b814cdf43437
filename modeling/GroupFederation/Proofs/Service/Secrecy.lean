import GroupFederation.Proofs.Aggregation.Redaction
import GroupFederation.Proofs.Service.Statuses
import GroupFederation.Proofs.Token.Redaction

/-!
# Secrets do not show

Operators write down secrets for providers and for validators. A service hands them on to the
backends they are for, in the `authorization` fields of its requests, and keeps them from everybody
else. This is a statement about two runs: settings that differ in nothing but secrets make services
that nobody can tell apart who does not read those fields. It is shown with a third run, the one
without secrets: whatever the service does commutes with redacting it.
-/

namespace GroupFederation

open Service (Response Route Request)

/-- The settings without the secrets of providers and validators. -/
def Settings.redacted (settings : Settings) : Settings :=
  { settings with
    providers := settings.providers.map Provider.Entry.redacted
    tokenValidators := settings.tokenValidators.map Token.ServerEntry.redacted }

theorem Settings.providerConfigs_redacted (settings : Settings) :
    settings.redacted.providerConfigs =
      settings.providerConfigs.map (List.map Provider.Config.redacted) :=
  Provider.Config.acceptAll_redacted settings.providers

/-- The descriptions of the provider definitions, or the reason why there are none. -/
theorem Settings.descriptions_redacted (settings : Settings) :
    settings.redacted.providerConfigs.map (List.map Provider.Config.descriptions) =
      settings.providerConfigs.map (List.map Provider.Config.descriptions) := by
  rw [providerConfigs_redacted]
  cases settings.providerConfigs with
  | error error => rfl
  | ok configs => simp [Except.map]

theorem Settings.checkValidators_redacted (settings : Settings) :
    settings.redacted.checkValidators = settings.checkValidators :=
  Token.ServerEntry.checkAll_redacted settings.tokenValidators

namespace Service

/-- The service with the requests of its providers and validators redacted. -/
def redacted (service : Service) : Service :=
  { service with engine := service.engine.redacted, chain := service.chain.redacted }

/-! ## One request -/

@[simp] theorem verdictOn_redacted (service : Service) (token : String) :
    service.redacted.verdictOn token = service.verdictOn token :=
  congrArg (fun validated => validated.2.1) (service.chain.validate_redacted service.now token)

theorem heard_redacted (service : Service) (token : String) :
    service.redacted.heard token = (service.heard token).redacted := by
  have validated := service.chain.validate_redacted service.now token
  simp only [heard, redacted, validated]
  rfl

theorem afterToken_redacted (service : Service) (request : Request) :
    service.redacted.afterToken request = (service.afterToken request).redacted := by
  unfold afterToken
  cases Access.bearerToken? request.headers with
  | none => rfl
  | some token => exact service.heard_redacted token

theorem resolve_redacted (service : Service) (route : Route) (parameters : List (String × String))
    (request : Request) :
    service.redacted.resolve route parameters request =
      service.resolve route parameters request := by
  simp only [resolve, verdictOn_redacted]
  rfl

/-- The engine answers every question alike. -/
theorem ask_redacted (service : Service) (question : Question) :
    service.redacted.ask question = (service.ask question).map id redacted := by
  have engine : service.redacted.engine = service.engine.redacted := rfl
  cases question with
  | groups person organization =>
      simp only [ask, engine, ← service.engine.redacted_myGroups]
      rfl
  | externalGroups person organization =>
      simp only [ask, engine, ← service.engine.redacted_myExternalGroups]
      rfl
  | group person group =>
      simp only [ask, engine, ← service.engine.redacted_groupById]
      rfl
  | allGroups =>
      simp only [ask, engine, ← service.engine.redacted_allGroups]
      rfl
  | members group =>
      simp only [ask, engine, ← service.engine.redacted_members]
      rfl

theorem handle_redacted (service : Service) {route : Route}
    (unrestricted : route.audience = .anyone) (parameters : List (String × String))
    (request : Request) :
    service.redacted.handle route none parameters request =
      (service.handle route none parameters request).map id redacted := by
  unfold handle
  cases request.isReading with
  | false => rfl
  | true =>
      cases Route.decodeParameters parameters with
      | error name => rfl
      | ok values =>
          cases route with
          | health | metrics => rfl
          | _ => cases unrestricted

theorem authorize_redacted (service : Service) (route : Route) (parameters : List (String × String))
    (request : Request) :
    service.redacted.authorize route parameters request =
      (service.authorize route parameters request).map id redacted := by
  by_cases unrestricted : route.audience = .anyone
  · simp only [authorize, unrestricted]
    exact service.handle_redacted unrestricted parameters request
  · rw [authorize_of_restricted _ unrestricted, authorize_of_restricted _ unrestricted,
      afterToken_redacted, resolve_redacted]
    cases service.resolve route parameters request with
    | error response => rfl
    | ok question => exact (service.afterToken request).ask_redacted question

/-- A request is answered alike. -/
theorem respond_redacted (service : Service) (fresh : String) (request : Request) :
    service.redacted.respond fresh request =
      (service.respond fresh request).map id redacted := by
  unfold respond
  cases Route.find? request.path with
  | none => rfl
  | some destination =>
      obtain ⟨route, parameters⟩ := destination
      simp only [authorize_redacted]
      rcases service.authorize route parameters request with ⟨_ | response, after⟩
      · rfl
      · rfl

/-! ## All requests -/

theorem serveAll_redacted (service : Service) (events : List Event) :
    service.redacted.serveAll events = (service.serveAll events).redacted := by
  induction events generalizing service with
  | nil => rfl
  | cons event events inductionHypothesis =>
      cases event with
      | pause duration => exact inductionHypothesis (service.wait duration)
      | arrival fresh request =>
          simp only [serveAll, respond_redacted]
          exact inductionHypothesis (service.respond fresh request).2

theorem responses_redacted (service : Service) (events : List Event) :
    (service.redacted.exchanges events).map Exchange.response =
      (service.exchanges events).map Exchange.response := by
  induction events generalizing service with
  | nil => rfl
  | cons event events inductionHypothesis =>
      cases event with
      | pause duration => exact inductionHypothesis (service.wait duration)
      | arrival fresh request =>
          simp only [exchanges, respond_redacted, List.map_cons]
          exact congrArg _ (inductionHypothesis (service.respond fresh request).2)

/-- What can be seen of a service while something happens to it: which requests get a response and
which one, the metrics text in the end, and the requests to the backends, but not what these
requests show in their `authorization` fields. -/
structure Appearance where
  responses : List (Option Response)
  metrics : String
  providerRequests : List Http.Request
  validatorRequests : List Http.Request

/-- The appearance of a service during some events. -/
def appearance (service : Service) (events : List Event) : Appearance where
  responses := (service.exchanges events).map Exchange.response
  metrics := (service.serveAll events).metricsText
  providerRequests := (service.serveAll events).engine.sent.map Http.Request.redacted
  validatorRequests := (service.serveAll events).chain.sent.map Http.Request.redacted

/-- A redacted service looks like the service itself. -/
theorem appearance_redacted (service : Service) (events : List Event) :
    service.redacted.appearance events = service.appearance events := by
  have twice : Http.Request.redacted ∘ Http.Request.redacted = Http.Request.redacted :=
    funext Http.Request.redacted_redacted
  simp only [appearance, responses_redacted, serveAll_redacted]
  simp only [redacted, Aggregation.Engine.redacted, Token.Chain.redacted, List.map_map, twice]
  rfl

/-! ## Startup -/

section Startup

variable {network : Http.Network} (ignores : network.IgnoresCredentials)

include ignores

theorem redacted_atStart (settings : Settings) (configs : List Provider.Config) :
    (atStart settings network configs).redacted =
      (atStart settings.redacted network (configs.map Provider.Config.redacted)).redacted := by
  have provider : Provider.redacted ∘ Provider.ofConfig network ∘ Provider.Config.redacted =
      Provider.redacted ∘ Provider.ofConfig network :=
    funext fun config => (Provider.redacted_ofConfig ignores config).symm
  have validator : Token.Validator.redacted ∘
        (fun entry : Token.ServerEntry => entry.validator network) ∘ Token.ServerEntry.redacted =
      Token.Validator.redacted ∘ fun entry => entry.validator network :=
    funext fun entry => (entry.redacted_validator ignores).symm
  simp only [atStart, redacted, Aggregation.Engine.redacted_ofRegistry,
    Token.Chain.redacted_ofValidators, Settings.redacted, List.map_map, provider, validator]

/-- Without secrets, the settings make the same service up to who sends its requests, or are refused
for the same reason. -/
theorem redacted_ofSettings (settings : Settings) :
    (ofSettings settings network).map redacted =
      (ofSettings settings.redacted network).map redacted := by
  simp only [ofSettings, settings.providerConfigs_redacted, settings.checkValidators_redacted]
  cases settings.providerConfigs with
  | error error => rfl
  | ok configs =>
      cases settings.checkValidators with
      | error error => rfl
      | ok _ => exact congrArg Except.ok (redacted_atStart ignores settings configs)

/-- The settings make a service that looks like the one without secrets, whatever happens. -/
theorem appearance_ofSettings (settings : Settings) (events : List Event) :
    (ofSettings settings network).map (fun service => service.appearance events) =
      (ofSettings settings.redacted network).map fun service => service.appearance events := by
  have seen (attempt : Except ConfigError Service) :
      attempt.map (fun service => service.appearance events) =
        (attempt.map redacted).map fun service => service.appearance events := by
    cases attempt with
    | error error => rfl
    | ok service => exact congrArg Except.ok (service.appearance_redacted events).symm
  rw [seen, redacted_ofSettings ignores, ← seen]

end Startup

/-- Settings that differ only in secrets are accepted or refused alike, their provider definitions
are described by the same texts, and they are made into services that look the same whatever
happens, or into none for the same reason. -/
theorem secrets_do_not_show {network : Http.Network} (ignores : network.IgnoresCredentials)
    {left right : Settings} (alike : left.redacted = right.redacted) :
    left.checkValidators = right.checkValidators ∧
      left.providerConfigs.map (List.map Provider.Config.descriptions) =
        right.providerConfigs.map (List.map Provider.Config.descriptions) ∧
      ∀ events : List Event,
        (ofSettings left network).map (fun service => service.appearance events) =
          (ofSettings right network).map fun service => service.appearance events := by
  refine ⟨?_, ?_, ?_⟩
  · rw [← left.checkValidators_redacted, alike, right.checkValidators_redacted]
  · rw [← left.descriptions_redacted, alike, right.descriptions_redacted]
  · intro events
    rw [appearance_ofSettings ignores left, alike, ← appearance_ofSettings ignores right]

/-- Two services with different secrets look the same to everybody but their backends, to which they
show who they are. -/
theorem secrets_do_not_show_to_callers :
    let settings (secret : String) : Settings :=
      { providers :=
          [⟨"grouper", "http://home.test", "user", secret, 500, "example.org", "home", true⟩]
        tokenValidators := [⟨"issuer", "http://issuer.test", "service", secret, 500⟩] }
    let left := settings "first"
    let right := settings "second"
    let network := Http.Canned.network
      [⟨"home", [{ body := Text.Utf8.ofText "<a/>" }]⟩,
        ⟨"issuer",
          [{ body := Text.Utf8.ofText "\x7b\"active\": true, \"scope\": \"read\"\x7d" }]⟩]
    let events : List Event := [.arrival "1"
      { target := "/members/urn:collab:group:example.org:staff"
        headers := .ofFields [("Authorization", "Bearer portal")] }]
    let shown (settings : Settings) : Option (List (Option String)) :=
      (ofSettings settings network).toOption.map fun service =>
        ((service.serveAll events).engine.sent ++ (service.serveAll events).chain.sent).map
          fun request => request.headers.first? "authorization"
    network.IgnoresCredentials ∧ left.redacted = right.redacted ∧
      shown left = some [some "Basic dXNlcjpmaXJzdA==", some "Basic c2VydmljZTpmaXJzdA=="] ∧
      shown right = some [some "Basic dXNlcjpzZWNvbmQ=", some "Basic c2VydmljZTpzZWNvbmQ="] ∧
      left.checkValidators = right.checkValidators ∧
      left.providerConfigs.map (List.map Provider.Config.descriptions) =
        right.providerConfigs.map (List.map Provider.Config.descriptions) ∧
      ∀ events : List Event,
        (ofSettings left network).map (fun service => service.appearance events) =
          (ofSettings right network).map fun service => service.appearance events := by
  intro settings left right network events shown
  have ignores : network.IgnoresCredentials := Http.Canned.ignoresCredentials_network _
  have alike : left.redacted = right.redacted := rfl
  exact ⟨ignores, alike, by decide +kernel, by decide +kernel, secrets_do_not_show ignores alike⟩

end Service

end GroupFederation
