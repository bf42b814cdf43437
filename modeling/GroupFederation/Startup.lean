import GroupFederation.Provider.Build
import GroupFederation.Service.Router
import GroupFederation.Settings.Load

/-!
# Starting the service

The settings are made into a service once. A fault in the provider entries is found before one in
the validator entries, and with any fault there is no service. A service without validators is
started all the same; it accepts no token. With the decision cache, sweeping starts at once.
-/

namespace GroupFederation

namespace Settings

/-- The decision cache at the start of the service, if there is to be one. -/
def DecisionCache.start? (settings : DecisionCache) : Option Token.Cache :=
  if settings.isEnabled then
    some (Token.Cache.startSweeping { ttl := settings.ttl } 0 settings.evictionInterval).2
  else none

end Settings

namespace Service

/-- The service with the given providers and validators, at its start. -/
def atStart (settings : Settings) (network : Http.Network) (configs : List Provider.Config) :
    Service where
  engine := .ofRegistry (.ofList (configs.map (Provider.ofConfig network)))
  chain := .ofValidators (settings.tokenValidators.map fun entry => entry.validator network)
    settings.decisionCache.start?
  requiredScope := settings.requiredScope

/-- The service that the settings ask for, on a network. -/
def ofSettings (settings : Settings) (network : Http.Network) : Except ConfigError Service :=
  match settings.providerConfigs with
  | .error error => .error error
  | .ok configs =>
      match settings.checkValidators with
      | .error error => .error error
      | .ok _ => .ok (atStart settings network configs)

/-- What settings are accepted for is the service at its start. -/
theorem exists_eq_atStart {settings : Settings} {network : Http.Network} {service : Service}
    (accepted : ofSettings settings network = .ok service) :
    ∃ configs, service = atStart settings network configs := by
  unfold ofSettings at accepted
  split at accepted
  · cases accepted
  · next configs _ =>
      split at accepted
      · cases accepted
      · exact ⟨configs, (Except.ok.inj accepted).symm⟩

end Service

end GroupFederation
