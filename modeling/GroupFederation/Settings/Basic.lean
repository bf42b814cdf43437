import GroupFederation.Provider.Config
import GroupFederation.Settings.Value
import GroupFederation.Token.Introspection

/-!
# The settings of the service

A group of settings is written as a table, which names its settings in any order, or as a list,
which gives them in a fixed order. Settings that the service does not know are passed over. A
setting that is left out has its default, and where there is none the group is not complete; one
that is given has to be suitable, and null never is.
-/

namespace GroupFederation

/-- Where the service listens and what it reports. -/
structure Settings.Server where
  port : UInt16 := 8080
  logLevel : String := "info"
  traceEndpoint : String := "http://localhost:4317"
  deriving DecidableEq, Repr

/-- How long decisions on tokens are remembered; the times are in milliseconds. -/
structure Settings.DecisionCache where
  isEnabled : Bool := true
  ttl : Nat := 60000
  evictionInterval : Nat := 60000
  deriving DecidableEq, Repr

/-- Everything that an operator can set. -/
structure Settings where
  server : Settings.Server := {}
  serviceName : String := "group-service"
  /-- The scope that every token has to carry. -/
  requiredScope : String := "read"
  providers : List Provider.Entry := []
  tokenValidators : List Token.ServerEntry := []
  decisionCache : Settings.DecisionCache := {}
  deriving DecidableEq, Repr

namespace Settings

namespace Value

/-- The values of the settings of a group, as far as they are given. -/
def fields? (names : List String) : Value → Option (List (Option Value))
  | .table entries => some (names.map fun name => entries.lookup name)
  | .list items => some ((List.range names.length).map fun place => items[place]?)
  | _ => none

/-- A setting that has to be given. -/
def required {α : Type} (decode : Value → Option α) (given : Option Value) : Option α :=
  given.bind decode

/-- A setting with a default. -/
def orDefault {α : Type} (default : α) (decode : Value → Option α) : Option Value → Option α
  | none => some default
  | some value => decode value

@[simp] theorem orDefault_none {α : Type} (default : α) (decode : Value → Option α) :
    orDefault default decode none = some default := rfl

@[simp] theorem orDefault_some {α : Type} (default : α) (decode : Value → Option α)
    (value : Value) : orDefault default decode (some value) = decode value := rfl

/-- A list of groups. -/
def toListOf? {α : Type} (decode : Value → Option α) (value : Value) : Option (List α) :=
  value.toList?.bind fun items => items.mapM decode

/-- A number of 16 bits. -/
def toPort? (value : Value) : Option UInt16 :=
  value.toNumber?.bind fun number =>
    if number < Nat.pow 2 16 then some (UInt16.ofNat number) else none

end Value

open Value

def Server.fields : List String := ["port", "log_level", "otlp_endpoint"]

def Server.ofValue? (value : Value) : Option Server :=
  match value.fields? Server.fields with
  | some [port, logLevel, traceEndpoint] => do
      let defaults : Server := {}
      some
        { port := ← orDefault defaults.port toPort? port
          logLevel := ← orDefault defaults.logLevel toText? logLevel
          traceEndpoint := ← orDefault defaults.traceEndpoint toText? traceEndpoint }
  | _ => none

def DecisionCache.fields : List String := ["enabled", "ttl_ms", "eviction_interval_ms"]

def DecisionCache.ofValue? (value : Value) : Option DecisionCache :=
  match value.fields? DecisionCache.fields with
  | some [isEnabled, ttl, evictionInterval] => do
      let defaults : DecisionCache := {}
      some
        { isEnabled := ← orDefault defaults.isEnabled toTruth? isEnabled
          ttl := ← orDefault defaults.ttl toNumber? ttl
          evictionInterval := ← orDefault defaults.evictionInterval toNumber? evictionInterval }
  | _ => none

/-- A name with a secret. -/
def credentials? (value : Value) : Option Provider.Credentials :=
  match value.fields? ["username", "secret"] with
  | some [username, secret] => do
      some ⟨← required toText? username, ← required toText? secret⟩
  | _ => none

def providerFields : List String :=
  ["kind", "url", "credentials", "timeout_ms", "schac_home_organization", "name",
    "supports_get_members"]

/-- A provider entry; only whether it lists members may be left out. -/
def provider? (value : Value) : Option Provider.Entry :=
  match value.fields? providerFields with
  | some [kind, url, credentials, timeout, organization, name, listsMembers] => do
      let credentials ← required credentials? credentials
      some
        { kind := ← required toText? kind
          url := ← required toText? url
          username := credentials.username
          secret := credentials.password
          timeout := ← required toNumber? timeout
          organization := ← required toText? organization
          name := ← required toText? name
          listsMembers := ← orDefault false toTruth? listsMembers }
  | _ => none

def validatorFields : List String := ["name", "url", "client_id", "secret", "timeout_ms"]

/-- How long a validator is waited for unless its entry says otherwise, in milliseconds. -/
def validatorTimeout : Nat := 5000

/-- A validator entry; only its timeout may be left out. -/
def validator? (value : Value) : Option Token.ServerEntry :=
  match value.fields? validatorFields with
  | some [name, url, clientId, secret, timeout] => do
      some
        { name := ← required toText? name
          url := ← required toText? url
          clientId := ← required toText? clientId
          secret := ← required toText? secret
          timeout := ← orDefault validatorTimeout toNumber? timeout }
  | _ => none

def fields : List String :=
  ["server", "service_name", "required_scope", "providers", "token_validators", "decision_cache"]

/-- All settings. -/
def ofValue? (value : Value) : Option Settings :=
  match value.fields? fields with
  | some [server, serviceName, requiredScope, providers, tokenValidators, decisionCache] => do
      let defaults : Settings := {}
      some
        { server := ← orDefault defaults.server Server.ofValue? server
          serviceName := ← orDefault defaults.serviceName toText? serviceName
          requiredScope := ← orDefault defaults.requiredScope toText? requiredScope
          providers := ← orDefault defaults.providers (toListOf? provider?) providers
          tokenValidators :=
            ← orDefault defaults.tokenValidators (toListOf? validator?) tokenValidators
          decisionCache :=
            ← orDefault defaults.decisionCache DecisionCache.ofValue? decisionCache }
  | _ => none

/-- The provider definitions that the settings ask for. -/
def providerConfigs (settings : Settings) : Except ConfigError (List Provider.Config) :=
  Provider.Config.acceptAll settings.providers

/-- Check the validator entries. -/
def checkValidators (settings : Settings) : Except ConfigError Unit :=
  Token.ServerEntry.checkAll settings.tokenValidators

end Settings

end GroupFederation
