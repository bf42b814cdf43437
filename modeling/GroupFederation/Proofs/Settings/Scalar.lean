import GroupFederation.Proofs.Settings.Assignment
import GroupFederation.Settings.Basic
import Mathlib.Data.List.Nodup

/-!
# Settings one by one

A table makes settings if the groups in it can be groups and it says something suitable, or nothing,
about each setting with one value, about the providers and about the token validators. A group says
something about a setting of its own by name if it is a table, and by place if it is a list.
-/

namespace GroupFederation.Settings

open Value (toText? toTruth? toNumber? toPort? toListOf? orDefault)

/-! ## Groups of settings -/

namespace Value

/-- What a group says about one of its settings. -/
def field? (names : List String) (name : String) : Value → Option Value
  | .table entries => entries.lookup name
  | .list items => items[names.idxOf name]?
  | _ => none

theorem fields?_eq_some {names : List String} (distinct : names.Nodup) {value : Value}
    (isGroup : value.IsGroup) :
    value.fields? names = some (names.map fun name => value.field? names name) := by
  cases isGroup with
  | table entries => rfl
  | list items =>
      refine congrArg some (List.ext_getElem (by simp) fun place _ inside => ?_)
      rw [List.length_map] at inside
      have found := List.get_idxOf distinct ⟨place, inside⟩
      simp only [List.get_eq_getElem] at found
      simp [field?, found]

theorem fields?_eq_none {names : List String} {value : Value} (noGroup : ¬value.IsGroup) :
    value.fields? names = none := by
  cases value with
  | table entries => exact absurd (.table entries) noGroup
  | list items => exact absurd (.list items) noGroup
  | null | truth | integer | real | text => rfl

end Value

/-- A group of settings among the settings. -/
inductive Part where
  | server
  | decisionCache
  deriving DecidableEq, Repr

namespace Part

def name : Part → String
  | .server => "server"
  | .decisionCache => "decision_cache"

def fields : Part → List String
  | .server => Server.fields
  | .decisionCache => DecisionCache.fields

end Part

theorem Server.ofValue?_eq_some_iff {value : Value} {server : Server} :
    ofValue? value = some server ↔
      value.IsGroup ∧
        orDefault 8080 toPort? (value.field? fields "port") = some server.port ∧
          orDefault "info" toText? (value.field? fields "log_level") = some server.logLevel ∧
            orDefault "http://localhost:4317" toText? (value.field? fields "otlp_endpoint") =
              some server.traceEndpoint := by
  by_cases isGroup : value.IsGroup
  · have given := Value.fields?_eq_some (by decide : fields.Nodup) isGroup
    rw [ofValue?, given]
    simp only [fields, List.map_cons, List.map_nil, Option.bind_eq_bind, Option.bind_eq_some_iff,
      Option.some_inj, isGroup, true_and]
    constructor
    · rintro ⟨_, port, _, logLevel, _, traceEndpoint, rfl⟩
      exact ⟨port, logLevel, traceEndpoint⟩
    · rintro ⟨port, logLevel, traceEndpoint⟩
      exact ⟨_, port, _, logLevel, _, traceEndpoint, rfl⟩
  · simp [ofValue?, Value.fields?_eq_none isGroup, isGroup]

theorem DecisionCache.ofValue?_eq_some_iff {value : Value} {cache : DecisionCache} :
    ofValue? value = some cache ↔
      value.IsGroup ∧
        orDefault true toTruth? (value.field? fields "enabled") = some cache.isEnabled ∧
          orDefault 60000 toNumber? (value.field? fields "ttl_ms") = some cache.ttl ∧
            orDefault 60000 toNumber? (value.field? fields "eviction_interval_ms") =
              some cache.evictionInterval := by
  by_cases isGroup : value.IsGroup
  · have given := Value.fields?_eq_some (by decide : fields.Nodup) isGroup
    rw [ofValue?, given]
    simp only [fields, List.map_cons, List.map_nil, Option.bind_eq_bind, Option.bind_eq_some_iff,
      Option.some_inj, isGroup, true_and]
    constructor
    · rintro ⟨_, isEnabled, _, ttl, _, evictionInterval, rfl⟩
      exact ⟨isEnabled, ttl, evictionInterval⟩
    · rintro ⟨isEnabled, ttl, evictionInterval⟩
      exact ⟨_, isEnabled, _, ttl, _, evictionInterval, rfl⟩
  · simp [ofValue?, Value.fields?_eq_none isGroup, isGroup]

/-- A group that is not there says nothing about its settings. -/
theorem orDefault_server_eq_some_iff {given : Option Value} {server : Server} :
    orDefault {} Server.ofValue? given = some server ↔
      (∀ value, given = some value → value.IsGroup) ∧
        orDefault 8080 toPort? (given.bind (Value.field? Server.fields "port")) =
            some server.port ∧
          orDefault "info" toText? (given.bind (Value.field? Server.fields "log_level")) =
              some server.logLevel ∧
            orDefault "http://localhost:4317" toText?
                (given.bind (Value.field? Server.fields "otlp_endpoint")) =
              some server.traceEndpoint := by
  cases given with
  | some value => simp [Server.ofValue?_eq_some_iff]
  | none =>
    obtain ⟨_, _, _⟩ := server
    simp

theorem orDefault_decisionCache_eq_some_iff {given : Option Value} {cache : DecisionCache} :
    orDefault {} DecisionCache.ofValue? given = some cache ↔
      (∀ value, given = some value → value.IsGroup) ∧
        orDefault true toTruth? (given.bind (Value.field? DecisionCache.fields "enabled")) =
            some cache.isEnabled ∧
          orDefault 60000 toNumber? (given.bind (Value.field? DecisionCache.fields "ttl_ms")) =
              some cache.ttl ∧
            orDefault 60000 toNumber?
                (given.bind (Value.field? DecisionCache.fields "eviction_interval_ms")) =
              some cache.evictionInterval := by
  cases given with
  | some value => simp [DecisionCache.ofValue?_eq_some_iff]
  | none =>
    obtain ⟨_, _, _⟩ := cache
    simp

/-! ## Settings with one value -/

/-- A setting with one value, of the type that its value has. -/
inductive Scalar : Type → Type where
  | port : Scalar UInt16
  | logLevel : Scalar String
  | traceEndpoint : Scalar String
  | serviceName : Scalar String
  | requiredScope : Scalar String
  | isCacheEnabled : Scalar Bool
  | cacheTtl : Scalar Nat
  | evictionInterval : Scalar Nat

namespace Scalar

variable {α β : Type}

/-- The group that the setting is in, if it is in one. -/
def part? : Scalar α → Option Part
  | .port => some .server
  | .logLevel => some .server
  | .traceEndpoint => some .server
  | .serviceName => none
  | .requiredScope => none
  | .isCacheEnabled => some .decisionCache
  | .cacheTtl => some .decisionCache
  | .evictionInterval => some .decisionCache

/-- The name of the setting, in its group if it is in one. -/
def name : Scalar α → String
  | .port => "port"
  | .logLevel => "log_level"
  | .traceEndpoint => "otlp_endpoint"
  | .serviceName => "service_name"
  | .requiredScope => "required_scope"
  | .isCacheEnabled => "enabled"
  | .cacheTtl => "ttl_ms"
  | .evictionInterval => "eviction_interval_ms"

/-- The path to the setting. -/
def path (scalar : Scalar α) : List Step :=
  (scalar.part?.map fun part => Step.entry part.name).toList ++ [.entry scalar.name]

/-- The name of the variable for the setting, which may be in any letter case. -/
def variableName : Scalar α → String
  | .port => "APP__SERVER__PORT"
  | .logLevel => "APP__SERVER__LOG_LEVEL"
  | .traceEndpoint => "APP__SERVER__OTLP_ENDPOINT"
  | .serviceName => "APP__SERVICE_NAME"
  | .requiredScope => "APP__REQUIRED_SCOPE"
  | .isCacheEnabled => "APP__DECISION_CACHE__ENABLED"
  | .cacheTtl => "APP__DECISION_CACHE__TTL_MS"
  | .evictionInterval => "APP__DECISION_CACHE__EVICTION_INTERVAL_MS"

/-- What a value means for the setting, if it is suitable. -/
def decode : Scalar α → Value → Option α
  | .port => toPort?
  | .logLevel => toText?
  | .traceEndpoint => toText?
  | .serviceName => toText?
  | .requiredScope => toText?
  | .isCacheEnabled => toTruth?
  | .cacheTtl => toNumber?
  | .evictionInterval => toNumber?

/-- What the setting is when nothing is said about it. -/
def default : Scalar α → α
  | .port => 8080
  | .logLevel => "info"
  | .traceEndpoint => "http://localhost:4317"
  | .serviceName => "group-service"
  | .requiredScope => "read"
  | .isCacheEnabled => true
  | .cacheTtl => 60000
  | .evictionInterval => 60000

/-- The setting among all settings. -/
def of : Scalar α → Settings → α
  | .port, settings => settings.server.port
  | .logLevel, settings => settings.server.logLevel
  | .traceEndpoint, settings => settings.server.traceEndpoint
  | .serviceName, settings => settings.serviceName
  | .requiredScope, settings => settings.requiredScope
  | .isCacheEnabled, settings => settings.decisionCache.isEnabled
  | .cacheTtl, settings => settings.decisionCache.ttl
  | .evictionInterval, settings => settings.decisionCache.evictionInterval

/-- All settings with another value for the setting. -/
def set : Scalar α → α → Settings → Settings
  | .port, value, settings => { settings with server.port := value }
  | .logLevel, value, settings => { settings with server.logLevel := value }
  | .traceEndpoint, value, settings => { settings with server.traceEndpoint := value }
  | .serviceName, value, settings => { settings with serviceName := value }
  | .requiredScope, value, settings => { settings with requiredScope := value }
  | .isCacheEnabled, value, settings => { settings with decisionCache.isEnabled := value }
  | .cacheTtl, value, settings => { settings with decisionCache.ttl := value }
  | .evictionInterval, value, settings =>
      { settings with decisionCache.evictionInterval := value }

/-- What a table of all settings says about the setting. -/
def find? (scalar : Scalar α) (root : Value) : Option Value :=
  match scalar.part? with
  | none => root.get? scalar.name
  | some part => (root.get? part.name).bind (Value.field? part.fields scalar.name)

theorem of_set (scalar : Scalar α) (value : α) (settings : Settings) :
    scalar.of (scalar.set value settings) = value := by
  cases scalar <;> rfl

theorem providers_set (scalar : Scalar α) (value : α) (settings : Settings) :
    (scalar.set value settings).providers = settings.providers := by
  cases scalar <;> rfl

theorem tokenValidators_set (scalar : Scalar α) (value : α) (settings : Settings) :
    (scalar.set value settings).tokenValidators = settings.tokenValidators := by
  cases scalar <;> rfl

/-- The path to a setting leads through no other one. -/
theorem eq_or_of_set_eq (scalar : Scalar α) (other : Scalar β) :
    (⟨β, other⟩ : (γ : Type) × Scalar γ) = ⟨α, scalar⟩ ∨
      ¬other.path <+: scalar.path ∧
        ∀ value settings, other.of (scalar.set value settings) = other.of settings := by
  cases scalar <;> cases other <;>
    first | exact .inl rfl | exact .inr ⟨by decide, fun _ _ => rfl⟩

theorem not_prefix_path (scalar : Scalar α) :
    ¬[Step.entry "providers"] <+: scalar.path ∧
      ¬[Step.entry "token_validators"] <+: scalar.path := by
  cases scalar <;> decide

theorem path_ne (scalar : Scalar α) (part : Part) : scalar.path ≠ [.entry part.name] := by
  cases scalar <;> cases part <;> decide

/-- No table and no list is suitable for a setting with one value. -/
theorem decode_of_isGroup (scalar : Scalar α) {value : Value} (isGroup : value.IsGroup) :
    scalar.decode value = none := by
  cases isGroup <;> cases scalar <;> rfl

end Scalar

/-- A table makes given settings. -/
structure Makes (root : Value) (settings : Settings) : Prop where
  groups (part : Part) (value : Value) (given : root.get? part.name = some value) : value.IsGroup
  scalars {α : Type} (scalar : Scalar α) :
    orDefault scalar.default scalar.decode (scalar.find? root) = some (scalar.of settings)
  providers : orDefault [] (toListOf? provider?) (root.get? "providers") = some settings.providers
  tokenValidators : orDefault [] (toListOf? validator?) (root.get? "token_validators") =
    some settings.tokenValidators

theorem ofValue?_eq_some_iff {entries : List (String × Value)} {settings : Settings} :
    ofValue? (.table entries) = some settings ↔ Makes (.table entries) settings := by
  have made : ofValue? (.table entries) = some settings ↔
      orDefault {} Server.ofValue? (entries.lookup "server") = some settings.server ∧
        orDefault "group-service" toText? (entries.lookup "service_name") =
            some settings.serviceName ∧
          orDefault "read" toText? (entries.lookup "required_scope") =
              some settings.requiredScope ∧
            orDefault [] (toListOf? provider?) (entries.lookup "providers") =
                some settings.providers ∧
              orDefault [] (toListOf? validator?) (entries.lookup "token_validators") =
                  some settings.tokenValidators ∧
                orDefault {} DecisionCache.ofValue? (entries.lookup "decision_cache") =
                  some settings.decisionCache := by
    simp only [ofValue?, Value.fields?, fields, List.map_cons, List.map_nil, Option.bind_eq_bind,
      Option.bind_eq_some_iff, Option.some_inj]
    constructor
    · rintro ⟨_, server, _, serviceName, _, requiredScope, _, providers, _, validators, _, cache,
        rfl⟩
      exact ⟨server, serviceName, requiredScope, providers, validators, cache⟩
    · rintro ⟨server, serviceName, requiredScope, providers, validators, cache⟩
      exact ⟨_, server, _, serviceName, _, requiredScope, _, providers, _, validators, _, cache,
        rfl⟩
  rw [made, orDefault_server_eq_some_iff, orDefault_decisionCache_eq_some_iff]
  constructor
  · rintro ⟨⟨isServer, port, logLevel, traceEndpoint⟩, serviceName, requiredScope, providers,
      validators, isCache, isEnabled, ttl, evictionInterval⟩
    refine ⟨fun part => ?groups, fun scalar => ?scalars, providers, validators⟩
    case groups =>
      cases part with
      | server => exact isServer
      | decisionCache => exact isCache
    case scalars => cases scalar <;> assumption
  · rintro ⟨groups, scalars, providers, validators⟩
    exact ⟨⟨groups .server, scalars .port, scalars .logLevel, scalars .traceEndpoint⟩,
      scalars .serviceName, scalars .requiredScope, providers, validators, groups .decisionCache,
      scalars .isCacheEnabled, scalars .cacheTtl, scalars .evictionInterval⟩

end GroupFederation.Settings
