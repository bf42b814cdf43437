import GroupFederation.Proofs.Http.Redaction
import GroupFederation.Provider.Build

/-!
# Providers and their passwords

A password is in a provider entry, goes from there into a configuration and from there into the
`authorization` fields of requests. It takes no part in validating the entry, is in no description
of the configuration, and of the replies that a provider makes it decides nothing but those fields.
-/

namespace GroupFederation

/-- A reply whose requests are redacted. -/
def Reply.redacted {α : Type} (reply : Reply α) : Reply α :=
  { reply with sent := reply.sent.map Http.Request.redacted }

namespace Provider

/-- A provider of whose requests nobody sees who sends them. -/
def redacted (provider : Provider) : Provider :=
  { provider with
    memberships := fun earlier person => (provider.memberships earlier person).redacted
    membership := fun earlier person group => (provider.membership earlier person group).redacted
    members := fun earlier group => (provider.members earlier group).redacted
    allGroups := fun earlier => (provider.allGroups earlier).redacted }

/-- An entry without its secret. -/
def Entry.redacted (entry : Entry) : Entry :=
  { entry with secret := "" }

/-- An account without its password. -/
def Credentials.redacted (credentials : Credentials) : Credentials :=
  { credentials with password := "" }

namespace Config

/-- A configuration without the password. -/
def redacted (config : Config) : Config :=
  { config with credentials := config.credentials.redacted }

/-! ## Validation -/

theorem ofFields_redacted (kind : Kind) (url : String) (credentials : Credentials) (timeout : Nat)
    (organization name : String) (listsMembers : Bool) :
    ofFields kind url credentials.redacted timeout organization name listsMembers =
      (ofFields kind url credentials timeout organization name listsMembers).map redacted := by
  simp only [ofFields, apply_ite (Except.map redacted)]
  rfl

theorem ofEntry_redacted (entry : Entry) :
    ofEntry entry.redacted = (ofEntry entry).map redacted := by
  have kind : entry.redacted.kind = entry.kind := rfl
  simp only [ofEntry, kind]
  cases Kind.read entry.kind with
  | error word => rfl
  | ok kind => exact ofFields_redacted kind entry.url ⟨entry.username, entry.secret⟩ ..

theorem ofEntries_redacted (entries : List Entry) :
    ofEntries (entries.map Entry.redacted) = (ofEntries entries).map (List.map redacted) := by
  induction entries with
  | nil => rfl
  | cons entry entries inductionHypothesis =>
      simp only [List.map_cons, ofEntries, ofEntry_redacted, inductionHypothesis]
      cases ofEntry entry with
      | error error => rfl
      | ok config => cases ofEntries entries <;> rfl

/-- Entries are accepted or refused whatever their secrets are, and refused for the same reason. -/
theorem acceptAll_redacted (entries : List Entry) :
    acceptAll (entries.map Entry.redacted) = (acceptAll entries).map (List.map redacted) := by
  cases entries with
  | nil => rfl
  | cons entry entries =>
      have authoritative (configs : List Config) :
          (configs.map redacted).filter (fun config => !config.isExternal) =
            (configs.filter fun config => !config.isExternal).map redacted :=
        List.filter_map
      have names (configs : List Config) : (configs.map redacted).map name = configs.map name := by
        simp [redacted]
      have read := ofEntries_redacted (entry :: entries)
      rw [List.map_cons] at read
      simp only [List.map_cons, acceptAll, read]
      cases ofEntries (entry :: entries) with
      | error error => rfl
      | ok configs =>
          simp only [Except.map, authoritative, names, List.length_map]
          split <;> simp

/-! ## Descriptions -/

/-- All texts that describe a configuration: the one for operators, the one for developers, and that
of the account. -/
def descriptions (config : Config) : List String :=
  [config.description, config.detail, config.credentials.description]

@[simp] theorem descriptions_redacted (config : Config) :
    config.redacted.descriptions = config.descriptions := rfl

example :
    let config : Config :=
      ⟨.voot2, "http://partner.test", ⟨"user", "secret"⟩, 1500, "partner.org", "partner", false⟩
    config.detail =
      "ProviderConfig \x7b kind: Voot2, url: \"http://partner.test\", " ++
        "credentials: Credentials \x7b username: \"user\", password: \"[REDACTED]\" \x7d, " ++
        "timeout: 1.5s, schac_home_organization: \"partner.org\", name: \"partner\", " ++
        "supports_get_members: false \x7d" := by
  decide +kernel

/-! ## Requests and replies -/

theorem redacted_headers (config : Config) (fields : List (String × String)) (url : Http.Url) :
    (config.headers fields url).redacted = (config.redacted.headers fields url).redacted := by
  simp [headers, Http.Headers.redacted, Http.Headers.redactField]

section Network

variable {network : Http.Network} (ignores : network.IgnoresCredentials)

include ignores

theorem redacted_get (config : Config) (resource : String) :
    (config.get network resource).redacted = (config.redacted.get network resource).redacted :=
  Http.Client.redacted_send ignores _ _ (config.redacted_headers _) _

theorem redacted_call (config : Config) (operation envelope : String) :
    (config.call network operation envelope).redacted =
      (config.redacted.call network operation envelope).redacted :=
  Http.Client.redacted_send ignores _ _ (config.redacted_headers _) _

end Network

/-- Of the exchange, a reply only takes over the requests as they are. -/
theorem redacted_replyTo {α : Type} (config : Config) {left right : Http.Exchange}
    (alike : left.redacted = right.redacted) (read : Http.Answer → Except Failure α) :
    (config.replyTo left read).redacted = (config.redacted.replyTo right read).redacted := by
  have taken (exchange : Http.Exchange) : (config.replyTo exchange read).redacted =
      config.replyTo exchange.redacted read := rfl
  rw [taken, alike]
  rfl

end Config

/-- Without its password, the configuration makes the same provider up to who sends its requests. -/
theorem redacted_ofConfig {network : Http.Network} (ignores : network.IgnoresCredentials)
    (config : Config) :
    (ofConfig network config).redacted = (ofConfig network config.redacted).redacted := by
  have get (resource : String) := config.redacted_get ignores resource
  have call (operation envelope : String) := config.redacted_call ignores operation envelope
  have kind : config.redacted.kind = config.kind := rfl
  unfold ofConfig
  rw [kind]
  cases config.kind with
  | grouper =>
      simp only [redacted, Grouper.provider, Grouper.askMemberships,
        config.redacted_replyTo (call _ _)]
      rfl
  | voot2 =>
      simp only [redacted, Voot.provider, config.redacted_replyTo (get _)]
      rfl
  | openSocial =>
      simp only [redacted, OpenSocial.provider, config.redacted_replyTo (get _)]
      rfl

end Provider

end GroupFederation
