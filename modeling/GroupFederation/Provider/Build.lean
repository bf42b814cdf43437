import GroupFederation.Provider.Grouper
import GroupFederation.Provider.OpenSocial
import GroupFederation.Provider.Voot

/-!
# Providers from configurations

The kind of a configuration decides which backend its provider speaks to, and which questions that
backend takes.
-/

namespace GroupFederation.Provider

namespace Kind

/-- Whether a backend of the kind is asked for the memberships of a person, by its own organization
and that of the person. -/
def takesMemberships : Kind → (own organization : String) → Bool
  | .grouper, _, _ => true
  | .voot2, own, organization => own == organization
  | .openSocial, own, organization => own == organization

/-- Whether a backend of the kind is asked about a group, by its own organization. -/
def takesGroup : Kind → (own group : String) → Bool
  | .grouper, own, group => authoritativeKnows own group
  | .voot2, own, group => externalKnows own group
  | .openSocial, own, group => externalKnows own group

end Kind

/-- The provider of a validated configuration, on a network. -/
def ofConfig (network : Http.Network) (config : Config) : Provider :=
  match config.kind with
  | .grouper => Grouper.provider network config
  | .voot2 => Voot.provider network config
  | .openSocial => OpenSocial.provider network config

theorem isExternal_ofConfig (network : Http.Network) (config : Config) :
    (ofConfig network config).isExternal = config.isExternal := by
  unfold ofConfig Config.isExternal
  cases config.kind <;> rfl

theorem organization_ofConfig (network : Http.Network) (config : Config) :
    (ofConfig network config).organization = config.organization := by
  unfold ofConfig
  cases config.kind <;> rfl

/-- The rule that providers share is for the provider of a configuration the rule of its kind. -/
theorem takesMemberships_ofConfig (network : Http.Network) (config : Config)
    (organization : String) :
    (ofConfig network config).takesMemberships organization =
      config.kind.takesMemberships config.organization organization := by
  rw [takesMemberships, isExternal_ofConfig, organization_ofConfig, Config.isExternal]
  cases config.kind <;> rfl

theorem takesGroup_ofConfig (network : Http.Network) (config : Config) (group : String) :
    (ofConfig network config).takesGroup group =
      config.kind.takesGroup config.organization group := by
  rw [takesGroup, isExternal_ofConfig, organization_ofConfig, Config.isExternal]
  cases config.kind <;> rfl

end GroupFederation.Provider
