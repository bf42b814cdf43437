import GroupFederation.Proofs.Provider.Routing

/-!
# Names that an organization gives

The organization of a provider gives its groups names that begin with its own. Such a name can be
taken apart again, and leads to the provider, if there is no colon in the organization, since the
local name begins behind the first one. Nothing keeps an operator from configuring an organization
with a colon, and nobody can ask for its groups then.
-/

namespace GroupFederation

namespace Urn

variable {organization localName : String}

theorem colon_not_mem_of_organization? {family : Namespace} {text : String}
    (owner : organization? family text = some organization) : ':' ∉ organization.toList := by
  obtain ⟨localName, -, wellFormed⟩ := organization?_eq_some_iff.mp owner
  exact wellFormed.colon_not_mem

/-- The organization that gave a name is found in it if it has no colon. -/
theorem organization?_render_iff (family : Namespace) (owned : organization ≠ "")
    (filled : localName ≠ "") (oneLine : '\n' ∉ localName.toList) :
    organization? family (render family ⟨organization, localName⟩) = some organization ↔
      ':' ∉ organization.toList := by
  refine ⟨colon_not_mem_of_organization?, fun colonFree => organization?_eq_some_iff.mpr ?_⟩
  exact ⟨localName, rfl, owned, colonFree, filled, oneLine⟩

/-- And so is the local name. -/
theorem localPart_render_iff (family : Namespace) (owned : organization ≠ "")
    (filled : localName ≠ "") (oneLine : '\n' ∉ localName.toList) :
    localPart family (render family ⟨organization, localName⟩) = localName ↔
      ':' ∉ organization.toList := by
  constructor
  · intro stripped
    unfold localPart at stripped
    cases split : split? family (render family ⟨organization, localName⟩) with
    | none =>
        -- The whole name is longer than its local part.
        rw [split] at stripped
        have longer := congrArg String.length stripped
        simp only [render, leader, String.length_append] at longer
        have colon : ":".length = 1 := rfl
        omega
    | some urn =>
        obtain ⟨same, wellFormed⟩ := split?_eq_some_iff.mp split
        rw [split] at stripped
        simp only [render, leader, ← stripped, String.append_assoc, String.append_right_inj,
          String.append_left_inj] at same
        exact same ▸ wellFormed.colon_not_mem
  · intro colonFree
    have split : split? family (render family ⟨organization, localName⟩) =
        some ⟨organization, localName⟩ :=
      split?_eq_some_iff.mpr ⟨rfl, owned, colonFree, filled, oneLine⟩
    rw [localPart, split]

end Urn

namespace Provider

/-- A name that is made like a qualified one is asked of the provider whose organization is found in
it. -/
theorem takesGroup_render_iff {provider : Provider} {urn : Urn} :
    provider.takesGroup (Urn.render .group urn) = true ↔
      Urn.organization? .group (Urn.render .group urn) = some provider.organization := by
  obtain ⟨rest, isUrn⟩ := Urn.exists_render_group_eq urn
  rw [takesGroup_eq_admits, Urn.organization?, Urn.formOf]
  cases Urn.split? .group (Urn.render .group urn) with
  | some other => exact beq_iff_eq.trans (eq_comm.trans Option.some_inj.symm)
  | none =>
      have malformed := Urn.isPrefixOf_urn_iff.mpr ⟨rest, isUrn⟩
      simp only [if_pos malformed, Urn.Form.admits, Option.map_none, Bool.false_eq_true,
        reduceCtorEq]

/-- A name leads back to the provider whose organization gave it, and to the local name. -/
structure LeadsBack (provider : Provider) (localName name : String) : Prop where
  qualified : Urn.isQualified .group name = true
  owner : Urn.organization? .group name = some provider.organization
  stripped : Urn.localPart .group name = localName
  routed : provider.takesGroup name = true

/-- The names that the organization of an accepted definition gives to groups lead back to the
provider of the definition exactly if the organization has no colon. If it has one, then another
organization or none is found in them, and another local name, and the provider is not asked. -/
theorem own_names_lead_back_iff {kind : Kind} {url : String} {credentials : Credentials}
    {timeout : Nat} {organization name localName : String} {listsMembers : Bool} {config : Config}
    (accepted : Config.ofFields kind url credentials timeout organization name listsMembers =
      .ok config)
    (filled : localName ≠ "") (oneLine : '\n' ∉ localName.toList) (network : Http.Network) :
    let provider := ofConfig network config
    let own := Urn.render .group ⟨config.organization, localName⟩
    (LeadsBack provider localName own ↔ ':' ∉ config.organization.toList) ∧
      (Urn.organization? .group own = some config.organization ↔
        ':' ∉ config.organization.toList) ∧
      (Urn.localPart .group own = localName ↔ ':' ∉ config.organization.toList) ∧
      (provider.takesGroup own = true ↔ ':' ∉ config.organization.toList) := by
  intro provider own
  have owned : config.organization ≠ "" := by
    obtain ⟨-, -, owned, -, rfl⟩ := Config.ofFields_eq_ok_iff.mp accepted
    exact owned
  have isOwner : provider.organization = config.organization := organization_ofConfig network config
  have owner := Urn.organization?_render_iff .group owned filled oneLine
  have stripped := Urn.localPart_render_iff .group owned filled oneLine
  have routed : provider.takesGroup own = true ↔ ':' ∉ config.organization.toList := by
    rw [takesGroup_render_iff, isOwner, owner]
  refine ⟨⟨fun back => routed.mp back.routed, fun colonFree => ⟨?_, ?_, ?_, ?_⟩⟩, owner, stripped,
    routed⟩
  · exact (Urn.isQualified_render_iff owned colonFree).mpr ⟨filled, oneLine⟩
  · exact (owner.mpr colonFree).trans (congrArg some isOwner.symm)
  · exact stripped.mpr colonFree
  · exact routed.mpr colonFree

/-- Further colons belong to the local name, and a line break may be part of the organization. -/
theorem own_names_lead_back_iff_colons :
    let config : Config :=
      ⟨.grouper, "http://registry.test", ⟨"user", "secret"⟩, 500, "example\n.org", "home", true⟩
    let own := "urn:collab:group:example\n.org:course:math:"
    Config.ofFields .grouper "http://registry.test/" ⟨"user", "secret"⟩ 500 " example\n.org " "home"
        true = .ok config ∧
      "course:math:" ≠ "" ∧ '\n' ∉ "course:math:".toList ∧
      LeadsBack (ofConfig .unplugged config) "course:math:" own := by
  intro config own
  have accepted : Config.ofFields .grouper "http://registry.test/" ⟨"user", "secret"⟩ 500
      " example\n.org " "home" true = .ok config := by decide +kernel
  have filled : "course:math:" ≠ "" := by decide
  have oneLine : '\n' ∉ "course:math:".toList := by decide
  have named : Urn.render .group ⟨config.organization, "course:math:"⟩ = own := by decide
  have back := (own_names_lead_back_iff accepted filled oneLine .unplugged).1.mpr (by decide)
  exact ⟨accepted, filled, oneLine, named ▸ back⟩

/-- An organization with a colon is accepted for every kind of provider, and its names are taken for
those of another organization, or for no names at all. -/
theorem own_names_lead_astray :
    let provided (kind : Kind) (organization : String) := (Config.ofFields kind "http://a.test"
      ⟨"user", "secret"⟩ 500 organization "partner" true).toOption.map (ofConfig .unplugged)
    let own (organization : String) := Urn.render .group ⟨organization, "lab"⟩
    Urn.organization? .group (own "partner.org:8080") = some "partner.org" ∧
      Urn.localPart .group (own "partner.org:8080") = "8080:lab" ∧
      Urn.isMalformedGroup (own ":") = true ∧
      ∀ kind ∈ [Kind.grouper, .voot2, .openSocial], ∀ organization ∈ ["partner.org:8080", ":"],
        (provided kind organization).map Provider.organization = some organization ∧
          (provided kind organization).map (Provider.takesGroup · (own organization)) =
            some false := by
  decide +kernel

end Provider

end GroupFederation
