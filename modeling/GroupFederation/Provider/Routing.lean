import GroupFederation.Urn

/-!
# Routing

Which providers may know a group is decided from its name alone. An external partner is asked for
the groups of its own organization and for no others. The authoritative registry is asked for the
groups of its organization and for names that are not qualified at all; a malformed URN is nobody's.
-/

namespace GroupFederation.Provider

/-- Whether an external partner of the organization may know the group. -/
def externalKnows (organization group : String) : Bool :=
  Urn.organization? .group group == some organization

/-- Whether the authoritative registry of the organization may know the group. -/
def authoritativeKnows (organization group : String) : Bool :=
  if Urn.isMalformedGroup group then false
  else match Urn.organization? .group group with
    | some owner => owner == organization
    | none => true

/-- The authoritative registry refuses malformed names and those of other organizations. -/
theorem authoritativeKnows_iff {organization group : String} :
    authoritativeKnows organization group = true ↔
      Urn.isMalformedGroup group = false ∧
        ∀ owner, Urn.organization? .group group = some owner → owner = organization := by
  unfold authoritativeKnows
  cases Urn.isMalformedGroup group with
  | true => simp
  | false => cases Urn.organization? .group group <;> simp

end GroupFederation.Provider
