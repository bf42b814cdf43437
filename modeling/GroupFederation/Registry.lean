import GroupFederation.Provider.Basic

/-!
# The registry

The providers are put in order once, at startup: those that are not external come first, and beside
that the configured order stays. Wherever answers are put together in registry order, the
authoritative provider has the first word.
-/

namespace GroupFederation

/-- Put the elements that are not external first and keep the order otherwise. -/
def authoritativeFirst {α : Type} (isExternal : α → Bool) (elements : List α) : List α :=
  elements.filter (fun element => !isExternal element) ++ elements.filter isExternal

/-- The providers of the service, in the order in which their answers count. -/
structure Registry where
  providers : List Provider

namespace Registry

/-- The registry of the given providers. -/
def ofList (providers : List Provider) : Registry :=
  ⟨authoritativeFirst Provider.isExternal providers⟩

/-- Putting providers in order keeps them all. -/
theorem mem_providers_ofList {providers : List Provider} {provider : Provider} :
    provider ∈ (ofList providers).providers ↔ provider ∈ providers := by
  simp only [ofList, authoritativeFirst, List.mem_append, List.mem_filter, ← and_or_left]
  cases provider.isExternal <;> simp

def size (registry : Registry) : Nat :=
  registry.providers.length

def isEmpty (registry : Registry) : Bool :=
  registry.providers.isEmpty

/-- The providers that are not external. -/
def authoritative (registry : Registry) : List Provider :=
  registry.providers.filter fun provider => !provider.isExternal

def external (registry : Registry) : List Provider :=
  registry.providers.filter Provider.isExternal

/-- The providers where a person of the organization may have memberships. -/
def forMemberships (registry : Registry) (organization : String) : List Provider :=
  registry.providers.filter fun provider => provider.takesMemberships organization

/-- The providers where the group can live. -/
def forGroup (registry : Registry) (group : String) : List Provider :=
  registry.providers.filter fun provider => provider.takesGroup group

end Registry

end GroupFederation
