import GroupFederation.Http.Canned
import GroupFederation.Proofs.Aggregation.FanOut
import GroupFederation.Provider.Build

/-!
# The order of configuration

The registry is made once of a list of providers, at most one of which is not external. Putting that
one first is sorting by a single bit, stably: the external ones stay in the order in which they were
configured. Another order of the same providers changes that order, and with it which of two external
partners has the first word about a group that both report. Nothing else depends on it: who is asked,
which groups are in an answer, and the records of the authoritative provider.
-/

namespace GroupFederation

/-! ## Sorting by one bit -/

section Sorting

variable {α : Type} (isExternal : α → Bool)

/-- A list in which no external element precedes one that is not is made of these and those. -/
theorem eq_authoritativeFirst_of_pairwise {elements : List α}
    (sorted : elements.Pairwise fun left right => !isExternal left || isExternal right) :
    elements = authoritativeFirst isExternal elements := by
  induction elements with
  | nil => rfl
  | cons element elements inductionHypothesis =>
      obtain ⟨first, rest⟩ := List.pairwise_cons.mp sorted
      by_cases external : isExternal element
      · have allExternal : ∀ other ∈ elements, isExternal other := by
          simpa [external] using first
        have none : (elements.filter fun other => !isExternal other) = [] :=
          List.filter_eq_nil_iff.mpr fun other member => by simp [allExternal other member]
        rw [authoritativeFirst, List.filter_cons_of_neg (by simp [external]), none, List.nil_append,
          List.filter_eq_self.mpr (List.forall_mem_cons.mpr ⟨external, allExternal⟩)]
      · conv => left; rw [inductionHypothesis rest]
        simp [authoritativeFirst, external]

/-- Putting the elements that are not external first is a stable sort. -/
theorem authoritativeFirst_eq_mergeSort (elements : List α) :
    authoritativeFirst isExternal elements =
      elements.mergeSort fun left right => !isExternal left || isExternal right := by
  have transitive (first second third : α) :
      (!isExternal first || isExternal second) → (!isExternal second || isExternal third) →
        (!isExternal first || isExternal third) := by
    cases isExternal first <;> cases isExternal second <;> simp
  have total (left right : α) :
      ((!isExternal left || isExternal right) || (!isExternal right || isExternal left)) := by
    cases isExternal left <;> cases isExternal right <;> rfl
  have sorted := List.pairwise_mergeSort transitive total elements
  have perm := elements.mergeSort_perm fun left right => !isExternal left || isExternal right
  -- Elements that the order does not tell apart stay in their order.
  have kept (accepts : α → Bool)
      (alike : ∀ left right, accepts left → accepts right →
        (!isExternal left || isExternal right)) :
      (elements.mergeSort fun left right => !isExternal left || isExternal right).filter accepts =
        elements.filter accepts := by
    have ordered : (elements.filter accepts).Pairwise fun left right =>
        !isExternal left || isExternal right :=
      List.pairwise_of_forall_mem_list fun left leftMember right rightMember =>
        alike left right (List.mem_filter.mp leftMember).2 (List.mem_filter.mp rightMember).2
    have sublist := (List.sublist_mergeSort transitive total ordered List.filter_sublist).filter
      accepts
    rw [List.filter_filter] at sublist
    refine (List.Sublist.eq_of_length ?_ (perm.filter accepts).length_eq.symm).symm
    simpa using sublist
  rw [eq_authoritativeFirst_of_pairwise isExternal sorted, authoritativeFirst, authoritativeFirst,
    kept _ fun left right internal _ => by rw [internal, Bool.true_or],
    kept _ fun left right _ external => by rw [external, Bool.or_true]]

end Sorting

/-! ## At most one provider that is not external -/

/-- Of accepted configurations at most one makes a provider that is not external. -/
theorem Provider.length_authoritative_of_acceptAll {entries : List Provider.Entry}
    {configs : List Provider.Config} (accepted : Provider.Config.acceptAll entries = .ok configs)
    (network : Http.Network) :
    ((configs.map (Provider.ofConfig network)).filter fun provider =>
      !provider.isExternal).length ≤ 1 := by
  have few : (configs.filter fun config => !config.isExternal).length ≤ 1 := by
    unfold Provider.Config.acceptAll at accepted
    split at accepted
    · cases accepted
    · split at accepted
      · cases accepted
      · rename_i valid _
        by_cases several : 1 < (valid.filter fun config => !config.isExternal).length
        · simp [several] at accepted
        · simp only [several, if_false, Except.ok.injEq] at accepted
          rw [← accepted]
          exact Nat.le_of_not_lt several
  simpa [List.filter_map, Function.comp_def, Provider.isExternal_ofConfig] using few

/-- A single element stays where it is. -/
theorem filter_eq_of_perm {α : Type} {left right : List α} {accepts : α → Bool}
    (perm : left.Perm right) (single : (left.filter accepts).length ≤ 1) :
    left.filter accepts = right.filter accepts := by
  have same := perm.filter accepts
  cases kept : left.filter accepts with
  | nil =>
      rw [kept] at same
      exact same.nil_eq
  | cons element rest =>
      rw [kept, List.length_cons] at single
      obtain rfl : rest = [] := List.length_eq_zero_iff.mp (by omega)
      rw [kept] at same
      exact List.singleton_perm.mp same

namespace Registry

theorem providers_ofList_perm (providers : List Provider) :
    (ofList providers).providers.Perm providers :=
  List.perm_append_comm.trans (List.filter_append_perm Provider.isExternal providers)

theorem external_ofList (providers : List Provider) :
    (ofList providers).external = providers.filter Provider.isExternal := by
  simp [external, ofList, authoritativeFirst, List.filter_filter]

theorem authoritative_ofList (providers : List Provider) :
    (ofList providers).authoritative = providers.filter fun provider => !provider.isExternal := by
  simp [authoritative, ofList, authoritativeFirst, List.filter_filter]

/-- The only provider that is not external comes first. -/
theorem head?_ofList {providers : List Provider}
    (single : (providers.filter fun provider => !provider.isExternal).length ≤ 1)
    {home : Provider} (member : home ∈ providers) (internal : home.isExternal = false) :
    (ofList providers).providers.head? = some home := by
  have kept : home ∈ providers.filter fun provider => !provider.isExternal :=
    List.mem_filter.mpr ⟨member, by simp [internal]⟩
  obtain ⟨only, alone⟩ := List.length_eq_one_iff.mp
    (Nat.le_antisymm single (List.length_pos_of_mem kept))
  rw [alone, List.mem_singleton] at kept
  rw [ofList, authoritativeFirst, alone, kept]
  rfl

end Registry

namespace Aggregation.Engine

variable {engine other : Engine} {providers : List Provider}

theorem answers_perm (same : engine.partners.Perm other.partners) (listing : Listing) :
    (engine.answers listing).Perm (other.answers listing) :=
  (same.filter _).filterMap _

/-- What the authoritative provider answers does not depend on the order. -/
theorem authoritativeAnswers_eq (same : engine.partners.Perm other.partners)
    (single : engine.registry.authoritative.length ≤ 1) (listing : Listing) :
    engine.authoritativeAnswers listing = other.authoritativeAnswers listing := by
  have few : (engine.partners.filter fun partner => !partner.provider.isExternal).length ≤ 1 := by
    simpa [Registry.authoritative, registry, List.filter_map, Function.comp_def] using single
  rw [authoritativeAnswers, authoritativeAnswers, eligible, eligible, List.filter_comm,
    filter_eq_of_perm same few, List.filter_comm]

/-- Only authoritative providers are asked for all groups. -/
theorem answers_allGroups (engine : Engine) :
    engine.answers .allGroups = engine.authoritativeAnswers .allGroups := by
  simp [answers, authoritativeAnswers, eligible, Listing.isAsked, List.filter_filter]

/-- Every group is in both answers or in neither. -/
theorem ids_perm (same : engine.partners.Perm other.partners) (listing : Listing) :
    ((engine.list listing).value.map Group.id).Perm ((other.list listing).value.map Group.id) := by
  rw [list_value, list_value,
    List.perm_ext_iff_of_nodup (nodup_firstRecords _) (nodup_firstRecords _)]
  intro id
  rw [mem_ids_firstRecords, mem_ids_firstRecords]
  exact ((answers_perm same listing).flatten.map Group.id).mem_iff

/-- What the authoritative provider reports about a group is what the answer says about it. -/
theorem find?_list_of_authoritative (built : engine.registry = .ofList providers)
    {listing : Listing} {id : String} {record : Group}
    (reported : ((engine.authoritativeAnswers listing).flatten.find? fun group =>
      group.id == id) = some record) :
    ((engine.list listing).value.find? fun group => group.id == id) = some record := by
  rw [list_value, find?_firstRecords, answers_eq_append built listing, List.flatten_append,
    List.find?_append, reported]
  rfl

/-- Two orders of the same providers, of which at most one is not external, make registries that
select the same providers for a person's organization and for a group. In each the only provider
that is not external comes first, and the external ones follow as they were configured: that is a
stable sort. As long as every provider gives the same answers to both engines, the lists of both have
the same groups, a group that the authoritative provider reports has its record in both, and the
lists of all groups are equal. -/
theorem lists_of_reordered {providers others : List Provider} (perm : providers.Perm others)
    (single : (providers.filter fun provider => !provider.isExternal).length ≤ 1) :
    let registry := Registry.ofList providers
    let reordered := Registry.ofList others
    (∀ organization,
      (registry.forMemberships organization).Perm (reordered.forMemberships organization)) ∧
    (∀ group, (registry.forGroup group).Perm (reordered.forGroup group)) ∧
    (registry.providers =
      providers.mergeSort fun left right => !left.isExternal || right.isExternal) ∧
    (∀ home ∈ providers, home.isExternal = false → registry.providers.head? = some home ∧
      reordered.providers.head? = some home) ∧
    registry.external = providers.filter Provider.isExternal ∧
    reordered.external = others.filter Provider.isExternal ∧
    (ofRegistry registry).partners.Perm (ofRegistry reordered).partners ∧
    ∀ engine other : Engine, engine.registry = registry → other.registry = reordered →
      engine.partners.Perm other.partners →
        engine.allGroups.value = other.allGroups.value ∧
        ∀ listing,
          ((engine.list listing).value.map Group.id).Perm
            ((other.list listing).value.map Group.id) ∧
          ∀ id record, ((engine.authoritativeAnswers listing).flatten.find? fun group =>
              group.id == id) = some record →
            ((engine.list listing).value.find? fun group => group.id == id) = some record ∧
              ((other.list listing).value.find? fun group => group.id == id) = some record := by
  intro registry reordered
  have selected : registry.providers.Perm reordered.providers :=
    (Registry.providers_ofList_perm providers).trans
      (perm.trans (Registry.providers_ofList_perm others).symm)
  have otherSingle : (others.filter fun provider => !provider.isExternal).length ≤ 1 := by
    rwa [← filter_eq_of_perm perm single]
  refine ⟨fun _ => selected.filter _, fun _ => selected.filter _,
    authoritativeFirst_eq_mergeSort Provider.isExternal providers, ?_,
    Registry.external_ofList providers, Registry.external_ofList others, selected.map _, ?_⟩
  · intro home member internal
    exact ⟨Registry.head?_ofList single member internal,
      Registry.head?_ofList otherSingle (perm.mem_iff.mp member) internal⟩
  · intro engine other built otherBuilt same
    have alone : engine.registry.authoritative.length ≤ 1 := by
      rw [built, Registry.authoritative_ofList]
      exact single
    have authoritative := authoritativeAnswers_eq same alone
    refine ⟨?_, fun listing => ⟨ids_perm same listing, fun id record reported => ?_⟩⟩
    · calc engine.allGroups.value
          = firstRecords (engine.answers .allGroups).flatten := engine.list_value .allGroups
        _ = firstRecords (other.answers .allGroups).flatten := by
            rw [answers_allGroups, answers_allGroups, authoritative]
        _ = other.allGroups.value := (other.list_value .allGroups).symm
    · exact ⟨find?_list_of_authoritative built reported,
        find?_list_of_authoritative otherBuilt (authoritative listing ▸ reported)⟩

/-- An accepted configuration and its reverse. The two partners report different records of the
choir, and of these the one that is configured first stands; that the group of the registry has the
record of the registry does not depend on it. -/
theorem lists_of_reordered_accepted :
    let entry (kind name : String) : Provider.Entry :=
      ⟨kind, "http://" ++ name ++ ".test", "user", "secret", 500, "example.org", name, false⟩
    let config (kind : Provider.Kind) (name : String) : Provider.Config :=
      ⟨kind, "http://" ++ name ++ ".test", ⟨"user", "secret"⟩, 500, "example.org", name, false⟩
    let configs := [config .voot2 "north", config .grouper "home", config .voot2 "south"]
    let backend (name body : String) : Http.Canned.Backend :=
      ⟨name, [{ body := Text.Utf8.ofText body }]⟩
    let network := Http.Canned.network
      [backend "north" "[[\"lab\", \"North\"], [\"choir\", \"North\"]]",
        backend "home" "<r><wsGroups><name>lab</name></wsGroups></r>",
        backend "south" "[[\"choir\", \"South\"]]"]
    let answer (order : List Provider.Config) :=
      ((ofRegistry (.ofList (order.map (Provider.ofConfig network)))).list
        (.memberships "urn:collab:person:example.org:jane" "example.org")).value
    let named (order : List Provider.Config) (name : String) :=
      ((answer order).find? fun group => group.id == "urn:collab:group:example.org:" ++ name).map
        Group.displayName
    Provider.Config.acceptAll
        [entry "voot2" "north", entry "grouper" "home", entry "voot2" "south"] = .ok configs ∧
      ((answer configs).map Group.id).Perm ((answer configs.reverse).map Group.id) ∧
      named configs "lab" = some "lab" ∧ named configs.reverse "lab" = some "lab" ∧
      named configs "choir" = some "North" ∧ named configs.reverse "choir" = some "South" := by
  intro entry config configs backend network answer named
  have accepted : Provider.Config.acceptAll
      [entry "voot2" "north", entry "grouper" "home", entry "voot2" "south"] = .ok configs := by
    decide +kernel
  obtain ⟨-, -, -, -, -, -, fresh, lists⟩ :=
    lists_of_reordered (configs.reverse_perm.symm.map (Provider.ofConfig network))
      (Provider.length_authoritative_of_acceptAll accepted network)
  obtain ⟨-, same⟩ := lists _ _ (registry_ofRegistry _) (registry_ofRegistry _) fresh
  obtain ⟨ids, records⟩ := same (.memberships "urn:collab:person:example.org:jane" "example.org")
  obtain ⟨first, second⟩ := records "urn:collab:group:example.org:lab"
    ⟨"urn:collab:group:example.org:lab", "lab", none, "example.org", ⟨.member⟩⟩ (by decide +kernel)
  refine ⟨accepted, ids, congrArg (Option.map Group.displayName) first,
    congrArg (Option.map Group.displayName) second, ?_⟩
  simp only [named, answer, list_value]
  decide +kernel

end Aggregation.Engine

end GroupFederation
