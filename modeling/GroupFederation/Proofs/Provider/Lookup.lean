import GroupFederation.Proofs.Naming
import GroupFederation.Provider.Build

/-!
# What a backend answers when it is asked for one group

The three kinds of backends pick the group of an answer in three ways: the registry takes the group
with the local name that was asked for, a partner with collections the first group of the person
with that local name, and a partner with the membership interface whatever its resource holds
first. A group of the registry is always of its own organization, so that the local name says which
one it is. A group of a partner need not be: the backend may report a name that is fully qualified
already, and that name is taken over as it is.
-/

namespace GroupFederation.Provider

/-! ## Replies that are made of an answer -/

/-- Changing what is read changes the value of the reply. -/
theorem Config.value?_replyTo_map {α β : Type} (config : Config) (exchange : Http.Exchange)
    (read : Http.Answer → Except Failure α) (change : α → β) :
    (config.replyTo exchange fun answer => (read answer).map change).outcome.value? =
      (config.replyTo exchange read).outcome.value?.map change := by
  unfold Config.replyTo
  cases exchange.result with
  | error trouble => rfl
  | ok answer => cases h : read answer <;> simp [h, Except.map, Outcome.ofExcept, Outcome.value?]

/-- Changing what is read changes the outcome of the reply. -/
theorem Config.outcome_replyTo_map {α β : Type} (config : Config) (exchange : Http.Exchange)
    (read : Http.Answer → Except Failure α) (change : α → β) :
    (config.replyTo exchange fun answer => (read answer).map change).outcome =
      (config.replyTo exchange read).outcome.map change := by
  unfold Config.replyTo
  cases exchange.result with
  | error trouble => rfl
  | ok answer => cases h : read answer <;> simp [h, Except.map, Outcome.ofExcept, Outcome.map]

/-- The outcome of a reply depends on what comes back and on nothing else. -/
theorem Config.outcome_replyTo_congr {α : Type} {config : Config} {exchange other : Http.Exchange}
    (same : exchange.result = other.result) (read : Http.Answer → Except Failure α) :
    (config.replyTo exchange read).outcome = (config.replyTo other read).outcome := by
  unfold Config.replyTo
  rw [same]

/-- The value of a reply was read from an answer. -/
theorem Config.exists_of_value?_replyTo {α : Type} {config : Config} {exchange : Http.Exchange}
    {read : Http.Answer → Except Failure α} {value : α}
    (answered : (config.replyTo exchange read).outcome.value? = some value) :
    ∃ answer, read answer = .ok value := by
  unfold Config.replyTo at answered
  cases result : exchange.result with
  | error trouble => simp [result, Outcome.value?] at answered
  | ok answer =>
      refine ⟨answer, ?_⟩
      cases readings : read answer with
      | error failure => simp [result, readings, Outcome.ofExcept, Outcome.value?] at answered
      | ok found =>
          simp only [result, readings, Outcome.ofExcept, Outcome.value?,
            Option.some.injEq] at answered
          rw [answered]

/-! ## The registry -/

namespace Grouper

theorem name_ne_empty_of_mem_firstOfEach {α : Type} {name : α → String} {seen : List String}
    {records : List α} {record : α} (member : record ∈ firstOfEach name seen records) :
    name record ≠ "" := by
  induction records generalizing seen with
  | nil => cases member
  | cons first records inductionHypothesis =>
      rw [firstOfEach] at member
      split at member
      · exact inductionHypothesis member
      · next taken =>
          rcases List.mem_cons.mp member with rfl | later
          · intro empty
            simp [empty] at taken
          · exact inductionHypothesis later

/-- A group of the registry is of its organization, and has a local name. -/
theorem exists_name_of_mem_groupsOf {organization : String} {results : Soap.Results} {group : Group}
    (member : group ∈ groupsOf organization results) :
    ∃ name, name ≠ "" ∧ group.id = Urn.render .group ⟨organization, name⟩ := by
  obtain ⟨record, taken, rfl⟩ := List.mem_map.mp member
  exact ⟨record.name, name_ne_empty_of_mem_firstOfEach taken, rfl⟩

/-- The registry answers with the group that it is asked for. -/
theorem id_of_membership {network : Http.Network} {config : Config} {earlier : List Query}
    {person group : String} {found : Group}
    (owner : Urn.organization? .group group = some config.organization)
    (answered : ((provider network config).membership earlier person group).outcome.value? =
      some (some found)) : found.id = group := by
  obtain ⟨answer, picked⟩ := Config.exists_of_value?_replyTo answered
  simp only [readGroup, readGroups] at picked
  cases results : readResults answer with
  | error failure => simp [results, Except.map] at picked
  | ok results =>
      simp only [results, Except.map, Except.ok.injEq] at picked
      obtain ⟨name, filled, same⟩ :=
        exists_name_of_mem_groupsOf (List.mem_of_find?_eq_some picked)
      have sameLocal : Urn.localPart .group found.id = Urn.localPart .group group := by
        simpa using List.find?_some picked
      rw [same] at sameLocal ⊢
      exact Urn.render_eq_of_localPart owner filled sameLocal

end Grouper

/-! ## Partners -/

namespace Voot

/-- The groups that the resource of a single membership holds, if it can be read. -/
def held? (network : Http.Network) (config : Config) (person group : String) :
    Option (List Group) :=
  (config.replyTo (config.get network (membershipResource person group))
    (readGroups config.organization)).outcome.value?

/-- The answer is the first of them. -/
theorem value?_membership (network : Http.Network) (config : Config) (earlier : List Query)
    (person group : String) :
    ((provider network config).membership earlier person group).outcome.value? =
      (held? network config person group).map List.head? :=
  config.value?_replyTo_map _ _ _

end Voot

namespace OpenSocial

/-- The groups of a person at the partner, if the collection can be read. -/
def listed? (network : Http.Network) (config : Config) (person : String) : Option (List Group) :=
  ((provider network config).memberships [] person).outcome.value?

/-- The answer is the first of them with the local name. -/
theorem value?_membership (network : Http.Network) (config : Config) (earlier : List Query)
    (person group : String) :
    ((provider network config).membership earlier person group).outcome.value? =
      (listed? network config person).map fun groups => groups.find? fun found =>
        Urn.localPart .group found.id == Urn.localPart .group group :=
  config.value?_replyTo_map _ _ _

end OpenSocial

/-- What a backend has in the place of a group is another group: the resource of the membership
holds another one first, or the person's first group with that local name does not have a name of
the partner's organization. -/
def Config.Strays (config : Config) (network : Http.Network) (person group : String) : Prop :=
  match config.kind with
  | .grouper => False
  | .voot2 => ∃ first others, Voot.held? network config person group = some (first :: others) ∧
      first.id ≠ group
  | .openSocial => ∃ groups found, OpenSocial.listed? network config person = some groups ∧
      (groups.find? fun found =>
        Urn.localPart .group found.id == Urn.localPart .group group) = some found ∧
      Urn.organization? .group found.id ≠ some config.organization

/-- A provider that takes a fully qualified group is of the organization of that group. -/
theorem organization?_of_takesGroup {provider : Provider} {group : String}
    (qualified : Urn.isQualified .group group) (takes : provider.takesGroup group) :
    Urn.organization? .group group = some provider.organization := by
  unfold takesGroup at takes
  split at takes
  · simpa [externalKnows] using takes
  · obtain ⟨urn, split⟩ := Option.isSome_iff_exists.mp qualified
    have owner : Urn.organization? .group group = some urn.organization := by
      simp [Urn.organization?, split]
    rw [owner, (authoritativeKnows_iff.mp takes).2 urn.organization owner]

/-- A group that comes back for another one comes from a backend that has it in that place. -/
theorem id_ne_iff_strays {network : Http.Network} {config : Config} {earlier : List Query}
    {person group : String} {found : Group} (qualified : Urn.isQualified .group group)
    (takes : (ofConfig network config).takesGroup group)
    (answered : ((ofConfig network config).membership earlier person group).outcome.value? =
      some (some found)) : found.id ≠ group ↔ config.Strays network person group := by
  have owner := organization?_of_takesGroup qualified takes
  rw [organization_ofConfig] at owner
  unfold Config.Strays
  unfold ofConfig at answered
  cases kind : config.kind with
  | grouper =>
      rw [kind] at answered
      simpa using Grouper.id_of_membership owner answered
  | voot2 =>
      simp only [kind, Voot.value?_membership, Option.map_eq_some_iff] at answered
      obtain ⟨held, present, isFirst⟩ := answered
      obtain ⟨others, rfl⟩ := List.head?_eq_some_iff.mp isFirst
      simp [present]
  | openSocial =>
      simp only [kind, OpenSocial.value?_membership, Option.map_eq_some_iff] at answered
      obtain ⟨groups, present, picked⟩ := answered
      have sameLocal : Urn.localPart .group found.id = Urn.localPart .group group := by
        simpa using List.find?_some picked
      have same_iff : found.id = group ↔
          Urn.organization? .group found.id = some config.organization :=
        ⟨fun same => same ▸ owner, fun foundOwner => Urn.eq_of_parts foundOwner owner sameLocal⟩
      simp [present, picked, same_iff]

end GroupFederation.Provider
