import GroupFederation.Proofs.Provider.Lookup
import GroupFederation.Http.Canned
import GroupFederation.Registry

/-!
# Names under which groups are listed

The backend of a partner reports groups under names of its own, which may be local ones. A group is
listed under a name that is fully qualified already if the backend reports one, and otherwise under
the name that the partner's organization gives to it. Such a name can be used to ask for the group
again: it leads to the partner, and there to the name that the backend reported. That is so unless
the backend reports a text that cannot be a local name, one that is empty or breaks the line.
-/

namespace GroupFederation.Provider

open Partner (GroupItem)

/-! ## What backends report -/

/-- The groups that an answer reports, when its body is read in a given way. -/
def Partner.itemsIn (read? : String → Option (List GroupItem)) (answer : Http.Answer) :
    Except Failure (List GroupItem) := do
  match ← content answer with
  | none => .ok []
  | some body => decoded (read? body)

/-- The groups of a person that the backend of a partner reports, if it answers with a list. -/
def Config.reported? (config : Config) (network : Http.Network) (person : String) :
    Option (List GroupItem) :=
  match config.kind with
  | .grouper => none
  | .voot2 => (config.replyTo (config.get network (Voot.membershipsResource person))
      (Partner.itemsIn (Partner.lenientList? Voot.groupItem?))).outcome.value?
  | .openSocial => (config.replyTo (config.get network (OpenSocial.groupsResource person))
      (Partner.itemsIn (OpenSocial.entries? OpenSocial.groupItem?))).outcome.value?

theorem Partner.map_itemsIn (read? : String → Option (List GroupItem)) (organization : String)
    (answer : Http.Answer) :
    (itemsIn read? answer).map (List.map fun item => item.toGroup organization) = (do
      match ← content answer with
      | none => .ok []
      | some body =>
          let items ← decoded (read? body)
          .ok (items.map fun item => item.toGroup organization)) := by
  unfold itemsIn
  rcases content answer with failure | _ | body
  · rfl
  · rfl
  · cases read? body <;> rfl

theorem Voot.readGroups_eq (organization : String) (answer : Http.Answer) :
    readGroups organization answer =
      (Partner.itemsIn (Partner.lenientList? groupItem?) answer).map
        (List.map fun item => item.toGroup organization) :=
  (Partner.map_itemsIn _ organization answer).symm

theorem OpenSocial.readGroups_eq (organization : String) (answer : Http.Answer) :
    readGroups organization answer =
      (Partner.itemsIn (entries? groupItem?) answer).map
        (List.map fun item => item.toGroup organization) :=
  (Partner.map_itemsIn _ organization answer).symm

/-- A partner lists the groups that its backend reports. -/
theorem value?_memberships {config : Config} (partner : config.isExternal = true)
    (network : Http.Network) (earlier : List Query) (person : String) :
    ((ofConfig network config).memberships earlier person).outcome.value? =
      (config.reported? network person).map
        (List.map fun item => item.toGroup config.organization) := by
  unfold ofConfig Config.reported?
  cases kind : config.kind with
  | grouper => simp [Config.isExternal, kind, Kind.isExternal] at partner
  | voot2 =>
      rw [← Config.value?_replyTo_map]
      simp only [Voot.provider, ← Voot.readGroups_eq]
  | openSocial =>
      rw [← Config.value?_replyTo_map]
      simp only [OpenSocial.provider, ← OpenSocial.readGroups_eq]

/-- The organization of an accepted entry has a name. -/
theorem Config.organization_ne_empty {entry : Entry} {config : Config}
    (accepted : ofEntry entry = .ok config) : config.organization ≠ "" := by
  unfold ofEntry at accepted
  split at accepted
  · cases accepted
  · obtain ⟨-, -, owned, -, rfl⟩ := ofFields_eq_ok_iff.mp accepted
    exact owned

/-! ## Names to ask with -/

/-- The name under which a group is listed can be used to ask for it. If the backend did not report
a fully qualified name, then the name leads to the provider and means what the backend reported. -/
structure IsUsable (provider : Provider) (reported listed : String) : Prop where
  qualified : Urn.isQualified .group listed = true
  routed : Urn.isQualified .group reported = false → ∀ registry : Registry,
    provider ∈ registry.providers → provider ∈ registry.forGroup listed
  stripped : Urn.isQualified .group reported = false → Urn.localPart .group listed = reported
  asked : Urn.isQualified .group reported = false →
    Partner.groupSegment listed = Text.Percent.encodeSegment reported

section Naming

variable {provider : Provider} {reported : String}

/-- The name that the organization gives to a local name leads back to both. -/
theorem isUsable_render (external : provider.isExternal = true)
    (wellFormed : Urn.IsWellFormed ⟨provider.organization, reported⟩) :
    IsUsable provider reported (Urn.render .group ⟨provider.organization, reported⟩) := by
  have split : Urn.split? .group (Urn.render .group ⟨provider.organization, reported⟩) =
      some ⟨provider.organization, reported⟩ :=
    Urn.split?_eq_some_iff.mpr ⟨rfl, wellFormed⟩
  have stripped : Urn.localPart .group (Urn.render .group ⟨provider.organization, reported⟩) =
      reported := by
    simp [Urn.localPart, split]
  refine ⟨by simp [Urn.isQualified, split], fun _ registry member => ?_, fun _ => stripped,
    fun _ => by rw [Partner.groupSegment, stripped]⟩
  have takes : provider.takesGroup (Urn.render .group ⟨provider.organization, reported⟩) = true := by
    simp [takesGroup, external, externalKnows, Urn.organization?, split]
  exact List.mem_filter.mpr ⟨member, takes⟩

theorem isUsable_qualify_iff (external : provider.isExternal = true)
    (owned : provider.organization ≠ "") (colonFree : ':' ∉ provider.organization.toList) :
    IsUsable provider reported (Partner.qualify provider.organization reported) ↔
      Urn.isQualified .group reported = true ∨ reported ≠ "" ∧ '\n' ∉ reported.toList := by
  unfold Partner.qualify
  cases own : Urn.isQualified .group reported with
  | true =>
      rw [if_pos rfl]
      have qualified : Urn.isQualified .group reported ≠ false := by simp [own]
      exact ⟨fun _ => .inl rfl, fun _ => ⟨own, fun unqualified => absurd unqualified qualified,
        fun unqualified => absurd unqualified qualified,
        fun unqualified => absurd unqualified qualified⟩⟩
  | false =>
      have qualified_iff :=
        @Urn.isQualified_render_iff .group ⟨provider.organization, reported⟩ owned colonFree
      constructor
      · intro usable
        exact .inr (qualified_iff.mp usable.qualified)
      · rintro (qualified | ⟨filled, oneLine⟩)
        · cases qualified
        · exact isUsable_render external ⟨owned, colonFree, filled, oneLine⟩

end Naming

/-- A partner lists the groups that its backend reports, each under a name that can be used to ask
for it, unless what the backend reports is neither a fully qualified name nor a local one. -/
theorem listed_names_usable_iff {entry : Entry} {config : Config}
    (accepted : Config.ofEntry entry = .ok config) (partner : config.isExternal = true)
    (colonFree : ':' ∉ config.organization.toList) {network : Http.Network}
    {earlier : List Query} {person : String} {groups : List Group}
    (listed : ((ofConfig network config).memberships earlier person).outcome =
      .answered groups) :
    ∃ items, config.reported? network person = some items ∧
      groups = items.map (fun item => item.toGroup config.organization) ∧
      ∀ item ∈ items,
        (IsUsable (ofConfig network config) item.id (item.toGroup config.organization).id ↔
          Urn.isQualified .group item.id = true ∨ item.id ≠ "" ∧ '\n' ∉ item.id.toList) := by
  have value : ((ofConfig network config).memberships earlier person).outcome.value? =
      some groups := by
    rw [listed]
    rfl
  rw [value?_memberships partner, Option.map_eq_some_iff] at value
  obtain ⟨items, reported, same⟩ := value
  refine ⟨items, reported, same.symm, fun item _ => ?_⟩
  have organization := organization_ofConfig network config
  have usable := @isUsable_qualify_iff (ofConfig network config) item.id
    ((isExternal_ofConfig network config).trans partner)
    (organization ▸ Config.organization_ne_empty accepted) (organization ▸ colonFree)
  rwa [organization] at usable

/-- A local name with colons is listed under a name of the partner, a name that is fully qualified
already under itself. -/
theorem listed_names_usable_iff_colons :
    let entry : Entry :=
      ⟨"open_social", "http://partner.test", "user", "secret", 500, "partner.org", "partner", false⟩
    let config : Config :=
      ⟨.openSocial, "http://partner.test", ⟨"user", "secret"⟩, 500, "partner.org", "partner", false⟩
    let body :=
      "\x7b\"entry\": [\x7b\"id\": \"nl:math\"\x7d, [\"urn:collab:group:other.org:a\"]]\x7d"
    let network := Http.Canned.network [⟨"partner", [{ body := Text.Utf8.ofText body }]⟩]
    let provider := ofConfig network config
    let person := "urn:collab:person:partner.org:jane"
    Config.ofEntry entry = .ok config ∧ config.isExternal = true ∧
      ':' ∉ config.organization.toList ∧
      (provider.memberships [] person).outcome.value?.map (List.map Group.id) =
        some ["urn:collab:group:partner.org:nl:math", "urn:collab:group:other.org:a"] ∧
      IsUsable provider "nl:math" "urn:collab:group:partner.org:nl:math" ∧
      IsUsable provider "urn:collab:group:other.org:a" "urn:collab:group:other.org:a" := by
  intro entry config body network provider person
  have accepted : Config.ofEntry entry = .ok config := by decide +kernel
  have colonFree : ':' ∉ config.organization.toList := by decide +kernel
  have ids : (provider.memberships [] person).outcome.value?.map (List.map Group.id) =
      some ["urn:collab:group:partner.org:nl:math", "urn:collab:group:other.org:a"] := by
    decide +kernel
  have reported : (config.reported? network person).map (List.map GroupItem.id) =
      some ["nl:math", "urn:collab:group:other.org:a"] := by
    decide +kernel
  obtain ⟨groups, listed⟩ : ∃ groups,
      (provider.memberships [] person).outcome = .answered groups := by
    cases outcome : (provider.memberships [] person).outcome with
    | answered groups => exact ⟨groups, rfl⟩
    | failed failure => simp [outcome, Outcome.value?] at ids
    | crashed => simp [outcome, Outcome.value?] at ids
  obtain ⟨items, same, -, usable⟩ := listed_names_usable_iff accepted rfl colonFree listed
  rw [same, Option.map_some, Option.some_inj] at reported
  obtain ⟨first, others, rfl, firstId, otherIds⟩ := List.map_eq_cons_iff.mp reported
  obtain ⟨second, _, rfl, secondId, -⟩ := List.map_eq_cons_iff.mp otherIds
  have localName := (usable first List.mem_cons_self).mpr (.inr (firstId ▸ by decide))
  have qualified := (usable second (List.mem_cons_of_mem _ List.mem_cons_self)).mpr
    (.inl (secondId ▸ by decide))
  simp only [GroupItem.toGroup, firstId] at localName
  simp only [GroupItem.toGroup, secondId] at qualified
  have named : Partner.qualify config.organization "nl:math" =
      "urn:collab:group:partner.org:nl:math" := by decide
  have kept : Partner.qualify config.organization "urn:collab:group:other.org:a" =
      "urn:collab:group:other.org:a" := by decide
  exact ⟨accepted, rfl, colonFree, ids, named ▸ localName, kept ▸ qualified⟩

/-- Both kinds of partners list groups under names that nobody can ask for: what is behind the
organization is missing or breaks the line. -/
theorem listed_names_unusable :
    let entry (kind : String) : Entry :=
      ⟨kind, "http://partner.test", "user", "secret", 500, "partner.org", "partner", false⟩
    let body := "[\x7b\"id\": \"\"\x7d, \x7b\"id\": \"a\\nb\"\x7d]"
    let network := Http.Canned.network [⟨"partner", [{ body := Text.Utf8.ofText body }]⟩]
    let ids (kind : String) := (Config.ofEntry (entry kind)).toOption.bind fun config =>
      ((ofConfig network config).memberships [] "jane").outcome.value?.map (List.map Group.id)
    let listed := ["urn:collab:group:partner.org:", "urn:collab:group:partner.org:a\nb"]
    ids "voot2" = some listed ∧ ids "open_social" = some listed ∧
      ∀ id ∈ listed, Urn.isQualified .group id = false ∧
        externalKnows "partner.org" id = false ∧ Urn.localPart .group id = id := by
  decide +kernel

end GroupFederation.Provider
