import GroupFederation.Proofs.Provider.RegistryGroups
import Mathlib.Data.List.Find

/-!
# A group of the registry beside the list of groups

Asked about one group, the registry is called as for all groups of the person, and what comes back
is read alike. Of the groups in the response the one with the local name that was asked for is
picked. A group is of the organization of the registry and has the name of its record behind that,
so that its local name says which one it is, unless the record's name breaks the line: then the
identifier is no name at all, and it is nobody's local name either. So the group that is picked is
the only one in the list with the identifier that was asked for.
-/

namespace GroupFederation.Provider.Grouper

open Soap (GroupRecord Results)

/-! ## Responses -/

/-- What the registry's response to a call says, or why it says nothing. -/
def said (config : Config) (response : Except Http.Trouble Http.Answer) : Except Failure Results :=
  match response with
  | .error trouble => .error (.ofTrouble config.timeout trouble)
  | .ok answer => readResults answer

/-- The list is made of what the response says. -/
theorem outcome_memberships (network : Http.Network) (config : Config) (earlier : List Query)
    (person : String) :
    ((provider network config).memberships earlier person).outcome =
      .ofExcept ((said config (askMemberships network config (some person) none).result).map
        (groupsOf config.organization)) := by
  change (config.replyTo (askMemberships network config (some person) none)
    (readGroups config.organization)).outcome = _
  unfold Config.replyTo said
  cases (askMemberships network config (some person) none).result <;> rfl

/-- One group is picked from the list that would be given for the same response. -/
theorem outcome_membership {network other : Http.Network} {config : Config} {person group : String}
    (same : (askMemberships network config (some person)
      (some (Urn.localPart .group group))).result =
        (askMemberships other config (some person) none).result) (earlier former : List Query) :
    ((provider network config).membership earlier person group).outcome =
      ((provider other config).memberships former person).outcome.map fun groups =>
        groups.find? fun listed =>
          Urn.localPart .group listed.id == Urn.localPart .group group :=
  (config.outcome_replyTo_map _ _ _).trans
    (congrArg _ (Config.outcome_replyTo_congr same (readGroups config.organization)))

/-! ## The group that is picked -/

section Picking

variable {organization group : String} {results : Results}

/-- Among the groups of an organization the local name tells them apart. -/
theorem localPart_eq_iff {listed : Group} (member : listed ∈ groupsOf organization results)
    (owner : Urn.organization? .group group = some organization) :
    Urn.localPart .group listed.id = Urn.localPart .group group ↔ listed.id = group := by
  obtain ⟨name, filled, same⟩ := exists_name_of_mem_groupsOf member
  rw [same]
  exact ⟨Urn.render_eq_of_localPart owner filled, fun equal => by rw [equal]⟩

theorem find?_localPart (owner : Urn.organization? .group group = some organization) :
    ((groupsOf organization results).find? fun listed =>
        Urn.localPart .group listed.id == Urn.localPart .group group) =
      (groupsOf organization results).find? fun listed => listed.id == group := by
  apply List.find?_congr
  intro listed member
  rw [Bool.eq_iff_iff, beq_iff_eq, beq_iff_eq]
  exact localPart_eq_iff member owner

/-- No two groups of the registry have one identifier. -/
theorem nodup_ids : ((groupsOf organization results).map Group.id).Nodup := by
  have ids : (groupsOf organization results).map Group.id =
      ((firstOfEach GroupRecord.name [] results.groups).map GroupRecord.name).map
        fun name => Urn.leader .group organization ++ name := by
    simp only [groupsOf, List.map_map]
    rfl
  rw [ids]
  exact nodup_firstOfEach.map fun left right equal => (String.append_right_inj _).mp equal

/-- A name is listed if a record has it. -/
theorem mem_groupsOf_id_iff {name : String} (filled : name ≠ "") :
    (∃ listed ∈ groupsOf organization results,
        listed.id = Urn.render .group ⟨organization, name⟩) ↔
      ∃ record ∈ results.groups, record.name = name := by
  have kept : name ∈ (firstOfEach GroupRecord.name [] results.groups).map GroupRecord.name ↔
      name ∈ results.groups.map GroupRecord.name := by
    simp [map_firstOfEach, filled]
  rw [List.mem_map, List.mem_map] at kept
  rw [← kept]
  constructor
  · rintro ⟨listed, member, same⟩
    obtain ⟨record, taken, rfl⟩ := List.mem_map.mp member
    exact ⟨record, taken, (String.append_right_inj _).mp same⟩
  · rintro ⟨record, taken, rfl⟩
    exact ⟨_, List.mem_map_of_mem taken, rfl⟩

/-- A listed group is described by the name that its identifier ends in. -/
theorem describes_of_mem {name : String} {listed : Group}
    (member : listed ∈ groupsOf organization results)
    (same : listed.id = Urn.render .group ⟨organization, name⟩) :
    Describes organization results name listed := by
  obtain ⟨record, taken, rfl⟩ := List.mem_map.mp member
  obtain rfl : record.name = name := (String.append_right_inj _).mp same
  exact describes_toGroup taken

end Picking

/-- The first element with a key is all that have it, if no key comes twice. -/
theorem toList_find?_of_nodup {α : Type} {key : α → String} {elements : List α}
    (nodup : (elements.map key).Nodup) (text : String) :
    (elements.find? fun element => key element == text).toList =
      elements.filter fun element => key element == text := by
  induction elements with
  | nil => rfl
  | cons first elements inductionHypothesis =>
      obtain ⟨fresh, others⟩ := List.nodup_cons.mp nodup
      by_cases same : key first = text
      · have noOther : elements.filter (fun element => key element == text) = [] := by
          rw [List.filter_eq_nil_iff]
          intro element member equal
          exact fresh (List.mem_map.mpr ⟨element, member, (beq_iff_eq.mp equal).trans same.symm⟩)
        simp [same, noOther]
      · simpa [same] using inductionHypothesis others

/-- The registry answers the question for one group out of what it would list for the same response.
If the call fails, both questions fail alike. Otherwise a group is found exactly if some group
record has the local name that was asked for; the group that is found is the only one in the list
with the identifier that was asked for, and it is described as the list describes that name, in the
highest role. -/
theorem registry_lookup_agrees_with_listing {config : Config} (registry : config.kind = .grouper)
    {network other : Http.Network} {person group : String}
    (qualified : Urn.isQualified .group group = true)
    (routed : (ofConfig network config).takesGroup group = true)
    (same : (askMemberships network config (some person)
      (some (Urn.localPart .group group))).result =
        (askMemberships other config (some person) none).result) (earlier former : List Query) :
    let response := (askMemberships other config (some person) none).result
    let lookup := ((ofConfig network config).membership earlier person group).outcome
    let listing := ((ofConfig other config).memberships former person).outcome
    (∀ failure, said config response = .error failure →
      lookup = .failed failure ∧ listing = .failed failure) ∧
    ∀ results, said config response = .ok results →
      ∃ found groups, lookup = .answered found ∧ listing = .answered groups ∧
        (found.isSome = true ↔
          ∃ record ∈ results.groups, record.name = Urn.localPart .group group) ∧
        found.toList = groups.filter (fun listed => listed.id == group) ∧
        ∀ member ∈ found, member.id = group ∧
          Describes config.organization results (Urn.localPart .group group) member := by
  intro response lookup listing
  have owner := organization?_of_takesGroup qualified routed
  rw [organization_ofConfig] at owner
  obtain ⟨urn, split, owned⟩ := Option.map_eq_some_iff.mp owner
  obtain ⟨rendered, wellFormed⟩ := Urn.split?_eq_some_iff.mp split
  have localName : Urn.localPart .group group = urn.localName := by
    simp [Urn.localPart, split]
  have name : group = Urn.render .group ⟨config.organization, Urn.localPart .group group⟩ := by
    rw [localName, ← owned]
    exact rendered
  have filled : Urn.localPart .group group ≠ "" := localName ▸ wellFormed.localName_ne_empty
  have listing_eq : listing =
      .ofExcept ((said config response).map (groupsOf config.organization)) := by
    simp only [listing, ofConfig, registry]
    exact outcome_memberships other config former person
  have lookup_eq : lookup = listing.map fun groups => groups.find? fun listed =>
      Urn.localPart .group listed.id == Urn.localPart .group group := by
    simp only [lookup, listing, ofConfig, registry]
    exact outcome_membership same earlier former
  refine ⟨fun failure refused => ?_, fun results told => ?_⟩
  · rw [lookup_eq, listing_eq, refused]
    exact ⟨rfl, rfl⟩
  · rw [told] at listing_eq
    rw [listing_eq] at lookup_eq
    refine ⟨_, _, lookup_eq.trans (congrArg _ (find?_localPart owner)), listing_eq, ?_,
      toList_find?_of_nodup nodup_ids group, fun member found => ?_⟩
    · have recorded : (∃ listed ∈ groupsOf config.organization results, listed.id =
            Urn.render .group ⟨config.organization, Urn.localPart .group group⟩) ↔
          ∃ record ∈ results.groups, record.name = Urn.localPart .group group :=
        mem_groupsOf_id_iff filled
      rw [List.find?_isSome, ← recorded, ← name]
      simp
    · have same : member.id = group := by simpa using List.find?_some found
      exact ⟨same, describes_of_mem (List.mem_of_find?_eq_some found) (same.trans name)⟩

/-- An answer that is given to every request. -/
theorem result_askMemberships {answer : Http.Answer} (success : answer.isSuccess = true)
    {config : Config} (addressed : (Http.Url.parse? config.url).isSome = true)
    (person group : Option String) :
    (askMemberships (fun _ => .answered 0 answer) config person group).result = .ok answer := by
  obtain ⟨url, parsed⟩ := Option.isSome_iff_exists.mp addressed
  have final (request : Http.Request) : request.redirection answer = .none := by
    simp only [Http.Answer.isSuccess, Bool.and_eq_true, decide_eq_true_eq] at success
    refine if_pos ?_
    rw [Bool.not_eq_true', ← Bool.not_eq_true, List.contains_iff_mem]
    intro moved
    simp only [List.mem_cons, List.not_mem_nil, or_false] at moved
    omega
  simp [askMemberships, Config.call, Config.client, Http.Client.send, Http.Client.follow, parsed,
    final]

/-- A local name with a colon, in a list that another group heads. -/
theorem registry_lookup_agrees_with_listing_colons :
    let entry : Entry :=
      ⟨"grouper", "http://registry.test", "user", "secret", 500, "example.org", "registry", true⟩
    let config : Config :=
      ⟨.grouper, "http://registry.test", ⟨"user", "secret"⟩, 500, "example.org", "registry", true⟩
    let body :=
      "<wsGroups><name>c</name></wsGroups><wsGroups><name>a:b</name></wsGroups><wsMemberships>" ++
      "<groupName>a:b</groupName><listName>admins</listName></wsMemberships>"
    let answer : Http.Answer := ⟨200, .empty, Text.Utf8.ofText body, true⟩
    let network : Http.Network := fun _ => .answered 0 answer
    let registry := ofConfig network config
    let person := "urn:collab:person:example.org:jane"
    let group := "urn:collab:group:example.org:a:b"
    let results : Results :=
      { groups := [{ name := "c" }, { name := "a:b" }]
        memberships := [{ groupName := "a:b", listName := some "admins" }] }
    let found : Group := ⟨group, "a:b", none, "example.org", ⟨.admin⟩⟩
    Config.ofEntry entry = .ok config ∧ Urn.isQualified .group group = true ∧
      registry.takesGroup group = true ∧
      (askMemberships network config (some person)
        (some (Urn.localPart .group group))).result = .ok answer ∧
      (askMemberships network config (some person) none).result = .ok answer ∧
      said config (.ok answer) = .ok results ∧
      (registry.membership [] person group).outcome = .answered (some found) ∧
      ∃ groups, (registry.memberships [] person).outcome = .answered groups ∧
        groups.length = 2 ∧ groups.filter (fun listed => listed.id == group) = [found] ∧
        Describes "example.org" results "a:b" found := by
  intro entry config body answer network registry person group results found
  have accepted : Config.ofEntry entry = .ok config := by decide +kernel
  have qualified : Urn.isQualified .group group = true := by decide +kernel
  have routed : registry.takesGroup group = true := by decide +kernel
  have addressed : (Http.Url.parse? config.url).isSome = true := by decide +kernel
  have heard (group : Option String) :
      (askMemberships network config (some person) group).result = .ok answer :=
    result_askMemberships rfl addressed (some person) group
  have same := (heard (some (Urn.localPart .group group))).trans (heard none).symm
  have told : said config (.ok answer) = .ok results := by decide +kernel
  have localName : Urn.localPart .group group = "a:b" := by decide +kernel
  have lookup : (registry.membership [] person group).outcome = .answered (some found) := by
    refine (outcome_membership same [] []).trans ?_
    rw [outcome_memberships, heard, told]
    decide +kernel
  obtain ⟨picked, groups, answered, listing, -, only, describes⟩ :=
    (registry_lookup_agrees_with_listing rfl qualified routed same [] []).2 results
      ((congrArg (said config) (heard none)).trans told)
  obtain rfl : picked = some found := Outcome.answered.inj (answered.symm.trans lookup)
  have size : groups.length = 2 := by
    have listed := listing.symm.trans (outcome_memberships network config [] person)
    rw [heard, told] at listed
    rw [Outcome.answered.inj listed]
    decide +kernel
  rw [localName] at describes
  exact ⟨accepted, qualified, routed, heard _, heard none, told, lookup, groups, listing, size,
    only.symm, (describes found rfl).2⟩

end GroupFederation.Provider.Grouper
