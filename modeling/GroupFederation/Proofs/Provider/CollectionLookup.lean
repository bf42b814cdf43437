import GroupFederation.Http.Canned
import GroupFederation.Proofs.Provider.Lookup

/-!
# A group of a person at a partner with collections

Such a partner cannot be asked for one group, so that the group is looked for in the person's
collection. What is compared there are local names, and the partner may report groups of other
organizations under names that are fully qualified already. So the first group with the local name
need not be the one that was asked for: if it is a namesake of another organization, it is given as
the answer, whether the person has the group that was asked for or not.
-/

namespace GroupFederation.Provider.OpenSocial

/-- The first group with the local name of another one has a different identifier. -/
structure IsFirstNamesake (group : String) (groups : List Group) (namesake : Group) : Prop where
  sameLocal : Urn.localPart .group namesake.id = Urn.localPart .group group
  differs : namesake.id ≠ group
  first : ∃ front back, groups = front ++ namesake :: back ∧
    ∀ listed ∈ front, Urn.localPart .group listed.id ≠ Urn.localPart .group group

section Searching

variable {group : String} {groups : List Group}

/-- A namesake that comes first is what a search for the local name finds. -/
theorem isFirstNamesake_iff {namesake : Group} :
    IsFirstNamesake group groups namesake ↔
      (groups.find? fun listed => Urn.localPart .group listed.id == Urn.localPart .group group) =
        some namesake ∧ namesake.id ≠ group := by
  rw [List.find?_eq_some_iff_append]
  constructor
  · rintro ⟨sameLocal, differs, front, back, split, others⟩
    exact ⟨⟨by simpa using sameLocal, front, back, split, by simpa using others⟩, differs⟩
  · rintro ⟨⟨sameLocal, front, back, split, others⟩, differs⟩
    exact ⟨by simpa using sameLocal, differs, front, back, split, by simpa using others⟩

/-- A search for the local name finds what a search for the name does, unless a namesake comes
first. -/
theorem find?_localPart_eq_iff :
    (groups.find? fun listed => Urn.localPart .group listed.id == Urn.localPart .group group) =
        groups.find? (fun listed => listed.id == group) ↔
      ¬∃ namesake, IsFirstNamesake group groups namesake := by
  simp only [isFirstNamesake_iff, not_exists, not_and, not_not]
  constructor
  · intro agree namesake found
    rw [agree] at found
    simpa using List.find?_some found
  · intro same
    cases found : groups.find? fun listed =>
        Urn.localPart .group listed.id == Urn.localPart .group group with
    | none =>
        have absent := List.find?_eq_none.mp found
        symm
        rw [List.find?_eq_none]
        intro listed member equal
        exact absent listed member (by rw [beq_iff_eq.mp equal]; exact beq_self_eq_true _)
    | some first =>
        obtain ⟨-, front, back, split, others⟩ := List.find?_eq_some_iff_append.mp found
        symm
        refine List.find?_eq_some_iff_append.mpr
          ⟨by simpa using same first found, front, back, split, fun listed member => ?_⟩
        have other : Urn.localPart .group listed.id ≠ Urn.localPart .group group := by
          simpa using others listed member
        simpa using fun equal : listed.id = group => other (by rw [equal])

end Searching

/-- One group is looked for in the list that would be given for the same response. -/
theorem outcome_membership {network other : Http.Network} {config : Config} {person : String}
    (same : (config.get network (groupsResource person)).result =
      (config.get other (groupsResource person)).result) (group : String)
    (earlier former : List Query) :
    ((provider network config).membership earlier person group).outcome =
      ((provider other config).memberships former person).outcome.map fun groups =>
        groups.find? fun listed =>
          Urn.localPart .group listed.id == Urn.localPart .group group :=
  (config.outcome_replyTo_map _ _ _).trans
    (congrArg _ (Config.outcome_replyTo_congr same (readGroups config.organization)))

/-- The question for one group fails as the one for all groups does for the same response. If it
does not fail, its answer is the first listed group with the identifier that was asked for, or
nothing if there is none, unless a namesake comes first; then the answer is that namesake. -/
theorem collection_lookup_agrees_iff {config : Config} (collections : config.kind = .openSocial)
    {network other : Http.Network} {person : String}
    (same : (config.get network (groupsResource person)).result =
      (config.get other (groupsResource person)).result) (group : String)
    (earlier former : List Query) :
    let lookup := ((ofConfig network config).membership earlier person group).outcome
    let listing := ((ofConfig other config).memberships former person).outcome
    (∀ failure, lookup = .failed failure ↔ listing = .failed failure) ∧
    ∀ groups, listing = .answered groups →
      (lookup = .answered (groups.find? fun listed => listed.id == group) ↔
        ¬∃ namesake, IsFirstNamesake group groups namesake) ∧
      ∀ namesake, IsFirstNamesake group groups namesake → lookup = .answered (some namesake) := by
  intro lookup listing
  have lookup_eq : lookup = listing.map fun groups => groups.find? fun listed =>
      Urn.localPart .group listed.id == Urn.localPart .group group := by
    simp only [lookup, listing, ofConfig, collections]
    exact outcome_membership same group earlier former
  refine ⟨fun failure => ?_, fun groups listed => ?_⟩
  · rw [lookup_eq]
    cases listing <;> simp [Outcome.map]
  · rw [listed] at lookup_eq
    rw [lookup_eq, ← find?_localPart_eq_iff]
    refine ⟨⟨Outcome.answered.inj, congrArg Outcome.answered⟩, fun namesake first => ?_⟩
    exact congrArg Outcome.answered (isFirstNamesake_iff.mp first).1

/-- The group is found before its namesake. -/
theorem collection_lookup_agrees_iff_before_namesake :
    let config : Config :=
      ⟨.openSocial, "http://p.test", ⟨"user", "secret"⟩, 500, "partner.org", "partner", false⟩
    let body := "[\x7b\"id\":\"lab\"\x7d,\x7b\"id\":\"urn:collab:group:other.org:lab\"\x7d]"
    let network := Http.Canned.network [⟨"p", [{ body := Text.Utf8.ofText body }]⟩]
    let provider := ofConfig network config
    let group := "urn:collab:group:partner.org:lab"
    let found : Group := ⟨group, "lab", none, "partner.org", ⟨.member⟩⟩
    let namesake : Group :=
      ⟨"urn:collab:group:other.org:lab", "urn:collab:group:other.org:lab", none, "partner.org",
        ⟨.member⟩⟩
    config.kind = .openSocial ∧
      (provider.memberships [] "jane").outcome = .answered [found, namesake] ∧
      Urn.localPart .group namesake.id = Urn.localPart .group group ∧
      (¬∃ other, IsFirstNamesake group [found, namesake] other) ∧
      (provider.membership [] "jane" group).outcome = .answered (some found) := by
  intro config body network provider group found namesake
  have listing : (provider.memberships [] "jane").outcome = .answered [found, namesake] := by
    decide +kernel
  have sameLocal : Urn.localPart .group namesake.id = Urn.localPart .group group := by
    decide +kernel
  have first : ¬∃ other, IsFirstNamesake group [found, namesake] other := by
    rintro ⟨other, first⟩
    obtain ⟨picked, differs⟩ := isFirstNamesake_iff.mp first
    obtain rfl : found = other := by simpa [found] using picked
    exact differs rfl
  have agree := (collection_lookup_agrees_iff rfl rfl group [] []).2 _ listing
  refine ⟨rfl, listing, sameLocal, first, (agree.1.mpr first).trans ?_⟩
  simp [found]

/-- A person is found to be in a group of which only a namesake at another organization is listed,
and a namesake that is listed first is given for a group that the person is in. -/
theorem collection_lookup_finds_namesake :
    let entry : Entry :=
      ⟨"open_social", "http://p.test", "user", "secret", 500, "partner.org", "partner", false⟩
    let config : Config :=
      ⟨.openSocial, "http://p.test", ⟨"user", "secret"⟩, 500, "partner.org", "partner", false⟩
    let group := "urn:collab:group:partner.org:lab"
    let asked (body : String) :=
      let network := Http.Canned.network [⟨"p", [{ body := Text.Utf8.ofText body }]⟩]
      let provider := ofConfig network config
      ((provider.memberships [] "jane").outcome.map fun groups => groups.map Group.id,
        (provider.membership [] "jane" group).outcome.map fun found => found.map Group.id)
    Config.ofEntry entry = .ok config ∧ Urn.isQualified .group group = true ∧
      asked "[\x7b\"id\":\"urn:collab:group:other.org:lab\"\x7d]" =
        (.answered ["urn:collab:group:other.org:lab"],
          .answered (some "urn:collab:group:other.org:lab")) ∧
      asked "[\x7b\"id\":\"urn:collab:group:other.org:lab\"\x7d,\x7b\"id\":\"lab\"\x7d]" =
        (.answered ["urn:collab:group:other.org:lab", "urn:collab:group:partner.org:lab"],
          .answered (some "urn:collab:group:other.org:lab")) := by
  decide +kernel

end GroupFederation.Provider.OpenSocial
