import GroupFederation.Proofs.Aggregation.Listing
import GroupFederation.Proofs.Aggregation.Merge
import GroupFederation.Provider.Fake

/-!
# Fan-out and merge

Whoever answers first, and whoever fails, runs out of time or breaks down: the answer to a question
for a list of groups is the concatenation of the lists that came in time, in the order of the
registry, without the records of groups that were there before. From this follows what callers rely
on: every group is there once, no contribution is lost, the authoritative provider has the first
word, and a provider that fails might as well not be there.
-/

namespace GroupFederation.Aggregation

namespace Engine

/-- The lists that come in time from providers that are not external. -/
def authoritativeAnswers (engine : Engine) (listing : Listing) : List (List Group) :=
  ((engine.eligible listing.isAsked).filter fun partner =>
    !partner.provider.isExternal).filterMap listing.answer?

/-- The lists that come in time from external providers. -/
def externalAnswers (engine : Engine) (listing : Listing) : List (List Group) :=
  ((engine.eligible listing.isAsked).filter fun partner =>
    partner.provider.isExternal).filterMap listing.answer?

/-- The partners of a registry are those that are not external, followed by the external ones. -/
theorem partners_eq_append {engine : Engine} {providers : List Provider}
    (built : engine.registry = .ofList providers) :
    engine.partners =
      (engine.partners.filter fun partner => !partner.provider.isExternal) ++
        engine.partners.filter fun partner => partner.provider.isExternal := by
  have same := congrArg Registry.providers built
  obtain ⟨internal, external, split, internalSame, externalSame⟩ :=
    List.map_eq_append_iff.mp same
  have internalOnly : ∀ partner ∈ internal, partner.provider.isExternal = false := by
    intro partner member
    have listed : partner.provider ∈ internal.map Partner.provider := List.mem_map_of_mem member
    rw [internalSame] at listed
    simpa using (List.mem_filter.mp listed).2
  have externalOnly : ∀ partner ∈ external, partner.provider.isExternal = true := by
    intro partner member
    have listed : partner.provider ∈ external.map Partner.provider := List.mem_map_of_mem member
    rw [externalSame] at listed
    exact (List.mem_filter.mp listed).2
  rw [split, List.filter_append, List.filter_append,
    List.filter_eq_self.mpr (by simpa using internalOnly),
    List.filter_eq_nil_iff.mpr (by simpa using externalOnly),
    List.filter_eq_nil_iff.mpr (by simpa using internalOnly),
    List.filter_eq_self.mpr externalOnly, List.append_nil, List.nil_append]

/-- The authoritative lists come first. -/
theorem answers_eq_append {engine : Engine} {providers : List Provider}
    (built : engine.registry = .ofList providers) (listing : Listing) :
    engine.answers listing =
      engine.authoritativeAnswers listing ++ engine.externalAnswers listing := by
  rw [authoritativeAnswers, externalAnswers, eligible,
    List.filter_comm (fun partner : Partner => !partner.provider.isExternal),
    List.filter_comm (fun partner : Partner => partner.provider.isExternal), ← List.filterMap_append,
    ← List.filter_append, ← partners_eq_append built]
  rfl

/-- In whatever order the tasks end, merging what they bring gives the first records of the lists
in the order of the registry. -/
theorem merge_collect_of_perm (engine : Engine) (listing : Listing)
    {ended : List (Arrival (List Group))}
    (perm : ended.Perm (engine.arrivals listing.isAsked listing.reply)) :
    merge (collect ended) = firstRecords (engine.answers listing).flatten := by
  rw [merge_eq_firstRecords, engine.collect_of_perm_arrivals listing.isAsked listing.reply perm]
  rfl

/-- The order that the clock gives is one of those orders. -/
theorem list_value (engine : Engine) (listing : Listing) :
    (engine.list listing).value = firstRecords (engine.answers listing).flatten := by
  rw [list_eq_gather]
  exact engine.merge_collect_of_perm listing (List.mergeSort_perm _ _)

/-- A partner without an answer contributes nothing. -/
theorem answers_without {engine : Engine} {listing : Listing} {before after : List Partner}
    {failing : Partner} (split : engine.partners = before ++ failing :: after)
    (fails : listing.answer? failing = none) :
    { engine with partners := before ++ after }.answers listing = engine.answers listing := by
  unfold answers eligible
  rw [split, List.filter_append, List.filter_append, List.filter_cons, List.filterMap_append,
    List.filterMap_append]
  split <;> simp [fails]

/-- The answer to a question for a list of groups does not depend on the order in which the tasks
end. It is the concatenation of the lists that came in time, in registry order, without the later
records of groups that were there before: no group is there twice, none that was reported is
missing, the first record of the providers that are not external stands, and leaving out a provider
that fails changes nothing. -/
theorem list_value_of_any_order {engine : Engine} {providers : List Provider}
    (built : engine.registry = .ofList providers) (listing : Listing) :
    let groups := (engine.list listing).value
    (∀ ended : List (Arrival (List Group)),
      ended.Perm (engine.arrivals listing.isAsked listing.reply) →
        merge (collect ended) = groups) ∧
    groups = firstRecords (engine.answers listing).flatten ∧
    (groups.map Group.id).Nodup ∧
    (∀ id, id ∈ groups.map Group.id ↔
      ∃ reported ∈ engine.answers listing, id ∈ reported.map Group.id) ∧
    (∀ id record, ((engine.authoritativeAnswers listing).flatten.find? fun group =>
      group.id == id) = some record → record ∈ groups) ∧
    ∀ before failing after, engine.partners = before ++ failing :: after →
      listing.answer? failing = none →
        ({ engine with partners := before ++ after }.list listing).value = groups := by
  intro groups
  have same : groups = firstRecords (engine.answers listing).flatten := engine.list_value listing
  refine ⟨?_, same, ?_, ?_, ?_, ?_⟩
  · intro ended perm
    rw [same]
    exact engine.merge_collect_of_perm listing perm
  · rw [same]
    exact nodup_firstRecords _
  · intro id
    rw [same, mem_ids_firstRecords]
    simp only [List.map_flatten, List.mem_flatten, List.mem_map, exists_exists_and_eq_and]
  · intro id record found
    rw [same, answers_eq_append built listing, List.flatten_append]
    apply mem_firstRecords_of_find?
    rw [List.find?_append, found]
    rfl
  · intro before failing after split fails
    rw [list_value, answers_without split fails, same]

/-- A partner that is configured first and answers at once reports a group of the authoritative
registry, which takes its time; another partner fails. The record of the registry stands. -/
theorem list_value_of_any_order_shared_group :
    let shared (role : Role) : Group :=
      ⟨"urn:collab:group:example.org:staff", "Staff", none, "example.org", ⟨role⟩⟩
    let own : Group := ⟨"urn:collab:group:partner.org:lab", "Lab", none, "partner.org", ⟨.member⟩⟩
    let partner := Provider.Fake.scripted
      ⟨"partner", "partner.org", true, 500, [own, shared .member], none⟩ 0 .answer
    let broken := Provider.Fake.scripted ⟨"broken", "partner.org", true, 500, [own], none⟩ 10 .crash
    let home := Provider.Fake.scripted
      ⟨"home", "example.org", false, 500, [shared .admin], none⟩ 500 .answer
    let engine := Engine.ofRegistry (.ofList [partner, broken, home])
    let listing := Listing.memberships "urn:collab:person:partner.org:jane" "partner.org"
    engine.registry = .ofList [partner, broken, home] ∧
      ∀ ended : List (Arrival (List Group)),
        ended.Perm (engine.arrivals listing.isAsked listing.reply) →
          merge (collect ended) = [shared .admin, own] := by
  intro shared own partner broken home engine listing
  have built : engine.registry = .ofList [partner, broken, home] := rfl
  obtain ⟨anyOrder, same, -⟩ := list_value_of_any_order built listing
  refine ⟨built, fun ended perm => ?_⟩
  rw [anyOrder ended perm, same]
  rfl

end Engine

end GroupFederation.Aggregation
