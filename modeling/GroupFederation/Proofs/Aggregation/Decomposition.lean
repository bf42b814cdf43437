import GroupFederation.Proofs.Aggregation.ConfigurationOrder
import Mathlib.Data.List.Forall2

/-!
# Own groups and groups of partners

A person's groups are asked of the authoritative provider and of the external partners of the
person's organization; the groups at external partners are asked of the latter alone. The two
questions may be put at different times, and each answer is merged by itself. As long as the
partners answer alike, the answers fit together: the person's groups are the list of the
authoritative provider, followed by what the partners have beside it.
-/

namespace GroupFederation.Aggregation

/-- Two states of a provider in which it has the same list for a person, if it is an external one
that takes the person's organization. -/
structure AnswersAlike (person organization : String) (former latter : Partner) : Prop where
  provider_eq : latter.provider = former.provider
  answer_eq : former.provider.takesMemberships organization = true →
    former.provider.isExternal = true →
      (Listing.externalMemberships person organization).answer? latter =
        (Listing.externalMemberships person organization).answer? former

namespace Engine

variable {engine later : Engine} {providers : List Provider} {person organization : String}

/-- The authoritative provider. -/
def home? (engine : Engine) : Option Partner :=
  engine.partners.find? fun partner => !partner.provider.isExternal

/-- The list of the authoritative provider without later records of a group, and no groups if that
list does not come in time. -/
def ownGroups (engine : Engine) (person organization : String) : List Group :=
  firstRecords ((engine.home?.bind (Listing.memberships person organization).answer?).getD [])

/-- Partners that answer alike have the same lists of groups at external partners. -/
theorem answers_eq_of_alike
    (alike : List.Forall₂ (AnswersAlike person organization) engine.partners later.partners) :
    later.answers (.externalMemberships person organization) =
      engine.answers (.externalMemberships person organization) := by
  unfold answers eligible
  generalize engine.partners = formers at alike
  generalize later.partners = latters at alike
  induction alike with
  | nil => rfl
  | @cons former latter _ _ same _ inductionHypothesis =>
      rw [List.filter_cons, List.filter_cons, same.provider_eq]
      by_cases isAsked : (Listing.externalMemberships person organization).isAsked former.provider
      · have both : former.provider.takesMemberships organization = true ∧
            former.provider.isExternal = true := by
          simpa [Listing.isAsked] using isAsked
        rw [if_pos isAsked, if_pos isAsked, List.filterMap_cons, List.filterMap_cons,
          same.answer_eq both.1 both.2, inductionHypothesis]
      · rw [if_neg isAsked, if_neg isAsked]
        exact inductionHypothesis

/-- The lists at external partners are what the question for all groups of the person brings from
them. -/
theorem answers_externalMemberships (engine : Engine) :
    engine.answers (.externalMemberships person organization) =
      engine.externalAnswers (.memberships person organization) := by
  unfold answers externalAnswers eligible
  rw [List.filter_filter]
  congr 1
  apply List.filter_congr
  intro partner _
  exact Bool.and_comm ..

/-- Of the providers that are not external, of which there is at most one, the authoritative one has
the only list. -/
theorem authoritativeAnswers_memberships (single : engine.registry.authoritative.length ≤ 1) :
    engine.authoritativeAnswers (.memberships person organization) =
      (engine.home?.bind (Listing.memberships person organization).answer?).toList := by
  have few : (engine.partners.filter fun partner => !partner.provider.isExternal).length ≤ 1 := by
    simpa [Registry.authoritative, registry, List.filter_map, Function.comp_def] using single
  have allAsked : (engine.eligible (Listing.memberships person organization).isAsked).filter
      (fun partner => !partner.provider.isExternal) =
        engine.partners.filter fun partner => !partner.provider.isExternal := by
    rw [eligible, List.filter_filter]
    apply List.filter_congr
    intro partner _
    cases internal : partner.provider.isExternal <;>
      simp [Listing.isAsked, Provider.takesMemberships, internal]
  rw [authoritativeAnswers, allAsked, home?, ← List.head?_filter]
  cases kept : engine.partners.filter fun partner => !partner.provider.isExternal with
  | nil => rfl
  | cons home others =>
      rw [kept, List.length_cons] at few
      obtain rfl : others = [] := List.length_eq_zero_iff.mp (by omega)
      cases answer : (Listing.memberships person organization).answer? home <;> simp [answer]

/-- At most one provider of the registry is not external. Then the groups of a person are the list of
the authoritative provider without later records of a group, or nothing where that list does not
come in time, followed by the groups that the question for groups at external partners brings and
that are not in that list, in their order. This holds as long as the external partners of the
person's organization answer alike to both questions, whenever each of them is put, and so no group
at an external partner is missing among the groups of the person. -/
theorem groups_decompose (built : engine.registry = .ofList providers)
    (single : (providers.filter fun provider => !provider.isExternal).length ≤ 1)
    (alike : List.Forall₂ (AnswersAlike person organization) engine.partners later.partners) :
    let own := engine.ownGroups person organization
    let groups := (engine.myGroups person organization).value
    let external := (later.myExternalGroups person organization).value
    (groups = own ++ external.filter fun group => !(own.map Group.id).contains group.id) ∧
      ∀ id ∈ external.map Group.id, id ∈ groups.map Group.id := by
  intro own groups external
  have alone : engine.registry.authoritative.length ≤ 1 := by
    rw [built, Registry.authoritative_ofList]
    exact single
  have externalSame : external =
      firstRecords (engine.externalAnswers (.memberships person organization)).flatten := by
    rw [← answers_externalMemberships, ← answers_eq_of_alike alike]
    exact later.list_value (.externalMemberships person organization)
  have decomposed : groups =
      own ++ external.filter fun group => !(own.map Group.id).contains group.id := by
    have authoritative : (engine.authoritativeAnswers (.memberships person organization)).flatten =
        (engine.home?.bind (Listing.memberships person organization).answer?).getD [] := by
      rw [authoritativeAnswers_memberships alone]
      cases engine.home?.bind (Listing.memberships person organization).answer? <;> simp
    calc groups
        = firstRecords (engine.answers (.memberships person organization)).flatten :=
          engine.list_value (.memberships person organization)
      _ = own ++ external.filter fun group => !(own.map Group.id).contains group.id := by
          rw [answers_eq_append built, List.flatten_append, firstRecords_append, authoritative,
            ← externalSame]
          congr 1
          apply List.filter_congr
          intro group _
          simp only [own, ownGroups, List.contains_eq_mem, mem_ids_firstRecords]
  constructor
  · exact decomposed
  · intro id member
    obtain ⟨group, listed, rfl⟩ := List.mem_map.mp member
    rw [decomposed, List.map_append, List.mem_append]
    by_cases known : group.id ∈ own.map Group.id
    · exact .inl known
    · right
      apply List.mem_map_of_mem
      exact List.mem_filter.mpr ⟨listed, by simpa using known⟩

/-- Two partners of one organization report a group of the authoritative registry beside their own;
the question for groups at external partners is put after the other one. -/
theorem groups_decompose_shared_group :
    let group (name : String) (role : Role) : Group :=
      ⟨"urn:collab:group:example.org:" ++ name, name, none, "example.org", ⟨role⟩⟩
    let partner (name : String) (groups : List Group) :=
      Provider.Fake.scripted ⟨name, "example.org", true, 500, groups, none⟩ 0 .answer
    let providers := [partner "north" [group "lab" .member, group "staff" .member],
      Provider.Fake.scripted
        ⟨"home", "example.org", false, 500, [group "staff" .admin], none⟩ 20 .answer,
      partner "south" [group "lab" .admin, group "choir" .member]]
    let engine := ofRegistry (.ofList providers)
    let later := (engine.myGroups "urn:collab:person:example.org:jane" "example.org").engine
    engine.registry = .ofList providers ∧
      (providers.filter fun provider => !provider.isExternal).length ≤ 1 ∧
      List.Forall₂ (AnswersAlike "urn:collab:person:example.org:jane" "example.org")
        engine.partners later.partners ∧
      (later.myExternalGroups "urn:collab:person:example.org:jane" "example.org").value =
        [group "lab" .member, group "staff" .member, group "choir" .member] ∧
      (engine.myGroups "urn:collab:person:example.org:jane" "example.org").value =
        [group "staff" .admin, group "lab" .member, group "choir" .member] := by
  intro group partner providers engine later
  have built : engine.registry = .ofList providers := rfl
  have single : (providers.filter fun provider => !provider.isExternal).length ≤ 1 := by
    decide
  have alike : List.Forall₂ (AnswersAlike "urn:collab:person:example.org:jane" "example.org")
      engine.partners later.partners :=
    .cons ⟨rfl, fun _ _ => rfl⟩ (.cons ⟨rfl, fun _ _ => rfl⟩ (.cons ⟨rfl, fun _ _ => rfl⟩ .nil))
  have external :
      (later.myExternalGroups "urn:collab:person:example.org:jane" "example.org").value =
        [group "lab" .member, group "staff" .member, group "choir" .member] :=
    (later.list_value (.externalMemberships _ _)).trans rfl
  have decomposed := (groups_decompose built single alike).1
  rw [external] at decomposed
  exact ⟨built, single, alike, external, decomposed.trans (by decide +kernel)⟩

end Engine

end GroupFederation.Aggregation
