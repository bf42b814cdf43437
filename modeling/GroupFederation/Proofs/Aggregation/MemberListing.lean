import GroupFederation.Aggregation.Engine
import GroupFederation.Provider.Fake

/-!
# Who lists the members of a group

The members of a group are asked of a single provider: of the first external one that the group is
routed to and that lists members, otherwise of the first authoritative one that lists members. The
second choice does not look at the group. So a group of an organization that has no such external
provider, or a name that belongs nowhere, is asked of the authoritative registry all the same; the
main result says exactly when the choice is one that routing allows.
-/

namespace GroupFederation.Aggregation

namespace Engine

/-- The partners that have been asked something by the time of a later state of the engine. -/
def askedSince (engine later : Engine) : List Partner :=
  ((engine.partners.zip later.partners).filter fun (old, new) => new.asked != old.asked).map
    Prod.fst

/-- The first external partner that the group is routed to and that lists members. -/
def externalLister? (engine : Engine) (group : String) : Option Partner :=
  engine.partners.find? fun partner =>
    partner.provider.isExternal && partner.provider.takesGroup group &&
      partner.provider.listsMembers

/-- The first partner that is not external and lists members. -/
def authoritativeLister? (engine : Engine) : Option Partner :=
  engine.partners.find? fun partner =>
    !partner.provider.isExternal && partner.provider.listsMembers

/-- Nobody has been asked when nothing has changed. -/
theorem filter_zip_self (partners : List Partner) :
    ((partners.zip partners).filter fun (old, new) => new.asked != old.asked) = [] := by
  induction partners with
  | nil => rfl
  | cons partner partners inductionHypothesis => simpa using inductionHypothesis

/-- Asking the partner at a place asks that partner and no other. -/
theorem filter_zip_modify (partners : List Partner) (place : Nat) (query : Query) :
    (((partners.zip (partners.modify place fun partner => partner.ask query)).filter
      fun (old, new) => new.asked != old.asked).map Prod.fst) = partners[place]?.toList := by
  induction partners generalizing place with
  | nil => simp
  | cons partner partners inductionHypothesis =>
      cases place with
      | zero => simp [Partner.ask, filter_zip_self]
      | succ place => simpa using inductionHypothesis place

/-- The place that is chosen is that of the first suitable partner. -/
theorem bind_lister? (engine : Engine) (group : String) :
    ((engine.lister? group).bind fun place => engine.partners[place]?) =
      (engine.externalLister? group).or engine.authoritativeLister? := by
  rw [externalLister?, authoritativeLister?, List.find?_eq_bind_findIdx?_getElem?,
    List.find?_eq_bind_findIdx?_getElem?]
  simp only [lister?]
  cases found : engine.partners.findIdx? fun partner =>
      partner.provider.isExternal && partner.provider.takesGroup group &&
        partner.provider.listsMembers with
  | none => simp
  | some place =>
      have inside := (List.findIdx?_eq_some_iff_findIdx_eq.mp found).1
      simp [List.getElem?_eq_getElem inside]

/-- The only partner that is asked for the members of a group is the chosen one. -/
theorem askedSince_members (engine : Engine) (group : String) :
    engine.askedSince (engine.members group).engine =
      ((engine.externalLister? group).or engine.authoritativeLister?).toList := by
  rw [← bind_lister?]
  unfold members
  cases chosen : engine.lister? group with
  | none => simp [askedSince, filter_zip_self]
  | some place =>
      cases found : engine.partners[place]? with
      | none => simp [askedSince, filter_zip_self, found]
      | some partner => simp [askedSince, filter_zip_modify, found]

/-- The partner that is asked is one that the group is routed to exactly when an external provider
takes the choice, or when the authoritative one that is left knows the group: its name is not
malformed and names no other organization. -/
theorem members_respect_routing_iff (engine : Engine) (group : String) :
    (∀ partner ∈ engine.askedSince (engine.members group).engine,
      partner.provider.takesGroup group = true) ↔
      (∃ partner ∈ engine.partners, partner.provider.isExternal = true ∧
        partner.provider.takesGroup group = true ∧ partner.provider.listsMembers = true) ∨
      ∀ home, engine.authoritativeLister? = some home →
        Urn.isMalformedGroup group = false ∧
          ∀ owner, Urn.organization? .group group = some owner →
            owner = home.provider.organization := by
  rw [askedSince_members]
  cases external : engine.externalLister? group with
  | some partner =>
      have accepted := List.find?_some external
      simp only [Bool.and_eq_true] at accepted
      obtain ⟨⟨isExternal, takes⟩, lists⟩ := accepted
      constructor
      · intro _
        exact .inl ⟨partner, List.mem_of_find?_eq_some external, isExternal, takes, lists⟩
      · intro _ other member
        simp only [Option.some_or, Option.toList_some, List.mem_singleton] at member
        rw [member]
        exact takes
  | none =>
      have nobody : ¬∃ partner ∈ engine.partners, partner.provider.isExternal = true ∧
          partner.provider.takesGroup group = true ∧ partner.provider.listsMembers = true := by
        rintro ⟨partner, member, isExternal, takes, lists⟩
        have refused := List.find?_eq_none.mp external partner member
        simp [isExternal, takes, lists] at refused
      simp only [nobody, false_or, Option.none_or, Option.mem_toList]
      refine forall_congr' fun home => imp_congr_right fun chosen => ?_
      have internal := List.find?_some chosen
      simp only [Bool.and_eq_true, Bool.not_eq_true'] at internal
      rw [Provider.takesGroup, internal.1, ← Provider.authoritativeKnows_iff]
      simp

/-- The members of a foreign group, and of a name that belongs nowhere, are asked of the
authoritative registry, to which neither is routed. -/
theorem members_of_foreign_group_asked :
    let home := Provider.Fake.scripted ⟨"home", "example.org", false, 500, [],
      some [⟨"urn:collab:person:example.org:jane", "Jane"⟩]⟩ 0 .answer
    let engine := Engine.ofRegistry (.ofList [home])
    let asked (group : String) :=
      (engine.askedSince (engine.members group).engine).map fun partner => partner.provider.name
    asked "urn:collab:group:partner.org:staff" = ["home"] ∧
      home.takesGroup "urn:collab:group:partner.org:staff" = false ∧
      asked "urn:partner.org:staff" = ["home"] ∧
      home.takesGroup "urn:partner.org:staff" = false := by
  intro home engine asked
  have chosen (group : String) : asked group = ["home"] := by
    simp only [asked, askedSince_members]
    rfl
  refine ⟨chosen _, ?_, chosen _, ?_⟩ <;> decide +kernel

end Engine

end GroupFederation.Aggregation
