import GroupFederation.Proofs.Aggregation.FirstAnswer
import GroupFederation.Proofs.Aggregation.MemberListing

/-!
# What the engine is asked, and whom it asks

The engine is asked for lists of groups, for one group, and for the members of a group, one question
after the other. Each of them is for certain providers of the registry; these are asked once, and
nobody else is. So what a provider has been asked in the end are the questions that were for it, in
their order.
-/

namespace GroupFederation.Aggregation

/-- What the engine is asked to do. -/
inductive Operation where
  | list (listing : Listing)
  | lookUp (person group : String)
  | members (group : String)
  deriving DecidableEq, Repr

namespace Operation

/-- What each provider that the operation is for is asked. -/
def query : Operation → Query
  | .list listing => listing.query
  | .lookUp person group => .membership person group
  | .members group => .members group

/-- The providers that the operation is for. -/
def providers (registry : Registry) : Operation → List Provider
  | .list (.memberships _ organization) => registry.forMemberships organization
  | .list (.externalMemberships _ organization) =>
      (registry.forMemberships organization).filter Provider.isExternal
  | .list .allGroups => registry.authoritative
  | .lookUp _ group => registry.forGroup group
  | .members group =>
      ((registry.external.find? fun provider =>
        provider.takesGroup group && provider.listsMembers).or
          (registry.authoritative.find? Provider.listsMembers)).toList

/-- Whether the operation is for the provider at a place of the registry. -/
def isFor (registry : Registry) : Operation → Nat → Bool
  | .list listing, place => registry.providers[place]?.any listing.isAsked
  | .lookUp _ group, place => registry.providers[place]?.any fun provider =>
      provider.takesGroup group
  | .members group, place => (Engine.ofRegistry registry).lister? group == some place

end Operation

/-! ## Elements at certain places -/

section Places

variable {β : Type}

theorem filter_zipIdx_any (elements : List β) (accepts : β → Bool) :
    (elements.zipIdx.filter fun (_, place) => elements[place]?.any accepts).map Prod.fst =
      elements.filter accepts := by
  have same : (elements.zipIdx.filter fun (_, place) => elements[place]?.any accepts) =
      elements.zipIdx.filter (accepts ∘ Prod.fst) := by
    refine List.filter_congr fun (element, place) member => ?_
    simp [List.mem_zipIdx_iff_getElem?.mp member]
  rw [same, ← List.filter_map, List.zipIdx_map_fst]

theorem filter_zipIdx_eq (elements : List β) (chosen : Option Nat) :
    (elements.zipIdx.filter fun (_, place) => chosen == some place).map Prod.fst =
      (chosen.bind fun place => elements[place]?).toList := by
  have shifted (start chosen : Nat) : ((elements.zipIdx start).filter fun (_, place) =>
      start + chosen == place).map Prod.fst = elements[chosen]?.toList := by
    induction elements generalizing start chosen with
    | nil => rfl
    | cons element elements inductionHypothesis =>
        cases chosen with
        | zero =>
            have behind (other : β) (place : Nat)
                (member : (other, place) ∈ elements.zipIdx (start + 1)) : ¬start = place := by
              have above := List.le_snd_of_mem_zipIdx member
              omega
            simpa [List.zipIdx_cons] using behind
        | succ chosen =>
            have same : start + (chosen + 1) = start + 1 + chosen := by omega
            have other : ¬start + 1 + chosen = start := by omega
            simpa [List.zipIdx_cons, List.filter_cons, same, other] using
              inductionHypothesis (start + 1) chosen
  cases chosen with
  | none => simp
  | some chosen => simpa using shifted 0 chosen

end Places

namespace Engine

/-- The partners that an operation is for. -/
def audience (engine : Engine) (operation : Operation) : List Partner :=
  (engine.partners.zipIdx.filter fun (_, place) => operation.isFor engine.registry place).map
    Prod.fst

/-- The engine after an operation. -/
def perform (engine : Engine) : Operation → Engine
  | .list listing => (engine.list listing).engine
  | .lookUp person group => (engine.groupById person group).engine
  | .members group => (engine.members group).engine

/-- The engine after several operations. -/
def performAll (engine : Engine) (operations : List Operation) : Engine :=
  operations.foldl perform engine

/-! ## Who is asked -/

theorem getElem?_registry (engine : Engine) (place : Nat) :
    engine.registry.providers[place]? = engine.partners[place]?.map Partner.provider :=
  List.getElem?_map ..

theorem isFor_list (engine : Engine) (listing : Listing) (place : Nat) :
    (Operation.list listing).isFor engine.registry place =
      engine.partners[place]?.any fun partner => listing.isAsked partner.provider := by
  rw [Operation.isFor, getElem?_registry, Option.any_map]

theorem isFor_lookUp (engine : Engine) (person group : String) (place : Nat) :
    (Operation.lookUp person group).isFor engine.registry place =
      engine.partners[place]?.any fun partner => partner.provider.takesGroup group := by
  rw [Operation.isFor, getElem?_registry, Option.any_map]

theorem isFor_members (engine : Engine) (group : String) (place : Nat) :
    (Operation.members group).isFor engine.registry place =
      (engine.lister? group == some place) := by
  rw [Operation.isFor]
  simp [lister?, ofRegistry, registry, List.findIdx?_map, Function.comp_def]

theorem audience_list (engine : Engine) (listing : Listing) :
    engine.audience (.list listing) = engine.eligible listing.isAsked := by
  simp only [audience, isFor_list]
  exact filter_zipIdx_any ..

theorem audience_lookUp (engine : Engine) (person group : String) :
    engine.audience (.lookUp person group) =
      engine.eligible fun provider => provider.takesGroup group := by
  simp only [audience, isFor_lookUp]
  exact filter_zipIdx_any ..

theorem audience_members (engine : Engine) (group : String) :
    engine.audience (.members group) =
      ((engine.externalLister? group).or engine.authoritativeLister?).toList := by
  simp only [audience, isFor_members]
  rw [filter_zipIdx_eq, bind_lister?]

/-- The providers of the partners that are asked when the question is for some of them. -/
theorem map_provider_eligible (engine : Engine) (isAsked : Provider → Bool) :
    (engine.eligible isAsked).map Partner.provider = engine.registry.providers.filter isAsked := by
  rw [registry, List.filter_map]
  rfl

/-- The first of the partners that one test keeps and another one chooses. -/
theorem map_provider_find? (engine : Engine) (kept chosen : Provider → Bool) :
    (engine.partners.find? fun partner =>
      kept partner.provider && chosen partner.provider).map Partner.provider =
        (engine.registry.providers.filter kept).find? chosen := by
  rw [List.find?_filter, registry, List.find?_map]
  simp only [Bool.decide_and, Bool.decide_eq_true]
  rfl

/-- The partners that are asked are those whose providers the operation is for. -/
theorem map_provider_audience (engine : Engine) (operation : Operation) :
    (engine.audience operation).map Partner.provider =
      operation.providers engine.registry := by
  cases operation with
  | list listing =>
      rw [audience_list, map_provider_eligible]
      cases listing with
      | memberships person organization => rfl
      | externalMemberships person organization =>
          simp only [Operation.providers, Registry.forMemberships, List.filter_filter,
            Bool.and_comm (Provider.isExternal _)]
          rfl
      | allGroups => rfl
  | lookUp person group =>
      rw [audience_lookUp, map_provider_eligible]
      rfl
  | members group =>
      have external : (engine.externalLister? group).map Partner.provider =
          engine.registry.external.find? fun provider =>
            provider.takesGroup group && provider.listsMembers := by
        simp only [externalLister?, Bool.and_assoc]
        exact engine.map_provider_find? Provider.isExternal fun provider =>
          provider.takesGroup group && provider.listsMembers
      have authoritative : engine.authoritativeLister?.map Partner.provider =
          engine.registry.authoritative.find? Provider.listsMembers :=
        engine.map_provider_find? (fun provider => !provider.isExternal) Provider.listsMembers
      rw [audience_members, ← Option.toList_map, Option.map_or, external, authoritative]
      rfl

/-! ## What is asked -/

theorem partners_afterwards {α : Type} (engine : Engine) (isAsked : Provider → Bool)
    (query : Query) (reply : Partner → Reply α) (counted : List (Arrival α)) (place : Nat) :
    (engine.afterwards isAsked query reply counted).partners[place]? =
      engine.partners[place]?.map fun partner =>
        if engine.partners[place]?.any fun partner => isAsked partner.provider then
          partner.ask query
        else partner := by
  rw [afterwards, List.getElem?_map]
  cases engine.partners[place]? <;> rfl

/-- An operation asks every partner that it is for once, and nobody else. -/
theorem getElem?_partners_perform (engine : Engine) (operation : Operation) (place : Nat) :
    (engine.perform operation).partners[place]? = engine.partners[place]?.map fun partner =>
      if operation.isFor engine.registry place then partner.ask operation.query else partner := by
  cases operation with
  | list listing =>
      rw [perform, list_eq_gather, isFor_list]
      exact engine.partners_afterwards ..
  | lookUp person group =>
      rw [isFor_lookUp]
      exact engine.partners_afterwards ..
  | members group =>
      rw [isFor_members, perform, members]
      cases chosen : engine.lister? group with
      | none => simp
      | some chosenPlace =>
          cases found : engine.partners[chosenPlace]? with
          | none =>
              by_cases same : chosenPlace = place
              · subst same
                simp [found]
              · simp [found, same]
          | some partner => simp [found, List.getElem?_modify, Operation.query]

theorem registry_perform (engine : Engine) (operation : Operation) :
    (engine.perform operation).registry = engine.registry := by
  rw [registry, registry, Registry.mk.injEq]
  apply List.ext_getElem?
  intro place
  rw [List.getElem?_map, List.getElem?_map, getElem?_partners_perform, Option.map_map]
  congr 1
  funext partner
  simp only [Function.comp_apply]
  split <;> rfl

/-- In the end a partner has been asked what was for it, in the order of the operations. -/
theorem getElem?_partners_performAll (engine : Engine) (operations : List Operation)
    (place : Nat) :
    (engine.performAll operations).partners[place]? =
      engine.partners[place]?.map fun partner =>
        { partner with
          asked := partner.asked ++
            (operations.filter fun operation => operation.isFor engine.registry place).map
              Operation.query } := by
  induction operations generalizing engine with
  | nil => simp [performAll]
  | cons operation operations inductionHypothesis =>
      -- The first operation leaves the registry as it is, and so whom the others are for.
      rw [performAll, List.foldl_cons, ← performAll, inductionHypothesis, registry_perform,
        getElem?_partners_perform, Option.map_map]
      congr 1
      funext partner
      by_cases asked : operation.isFor engine.registry place <;> simp [asked, Partner.ask]

theorem registry_performAll (engine : Engine) (operations : List Operation) :
    (engine.performAll operations).registry = engine.registry := by
  induction operations generalizing engine with
  | nil => rfl
  | cons operation operations inductionHypothesis =>
      exact (inductionHypothesis _).trans (engine.registry_perform operation)

end Engine

end GroupFederation.Aggregation
