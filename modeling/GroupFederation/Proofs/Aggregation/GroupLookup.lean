import GroupFederation.Aggregation.Engine
import GroupFederation.Http.Canned
import GroupFederation.Proofs.Provider.Lookup

/-!
# Whether a look-up answers with the group that was asked for

A look-up is answered with the first group that arrives, as its provider gives it; nobody compares
it with the group that was asked for. With the authoritative registry it is that group. A partner
may give another one: the membership interface takes over whatever its resource holds first, and the
collections are searched for the local name only, so that a group of another organization is found.
-/

namespace GroupFederation

/-- What comes in time is what the provider replied. -/
theorem Reply.value?_of_within {α : Type} {limit : Nat} {reply : Reply α} {value : α}
    (answered : (reply.within limit).outcome.value? = some value) :
    reply.outcome.value? = some value := by
  rw [(value?_within_eq_some_iff.mp answered).1]
  rfl

namespace Aggregation

/-- Whether an arrival brings a group. -/
def Arrival.isPresent (arrival : Arrival (Option Group)) : Bool :=
  arrival.outcome.value?.join.isSome

/-- What is found first is what the first arrival that brings a group brings, at its time. -/
theorem firstPresent?_eq_find?_bind (arrivals : List (Arrival (Option Group))) :
    firstPresent? arrivals = (arrivals.find? Arrival.isPresent).bind fun arrival =>
      arrival.outcome.value?.join.map fun group => (arrival.time, group) := by
  induction arrivals with
  | nil => rfl
  | cons arrival arrivals inductionHypothesis =>
      cases brought : arrival.outcome.value?.join with
      | none => simpa [firstPresent?, Arrival.isPresent, brought] using inductionHypothesis
      | some group => simp [firstPresent?, Arrival.isPresent, brought]

theorem firstPresent?_eq_bind (arrivals : List (Arrival (Option Group))) :
    (firstPresent? arrivals).map Prod.snd =
      (arrivals.find? Arrival.isPresent).bind fun arrival => arrival.outcome.value?.join := by
  simp [firstPresent?_eq_find?_bind, Option.map_bind, Function.comp_def]

namespace Engine

/-- The arrivals are the ends of the calls to the partners at their places. -/
theorem mem_arrivals_iff {α : Type} {engine : Engine} {isAsked : Provider → Bool}
    {reply : Partner → Reply α} {arrival : Arrival α} :
    arrival ∈ engine.arrivals isAsked reply ↔
      ∃ place partner, (engine.eligible isAsked)[place]? = some partner ∧
        Arrival.ofReply place partner.provider (reply partner) = arrival := by
  constructor
  · intro member
    obtain ⟨⟨partner, place⟩, listed, same⟩ := List.mem_map.mp member
    exact ⟨place, partner, List.mem_zipIdx_iff_getElem?.mp listed, same⟩
  · rintro ⟨place, partner, located, same⟩
    exact List.mem_map.mpr ⟨(partner, place), List.mem_zipIdx_iff_getElem?.mpr located, same⟩

theorem exists_partner_of_mem_arrivals {α : Type} {engine : Engine} {isAsked : Provider → Bool}
    {reply : Partner → Reply α} {arrival : Arrival α}
    (member : arrival ∈ engine.arrivals isAsked reply) :
    ∃ partner, (engine.eligible isAsked)[arrival.place]? = some partner ∧
      arrival.outcome = ((reply partner).within partner.provider.timeout).outcome := by
  obtain ⟨place, partner, located, rfl⟩ := mem_arrivals_iff.mp member
  exact ⟨partner, located, rfl⟩

/-- The first arrival that brings a group when a person's group is looked up. -/
def firstArrival? (engine : Engine) (person group : String) : Option (Arrival (Option Group)) :=
  (inOrder (engine.arrivals (fun provider => provider.takesGroup group) fun partner =>
    partner.provider.membership partner.asked person group)).find? Arrival.isPresent

/-- The partner whose group that is. -/
def answerer? (engine : Engine) (person group : String) : Option Partner :=
  (engine.firstArrival? person group).bind fun arrival =>
    (engine.eligible fun provider => provider.takesGroup group)[arrival.place]?

/-- Whoever answers is a partner of the engine that takes the group. -/
theorem mem_of_answerer? {engine : Engine} {person group : String} {partner : Partner}
    (answers : engine.answerer? person group = some partner) :
    partner ∈ engine.partners ∧ partner.provider.takesGroup group := by
  obtain ⟨arrival, -, located⟩ := Option.bind_eq_some_iff.mp answers
  exact List.mem_filter.mp (List.mem_of_getElem? located)

/-- The first arrival that brings a group is the end of a call to which the answering partner
replies with that group. -/
theorem exists_reply_of_firstArrival? {engine : Engine} {person group : String}
    {arrival : Arrival (Option Group)} (first : engine.firstArrival? person group = some arrival) :
    ∃ partner found, engine.answerer? person group = some partner ∧
      arrival.outcome.value?.join = some found ∧
      (partner.provider.membership partner.asked person group).outcome.value? =
        some (some found) := by
  obtain ⟨partner, located, outcome⟩ := exists_partner_of_mem_arrivals
    (List.mem_mergeSort.mp (List.mem_of_find?_eq_some first))
  have present : arrival.isPresent := List.find?_some first
  obtain ⟨found, brought⟩ := Option.isSome_iff_exists.mp present
  refine ⟨partner, found, by simp [answerer?, first, located], brought, ?_⟩
  exact Reply.value?_of_within (outcome ▸ Option.join_eq_some_iff.mp brought)

/-- The answer is what the first arrival that brings a group brings. -/
theorem groupById_value (engine : Engine) (person group : String) :
    (engine.groupById person group).value =
      (engine.firstArrival? person group).bind fun arrival => arrival.outcome.value?.join :=
  firstPresent?_eq_bind _

/-- There is an answer exactly when somebody answers, and then it is the group of that partner's
reply. -/
theorem groupById_value_eq_some_iff {engine : Engine} {person group : String} {found : Group} :
    (engine.groupById person group).value = some found ↔
      ∃ partner, engine.answerer? person group = some partner ∧
        (partner.provider.membership partner.asked person group).outcome.value? =
          some (some found) := by
  rw [groupById_value]
  cases first : engine.firstArrival? person group with
  | none => simp [answerer?, first]
  | some arrival =>
      obtain ⟨partner, brought, answers, present, replied⟩ := exists_reply_of_firstArrival? first
      simp [answers, present, replied]

/-- Whoever answers replies with a group. -/
theorem exists_reply_of_answerer? {engine : Engine} {person group : String} {partner : Partner}
    (answers : engine.answerer? person group = some partner) :
    ∃ found, (partner.provider.membership partner.asked person group).outcome.value? =
      some (some found) := by
  obtain ⟨arrival, first, -⟩ := Option.bind_eq_some_iff.mp answers
  obtain ⟨other, found, otherAnswers, -, replied⟩ := exists_reply_of_firstArrival? first
  obtain rfl : other = partner := Option.some.inj (otherAnswers.symm.trans answers)
  exact ⟨found, replied⟩

/-- The partners of a registry that was made of configurations have providers of these. -/
theorem exists_config_of_mem {engine : Engine} {network : Http.Network}
    {configs : List Provider.Config}
    (built : engine.registry = .ofList (configs.map (Provider.ofConfig network)))
    {partner : Partner} (member : partner ∈ engine.partners) :
    ∃ config ∈ configs, partner.provider = Provider.ofConfig network config := by
  have listed : partner.provider ∈ engine.registry.providers := List.mem_map_of_mem member
  rw [built, Registry.mem_providers_ofList] at listed
  obtain ⟨config, accepted, same⟩ := List.mem_map.mp listed
  exact ⟨config, accepted, same.symm⟩

/-- A look-up of a fully qualified group answers with no other group, unless the first group comes
from a backend that has another group in its place. The authoritative registry never has. -/
theorem lookup_answers_asked_group_iff {engine : Engine} {network : Http.Network}
    {configs : List Provider.Config}
    (built : engine.registry = .ofList (configs.map (Provider.ofConfig network)))
    (person : String) {group : String} (qualified : Urn.isQualified .group group) :
    (∀ found, (engine.groupById person group).value = some found → found.id = group) ↔
      ∀ partner, engine.answerer? person group = some partner →
        ∀ config ∈ configs, partner.provider = Provider.ofConfig network config →
          ¬config.Strays network person group := by
  constructor
  · intro right partner answers config _ same strays
    obtain ⟨found, replied⟩ := exists_reply_of_answerer? answers
    have asked := right found (groupById_value_eq_some_iff.mpr ⟨partner, answers, replied⟩)
    have takes := (mem_of_answerer? answers).2
    rw [same] at takes replied
    exact (Provider.id_ne_iff_strays qualified takes replied).mpr strays asked
  · intro noneStrays found value
    obtain ⟨partner, answers, replied⟩ := groupById_value_eq_some_iff.mp value
    obtain ⟨listed, takes⟩ := mem_of_answerer? answers
    obtain ⟨config, accepted, same⟩ := exists_config_of_mem built listed
    have keeps := noneStrays partner answers config accepted same
    rw [same] at takes replied
    by_contra other
    exact keeps ((Provider.id_ne_iff_strays qualified takes replied).mp other)

/-- The registry reports another group first, and the partner would answer with another group, but
the group belongs to the registry. -/
theorem lookup_answers_asked_group_iff_of_registry :
    let home : Provider.Config :=
      ⟨.grouper, "http://home.test", ⟨"user", "secret"⟩, 500, "example.org", "home", false⟩
    let partner : Provider.Config :=
      ⟨.voot2, "http://partner.test", ⟨"user", "secret"⟩, 500, "partner.org", "partner", false⟩
    let record (name : String) := "<wsGroups><name>" ++ name ++ "</name></wsGroups>"
    let network := Http.Canned.network
      [⟨"home", [{ body := Text.Utf8.ofText ("<r>" ++ record "lab" ++ record "staff" ++ "</r>") }]⟩,
        ⟨"partner", [{ body := Text.Utf8.ofText "[[\"lab\"]]" }]⟩]
    let engine := Engine.ofRegistry (.ofList ([home, partner].map (Provider.ofConfig network)))
    let group := "urn:collab:group:example.org:staff"
    let answer := (engine.groupById "urn:collab:person:example.org:jane" group).value
    engine.registry = .ofList ([home, partner].map (Provider.ofConfig network)) ∧
      Urn.isQualified .group group = true ∧ answer.map Group.id = some group ∧
      ∀ found, answer = some found → found.id = group := by
  intro home partner record network engine group answer
  have built : engine.registry = .ofList ([home, partner].map (Provider.ofConfig network)) := rfl
  have qualified : Urn.isQualified .group group = true := by decide +kernel
  refine ⟨built, qualified, by decide +kernel, ?_⟩
  refine (lookup_answers_asked_group_iff built _ qualified).mpr ?_
  intro answering answers config accepted same
  have takes := (mem_of_answerer? answers).2
  rw [same] at takes
  simp only [List.mem_cons, List.not_mem_nil, or_false] at accepted
  rcases accepted with rfl | rfl
  · exact id
  · exact absurd takes (by decide +kernel)

/-- A partner with the membership interface answers with a group of another local name, and one with
collections with a group of another organization. -/
theorem lookup_answers_other_group :
    let entry (kind : String) : Provider.Entry :=
      ⟨kind, "http://partner.test", "user", "secret", 500, "partner.org", "partner", false⟩
    let network (body : String) :=
      Http.Canned.network [⟨"partner", [{ body := Text.Utf8.ofText body }]⟩]
    let group := "urn:collab:group:partner.org:a"
    let answer (kind body : String) :=
      (Provider.Config.acceptAll [entry kind]).toOption.map fun configs =>
        ((Engine.ofRegistry (.ofList (configs.map (Provider.ofConfig (network body))))).groupById
          "urn:collab:person:partner.org:jane" group).value.map Group.id
    Urn.isQualified .group group = true ∧
      answer "voot2" "\x7b\"id\": \"b\"\x7d" = some (some "urn:collab:group:partner.org:b") ∧
      answer "open_social" "[\x7b\"id\": \"urn:collab:group:other.org:a\"\x7d]" =
        some (some "urn:collab:group:other.org:a") := by
  intro entry network group answer
  refine ⟨?_, ?_, ?_⟩ <;> decide +kernel

end Engine

end Aggregation

end GroupFederation
