import GroupFederation.Aggregation.Engine
import GroupFederation.Proofs.Provider.Redaction

/-!
# The engine and who sends its requests

An engine whose requests are redacted does what the engine does: it asks the same providers, waits
as long, gives the same answers and counts the same calls. Every question commutes with redacting.
-/

namespace GroupFederation

/-- Whether a reply is in time does not depend on who has sent its requests. -/
@[simp] theorem Aggregation.ofReply_redacted {α : Type} (place : Nat) (provider : Provider)
    (reply : Reply α) :
    Arrival.ofReply place provider.redacted reply.redacted = .ofReply place provider reply := by
  have times : reply.redacted.delay ≤ provider.timeout ↔ reply.delay ≤ provider.timeout := .rfl
  have limit : provider.redacted.timeout = provider.timeout := rfl
  simp only [Arrival.ofReply, Reply.within, limit, times]
  split <;> rfl

namespace Aggregation

/-- A partner whose provider is redacted. -/
def Partner.redacted (partner : Partner) : Partner :=
  { partner with provider := partner.provider.redacted }

/-- The engine with its providers and all its requests redacted. -/
def Engine.redacted (engine : Engine) : Engine :=
  { engine with
    partners := engine.partners.map Partner.redacted
    sent := engine.sent.map Http.Request.redacted }

/-- The result with its engine redacted. -/
def Result.redacted {α : Type} (result : Result α) : Result α :=
  { result with engine := result.engine.redacted }

namespace Engine

/-- Redacted providers are put in the order of the providers themselves. -/
theorem redacted_ofRegistry (providers : List Provider) :
    (ofRegistry (.ofList providers)).redacted =
      ofRegistry (.ofList (providers.map Provider.redacted)) := by
  simp only [ofRegistry, Registry.ofList, authoritativeFirst, redacted, List.filter_map,
    List.map_append, List.map_map]
  rfl

/-! ## One question to several providers -/

section Question

variable {α : Type} {isAsked : Provider → Bool} {reply : Partner → Reply α}
  (choice : ∀ provider : Provider, isAsked provider.redacted = isAsked provider)
  (replies : ∀ partner : Partner, reply partner.redacted = (reply partner).redacted)

include choice

theorem eligible_redacted (engine : Engine) :
    engine.redacted.eligible isAsked = (engine.eligible isAsked).map Partner.redacted := by
  have asked (partner : Partner) :
      isAsked partner.redacted.provider = isAsked partner.provider := choice partner.provider
  simp only [eligible, redacted, List.filter_map, Function.comp_def, asked]

include replies

/-- The calls end at the same times and in the same ways. -/
theorem arrivals_redacted (engine : Engine) :
    engine.redacted.arrivals isAsked reply = engine.arrivals isAsked reply := by
  have provider (partner : Partner) : partner.redacted.provider = partner.provider.redacted := rfl
  simp only [arrivals, eligible_redacted choice, List.zipIdx_map, List.map_map, Function.comp_def,
    Prod.map, replies, provider, ofReply_redacted, id]

theorem redacted_afterwards (engine : Engine) (query : Query) (counted : List (Arrival α)) :
    (engine.afterwards isAsked query reply counted).redacted =
      engine.redacted.afterwards isAsked query reply counted := by
  have noted (partner : Partner) :
      (if isAsked partner.provider then partner.ask query else partner).redacted =
        if isAsked partner.redacted.provider then partner.redacted.ask query
        else partner.redacted := by
    rw [apply_ite Partner.redacted, show partner.redacted.provider = partner.provider.redacted from
      rfl, choice]
    rfl
  have requests (partner : Partner) :
      (reply partner.redacted).sent = (reply partner).sent.map Http.Request.redacted := by
    rw [replies]
    rfl
  simp only [afterwards, eligible_redacted choice, List.flatMap_map, requests]
  simp only [redacted, List.map_map, Function.comp_def, noted, List.map_append, List.map_flatMap]

end Question

theorem redacted_gather {isAsked : Provider → Bool} {reply : Partner → Reply (List Group)}
    (choice : ∀ provider : Provider, isAsked provider.redacted = isAsked provider)
    (replies : ∀ partner : Partner, reply partner.redacted = (reply partner).redacted)
    (engine : Engine) (query : Query) :
    (engine.gather isAsked query reply).redacted = engine.redacted.gather isAsked query reply := by
  simp only [gather, Result.redacted, arrivals_redacted choice replies,
    redacted_afterwards choice replies]

/-! ## The questions of the engine -/

theorem redacted_myGroups (engine : Engine) (person organization : String) :
    (engine.myGroups person organization).redacted =
      engine.redacted.myGroups person organization :=
  redacted_gather (fun _ => rfl) (fun _ => rfl) engine _

theorem redacted_myExternalGroups (engine : Engine) (person organization : String) :
    (engine.myExternalGroups person organization).redacted =
      engine.redacted.myExternalGroups person organization :=
  redacted_gather (fun _ => rfl) (fun _ => rfl) engine _

theorem redacted_allGroups (engine : Engine) :
    engine.allGroups.redacted = engine.redacted.allGroups :=
  redacted_gather (fun _ => rfl) (fun _ => rfl) engine _

theorem redacted_groupById (engine : Engine) (person group : String) :
    (engine.groupById person group).redacted = engine.redacted.groupById person group := by
  let isAsked (provider : Provider) := provider.takesGroup group
  let reply (partner : Partner) := partner.provider.membership partner.asked person group
  have choice (provider : Provider) : isAsked provider.redacted = isAsked provider := rfl
  have replies (partner : Partner) : reply partner.redacted = (reply partner).redacted := rfl
  simp only [groupById, Result.redacted]
  rw [arrivals_redacted choice replies, redacted_afterwards choice replies]

theorem lister?_redacted (engine : Engine) (group : String) :
    engine.redacted.lister? group = engine.lister? group := by
  simp only [lister?, redacted, List.findIdx?_map]
  rfl

theorem redacted_members (engine : Engine) (group : String) :
    (engine.members group).redacted = engine.redacted.members group := by
  simp only [members, lister?_redacted]
  cases engine.lister? group with
  | none => rfl
  | some place =>
      have found : engine.redacted.partners[place]? =
          engine.partners[place]?.map Partner.redacted := by
        simp [redacted]
      simp only [Option.bind_some, found]
      cases engine.partners[place]? with
      | none => rfl
      | some partner =>
          have provider : partner.redacted.provider = partner.provider.redacted := rfl
          have reply : partner.provider.redacted.members partner.redacted.asked group =
              (partner.provider.members partner.asked group).redacted := rfl
          have noted : (engine.partners.modify place fun partner =>
                partner.ask (.members group)).map Partner.redacted =
              (engine.partners.map Partner.redacted).modify place fun partner =>
                partner.ask (.members group) := by
            apply Http.map_modify
            intro partner
            rfl
          simp only [Option.map_some, provider, reply, ofReply_redacted]
          simp only [Result.redacted, redacted, List.map_append, noted]
          rfl

end Engine

end Aggregation

end GroupFederation
