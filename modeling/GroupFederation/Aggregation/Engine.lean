import GroupFederation.Aggregation.Arrival
import GroupFederation.Metrics.Tally
import GroupFederation.Registry

/-!
# The aggregation engine

The engine puts each question to the providers that may know something about it and makes one
answer of theirs. Lists and lookups of groups give every call a task of its own, so a provider that
fails, is late or breaks down contributes nothing and spoils nothing. Lists wait for everyone; a
lookup is answered by the first group that arrives, and calls that are then still under way are
dropped without being counted. The members of a group come from one provider, which is asked without
such a task: when it fails or is late there are none, and when it breaks down there is no answer.

The engine remembers what every provider has been asked, how its calls ended, and which requests
were sent.
-/

namespace GroupFederation.Aggregation

/-- A provider with the questions it has been asked so far. -/
structure Partner where
  provider : Provider
  asked : List Query

/-- Note a question. -/
def Partner.ask (partner : Partner) (query : Query) : Partner :=
  { partner with asked := partner.asked ++ [query] }

/-- The labels under which a call is counted. -/
structure CallLabel where
  provider : String
  operation : String
  outcome : String
  deriving DecidableEq, Repr

/-- The providers in registry order and what has happened so far. -/
structure Engine where
  partners : List Partner
  calls : Tally CallLabel
  sent : List Http.Request

/-- The answer of the engine, how long it took, and the engine afterwards. -/
structure Result (α : Type) where
  value : α
  elapsed : Nat
  engine : Engine

namespace Engine

/-- An engine that has not been asked anything. -/
def ofRegistry (registry : Registry) : Engine :=
  ⟨registry.providers.map fun provider => ⟨provider, []⟩, .empty, []⟩

/-- The registry that the engine works with. -/
def registry (engine : Engine) : Registry :=
  ⟨engine.partners.map Partner.provider⟩

theorem registry_ofRegistry (registry : Registry) : (ofRegistry registry).registry = registry := by
  simp [Engine.registry, ofRegistry, Function.comp_def]

/-- The partners that a question is for. -/
def eligible (engine : Engine) (isAsked : Provider → Bool) : List Partner :=
  engine.partners.filter fun partner => isAsked partner.provider

/-- The ends of the calls that a question causes. -/
def arrivals {α : Type} (engine : Engine) (isAsked : Provider → Bool)
    (reply : Partner → Reply α) : List (Arrival α) :=
  (engine.eligible isAsked).zipIdx.map fun (partner, place) =>
    Arrival.ofReply place partner.provider (reply partner)

/-- The label of a task that has ended. -/
def labelOf? {α : Type} (query : Query) (arrival : Arrival α) : Option CallLabel :=
  arrival.outcome.label?.map fun outcome => ⟨arrival.provider, query.operation, outcome⟩

/-- The engine after a question, of whose calls some have been counted. The task of every call is
started, even in a lookup that is answered before the call ends; so every partner that the question
is for has been asked, and its requests have been sent. -/
def afterwards {α : Type} (engine : Engine) (isAsked : Provider → Bool) (query : Query)
    (reply : Partner → Reply α) (counted : List (Arrival α)) : Engine :=
  { partners := engine.partners.map fun partner =>
      if isAsked partner.provider then partner.ask query else partner
    calls := engine.calls.addAll (counted.filterMap (labelOf? query))
    sent := engine.sent ++
      (engine.eligible isAsked).flatMap fun partner => (reply partner).sent }

/-- Ask for lists of groups and merge them. -/
def gather (engine : Engine) (isAsked : Provider → Bool) (query : Query)
    (reply : Partner → Reply (List Group)) : Result (List Group) :=
  let ended := inOrder (engine.arrivals isAsked reply)
  { value := merge (collect ended)
    elapsed := lastTime ended
    engine := engine.afterwards isAsked query reply ended }

/-- The groups of a person. -/
def myGroups (engine : Engine) (person organization : String) : Result (List Group) :=
  engine.gather (fun provider => provider.takesMemberships organization) (.memberships person)
    fun partner => partner.provider.memberships partner.asked person

/-- The groups of a person at external partners. -/
def myExternalGroups (engine : Engine) (person organization : String) : Result (List Group) :=
  engine.gather
    (fun provider => provider.takesMemberships organization && provider.isExternal)
    (.memberships person) fun partner => partner.provider.memberships partner.asked person

/-- All groups; only the authoritative provider is ever asked. -/
def allGroups (engine : Engine) : Result (List Group) :=
  engine.gather (fun provider => !provider.isExternal) .allGroups
    fun partner => partner.provider.allGroups partner.asked

/-- One group of a person: the first one that arrives, or none when all calls have ended. -/
def groupById (engine : Engine) (person group : String) : Result (Option Group) :=
  let isAsked (provider : Provider) := provider.takesGroup group
  let query := Query.membership person group
  let reply (partner : Partner) := partner.provider.membership partner.asked person group
  let ended := inOrder (engine.arrivals isAsked reply)
  let found := firstPresent? ended
  let elapsed := match found with
    | some (time, _) => time
    | none => lastTime ended
  { value := found.map Prod.snd
    elapsed := elapsed
    engine := engine.afterwards isAsked query reply
      (ended.filter fun arrival => arrival.time ≤ elapsed) }

/-- The place of the provider that lists the members of a group: the first external one that knows
the group and lists members, otherwise the first authoritative one that lists members. -/
def lister? (engine : Engine) (group : String) : Option Nat :=
  let place? (accepts : Provider → Bool) :=
    engine.partners.findIdx? fun partner => accepts partner.provider
  (place? fun provider =>
      provider.isExternal && provider.takesGroup group && provider.listsMembers).or
    (place? fun provider => !provider.isExternal && provider.listsMembers)

/-- The members that a call gives: none when it fails, and no answer when it breaks down. -/
def membersFrom? : Outcome (List Member) → Option (List Member)
  | .answered members => some members
  | .failed _ => some []
  | .crashed => none

/-- The members of a group, from a single provider. The provider is asked in place, without a task
of its own; when it breaks down, so does whoever asks. -/
def members (engine : Engine) (group : String) : Result (Option (List Member)) :=
  match (engine.lister? group).bind fun place => engine.partners[place]?.map (place, ·) with
  | none => ⟨some [], 0, engine⟩
  | some (place, partner) =>
      let query := Query.members group
      let reply := partner.provider.members partner.asked group
      let arrival := Arrival.ofReply 0 partner.provider reply
      { value := membersFrom? arrival.outcome
        elapsed := arrival.time
        engine :=
          { partners := engine.partners.modify place fun partner => partner.ask query
            calls := engine.calls.addAll ((labelOf? query arrival).toList)
            sent := engine.sent ++ reply.sent } }

end Engine

end GroupFederation.Aggregation
