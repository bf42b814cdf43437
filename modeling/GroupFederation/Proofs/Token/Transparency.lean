import GroupFederation.Proofs.Token.Together
import GroupFederation.Proofs.Token.Transition

/-!
# Caching does not change decisions

A chain with a cache and one without do not proceed in step: the one with a cache asks less, takes
less time, and is elsewhere when the next call comes. With steady validators its verdicts are the
same all the same, because both are the decisions of the validators: for calls that are made one
after the other or started together, and for calls that overlap in any other way.
-/

namespace GroupFederation.Token

/-- Something that is done to a chain before the next thing is done. -/
inductive Command where
  | validate (token : String)
  /-- Several calls, started together. -/
  | together (tokens : List String)
  | evict
  | startSweeping (interval : Nat)
  | stopSweeping (number : Nat)
  | wait (duration : Nat)
  deriving DecidableEq, Repr

/-- The tokens that a command asks for the verdicts on. -/
def Command.tokens : Command → List String
  | .validate token => [token]
  | .together tokens => tokens
  | _ => []

/-- A chain on a clock. -/
structure ClockedChain where
  chain : Chain
  now : Nat := 0

namespace ClockedChain

/-- A chain of validators that nobody has used yet, with an empty cache if there is to be one. -/
def ofValidators (validators : List Validator) (ttl? : Option Nat) : ClockedChain :=
  { chain := .ofValidators validators (ttl?.map fun ttl => { ttl := ttl }) }

/-- Carry a command out: the verdicts on its tokens, and the chain when all its calls have ended. -/
def perform (clocked : ClockedChain) : Command → List Verdict × ClockedChain
  | .validate token =>
      let (chain, verdict, now) := clocked.chain.validate clocked.now token
      ([verdict], ⟨chain, now⟩)
  | .together tokens =>
      let (chain, verdicts, now) := clocked.chain.validateTogether clocked.now tokens
      (verdicts, ⟨chain, now⟩)
  | .evict => ([], { clocked with chain := (clocked.chain.evict clocked.now).2 })
  | .startSweeping interval =>
      ([], { clocked with
        chain := clocked.chain.mapCache fun cache => (cache.startSweeping clocked.now interval).2 })
  | .stopSweeping number =>
      ([], { clocked with
        chain := clocked.chain.mapCache fun cache => cache.stopSweeping number })
  | .wait duration => ([], { clocked with now := clocked.now + duration })

/-- The verdicts that commands give, each carried out after the one before. -/
def verdicts (clocked : ClockedChain) : List Command → List (List Verdict)
  | [] => []
  | command :: commands =>
      let (verdicts, clocked) := clocked.perform command
      verdicts :: clocked.verdicts commands

variable {validators : List Validator} {clocked : ClockedChain}

theorem perform_of_agrees (steady : ∀ validator ∈ validators, validator.IsSteady)
    (agrees : clocked.chain.Agrees validators) (command : Command) :
    (clocked.perform command).2.chain.Agrees validators ∧
      (clocked.perform command).1 =
        command.tokens.map fun token => decision token validators := by
  cases command with
  | validate token =>
      obtain ⟨kept, decided⟩ := agrees.validate steady clocked.now token
      exact ⟨kept, congrArg ([·]) decided⟩
  | together tokens => exact agrees.validateTogether steady clocked.now tokens
  | evict => exact ⟨agrees.shrink (.evict clocked.chain clocked.now), rfl⟩
  | startSweeping interval =>
      have kept := agrees.shrink
        (.mapCache _ fun cache => .startSweeping cache clocked.now interval)
      exact ⟨kept, rfl⟩
  | stopSweeping number =>
      exact ⟨agrees.shrink (.mapCache _ fun cache => .stopSweeping cache number), rfl⟩
  | wait duration => exact ⟨agrees, rfl⟩

/-- The verdicts are the decisions, whatever has been stored and lost in between. -/
theorem verdicts_of_agrees (steady : ∀ validator ∈ validators, validator.IsSteady)
    (agrees : clocked.chain.Agrees validators) (commands : List Command) :
    clocked.verdicts commands =
      commands.map fun command => command.tokens.map fun token => decision token validators := by
  induction commands generalizing clocked with
  | nil => rfl
  | cons command commands inductionHypothesis =>
      obtain ⟨kept, decided⟩ := perform_of_agrees steady agrees command
      rw [verdicts, List.map_cons, ← decided, ← inductionHypothesis kept]

end ClockedChain

/-! ## Calls that overlap in any way -/

/-- A chain in use whose cache, waiting calls and returned verdicts are in agreement with its
validators. -/
structure Deciding (validators : List Validator) (traffic : Traffic) : Prop where
  chain : traffic.chain.Agrees validators
  waiting : ∀ number call, (number, call) ∈ traffic.waiting → call.Agrees validators
  returned : ∀ occurrence ∈ traffic.history, ∀ verdict origin,
    occurrence.event = .returned verdict origin →
      verdict = decision occurrence.token validators

namespace Deciding

variable {validators : List Validator} {traffic : Traffic}

theorem ofValidators (validators : List Validator) (ttl? : Option Nat) :
    Deciding validators (.ofValidators validators ttl?) :=
  ⟨.ofValidators validators ttl?, by simp [Traffic.ofValidators], by simp [Traffic.ofValidators]⟩

theorem shrink (deciding : Deciding validators traffic) {chain : Chain}
    (within : chain.Within traffic.chain) : Deciding validators { traffic with chain := chain } :=
  { deciding with chain := deciding.chain.shrink within }

theorem note (deciding : Deciding validators traffic) (number : Nat) {token : String}
    {event : Event}
    (right : ∀ verdict origin, event = .returned verdict origin →
      verdict = decision token validators) :
    Deciding validators (traffic.note number token event) := by
  refine { deciding with returned := fun occurrence member => ?_ }
  rcases List.mem_append.mp member with earlier | new
  · exact deciding.returned occurrence earlier
  · obtain rfl := List.mem_singleton.mp new
    exact right

/-- A call is put where it stands. -/
theorem settle (deciding : Deciding validators traffic) (number : Nat) {token : String}
    (origin : Origin) {standing : Standing} (agrees : standing.Agrees validators token) :
    Deciding validators (traffic.settle number token origin standing) := by
  cases standing with
  | decided verdict =>
      refine deciding.note number fun returned _ same => ?_
      simp only [Event.returned.injEq] at same
      exact same.1 ▸ agrees
  | waiting call =>
      have noted : Deciding validators (traffic.note number token (.asked call.place)) :=
        deciding.note number (by simp)
      refine { noted with waiting := fun other waiting member => ?_ }
      rcases List.mem_append.mp member with earlier | new
      · exact deciding.waiting other waiting earlier
      · simp only [List.mem_singleton, Prod.mk.injEq] at new
        exact new.2 ▸ agrees.2

theorem begin (deciding : Deciding validators traffic)
    (steady : ∀ validator ∈ validators, validator.IsSteady) (token : String) :
    Deciding validators (traffic.begin token) := by
  have next := deciding.chain.start steady traffic.now token
  have opened : Deciding validators
      { traffic with
        chain := (traffic.chain.start traffic.now token).1
        started := traffic.started + 1 } := { deciding with chain := next.chain }
  exact (opened.note traffic.started (by simp)).settle traffic.started _ next.standing

theorem hear (deciding : Deciding validators traffic)
    (steady : ∀ validator ∈ validators, validator.IsSteady) {number : Nat} {call : Call}
    (waits : (number, call) ∈ traffic.waiting) :
    Deciding validators (traffic.hear number call) := by
  have next := deciding.chain.receive steady traffic.now (deciding.waiting number call waits)
  have released : Deciding validators
      { traffic with
        chain := (traffic.chain.receive traffic.now call).1
        waiting := traffic.waiting.filter fun entry => entry.1 != number } :=
    { deciding with
      chain := next.chain
      waiting := fun other waiting member =>
        deciding.waiting other waiting (List.mem_filter.mp member).1 }
  exact (released.note number (by simp)).settle number _ next.standing

theorem advance (deciding : Deciding validators traffic)
    (steady : ∀ validator ∈ validators, validator.IsSteady) {later : Traffic}
    (advance : traffic.Advance later) : Deciding validators later := by
  cases advance with
  | housekeeping sheds =>
      exact deciding.shrink (.mapCache traffic.chain fun cache => (sheds cache).toWithin)
  | wait duration => exact { deciding with }
  | begin token => exact deciding.begin steady token
  | hear waits _ => exact deciding.hear steady waits

theorem run (deciding : Deciding validators traffic)
    (steady : ∀ validator ∈ validators, validator.IsSteady) (moves : List Move) :
    Deciding validators (traffic.run moves) :=
  Traffic.run_induction (fun _ _ moved holds => holds.advance steady moved) deciding moves

end Deciding

/-- When what validators say of a token depends on the token alone, a chain with a cache gives the
verdicts of a chain without one, which are the decisions of the validators: command by command when
calls are made one after the other or started together, and call by call when they overlap in any
order, be it another one than without the cache. -/
theorem caching_keeps_verdicts (validators : List Validator)
    (steady : ∀ validator ∈ validators, validator.IsSteady) (ttl : Nat) :
    (∀ commands,
      (ClockedChain.ofValidators validators (some ttl)).verdicts commands =
          (ClockedChain.ofValidators validators none).verdicts commands ∧
        (ClockedChain.ofValidators validators none).verdicts commands =
          commands.map fun command =>
            command.tokens.map fun token => decision token validators) ∧
    ∀ moves otherMoves,
      ∀ cached ∈ ((Traffic.ofValidators validators (some ttl)).run moves).history,
      ∀ plain ∈ ((Traffic.ofValidators validators none).run otherMoves).history,
      ∀ verdict origin plainVerdict plainOrigin,
        cached.event = .returned verdict origin →
        plain.event = .returned plainVerdict plainOrigin →
        cached.token = plain.token → verdict = plainVerdict := by
  have decided (ttl? : Option Nat) (commands : List Command) :
      (ClockedChain.ofValidators validators ttl?).verdicts commands =
        commands.map fun command => command.tokens.map fun token => decision token validators :=
    ClockedChain.verdicts_of_agrees steady (.ofValidators validators ttl?) commands
  constructor
  · intro commands
    exact ⟨(decided (some ttl) commands).trans (decided none commands).symm, decided none commands⟩
  · intro moves otherMoves cached cachedMember plain plainMember verdict origin plainVerdict
      plainOrigin cachedReturned plainReturned sameToken
    have cachedRun := (Deciding.ofValidators validators (some ttl)).run steady moves
    have plainRun := (Deciding.ofValidators validators none).run steady otherMoves
    calc verdict
        = decision cached.token validators :=
          cachedRun.returned cached cachedMember verdict origin cachedReturned
      _ = decision plain.token validators := by rw [sameToken]
      _ = plainVerdict :=
          (plainRun.returned plain plainMember plainVerdict plainOrigin plainReturned).symm

/-- The first validator can never be reached, slower each time, and the second one accepts one
token. Look-ups hit and miss, entries grow stale, and an eviction comes in between. -/
theorem caching_keeps_verdicts_during_outage :
    let accepted : Verdict := { valid := true, clientId := some "portal", scopes := ["read"] }
    let outage : Validator :=
      ⟨"a", fun earlier _ => { delay := earlier.length, result := .error .connection }⟩
    let issuer : Validator :=
      ⟨"b", fun _ token =>
        { delay := 5, result := .ok (if token = "t" then accepted else .invalid) }⟩
    let commands : List Command :=
      [.validate "t", .wait 3, .together ["t", "u", "t"], .evict, .wait 55, .together ["u", "t"],
        .startSweeping 20, .wait 60, .validate "u"]
    (∀ validator ∈ [outage, issuer], validator.IsSteady) ∧
      (ClockedChain.ofValidators [outage, issuer] (some 60)).verdicts commands =
        (ClockedChain.ofValidators [outage, issuer] none).verdicts commands ∧
      (ClockedChain.ofValidators [outage, issuer] none).verdicts commands =
        [[accepted], [], [accepted, .invalid, accepted], [], [], [.invalid, accepted], [], [],
          [.invalid]] := by
  intro accepted outage issuer commands
  have steady : ∀ validator ∈ [outage, issuer], validator.IsSteady := by
    intro validator member earlier token
    simp only [List.mem_cons, List.not_mem_nil, or_false] at member
    rcases member with rfl | rfl <;> rfl
  obtain ⟨same, decided⟩ := (caching_keeps_verdicts [outage, issuer] steady 60).1 commands
  exact ⟨steady, same, decided.trans (by decide)⟩

end GroupFederation.Token
