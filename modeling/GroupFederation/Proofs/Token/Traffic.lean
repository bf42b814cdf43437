import GroupFederation.Token.Chain

/-!
# Calls in any order

Calls to one chain overlap as they like, and between any two of their moments stale entries may be
evicted, background sweeps may run, and time may pass. `Traffic` is a chain in such use; its moves
are the moments of the chain itself, `Chain.start` and `Chain.receive`, taken in whatever order.
What validators are asked, what they answer and what calls return is written into a history.

The history is there to be talked about only. No move depends on it.
-/

namespace GroupFederation.Token

/-- What a call takes its verdict from. -/
inductive Origin where
  | cache
  /-- An evaluation, and whether some validator has answered in it. -/
  | evaluation (isAnswered : Bool)
  deriving DecidableEq, Repr

/-- What happens to a call. -/
inductive Event where
  | called
  /-- The validator at a place is asked. -/
  | asked (place : Nat)
  | answered (place : Nat) (result : Except Failure Verdict)
  | returned (verdict : Verdict) (origin : Origin)

/-- An event with the time, the number of its call, and the token that the call is about. -/
structure Occurrence where
  time : Nat
  number : Nat
  token : String
  event : Event

/-- Something that can be done to a chain in use. -/
inductive Move where
  /-- A call for a token begins; calls are numbered in that order. -/
  | call (token : String)
  /-- A call takes in the answer that it waits for, if that has arrived. -/
  | hear (number : Nat)
  | evict
  /-- A background sweep, whenever it may come. -/
  | sweep
  | startSweeping (interval : Nat)
  | stopSweeping (number : Nat)
  | wait (duration : Nat)
  deriving DecidableEq, Repr

/-- A chain in use, on one clock. -/
structure Traffic where
  chain : Chain
  now : Nat := 0
  /-- How many calls have begun. -/
  started : Nat := 0
  waiting : List (Nat × Call) := []
  history : List Occurrence := []

namespace Chain

/-- Replace the cache, if there is one. -/
def mapCache (chain : Chain) (change : Cache → Cache) : Chain :=
  { chain with cache := chain.cache.map change }

/-- The verdict that the cache has for a token once the sweeps that are due have run. -/
def remembered? (chain : Chain) (now : Nat) (token : String) : Option Verdict :=
  (chain.sweepUpTo now).cache.bind fun cache => (cache.get now token).1

/-- The chain after a look-up that has found nothing. -/
def afterMiss (chain : Chain) (now : Nat) (token : String) : Chain :=
  match (chain.sweepUpTo now).cache with
  | none => chain.sweepUpTo now
  | some cache => { chain.sweepUpTo now with cache := some (cache.get now token).2 }.count .miss

/-- The chain after the validator at a place has been asked. -/
def afterAsking (chain : Chain) (place : Nat) (token : String) (appraisal : Appraisal) : Chain :=
  { chain with
    desks := chain.desks.modify place fun desk => { desk with asked := desk.asked ++ [token] }
    sent := chain.sent ++ appraisal.sent }

/-! ## What the moments of a call can do -/

/-- A remembered verdict is returned at once. -/
theorem start_of_remembered {chain : Chain} {now : Nat} {token : String} {verdict : Verdict}
    (remembered : chain.remembered? now token = some verdict) :
    chain.start now token = ((chain.sweepUpTo now).count .hit, .decided verdict) := by
  simp only [remembered?, Option.bind_eq_some_iff] at remembered
  obtain ⟨cache, present, found⟩ := remembered
  have untouched : cache.get now token = (some verdict, cache) := by
    revert found
    simp only [Cache.get]
    cases cache.stored? token with
    | none => simp
    | some entry => by_cases fresh : cache.isFresh now entry <;> simp [fresh]
  have same : ({ chain.sweepUpTo now with cache := some cache } : Chain) =
      chain.sweepUpTo now := by
    rw [← present]
  simp only [start, present, untouched, same]

/-- Without a remembered verdict the first validator is asked. -/
theorem start_of_not_remembered {chain : Chain} {now : Nat} {token : String}
    (absent : chain.remembered? now token = none) :
    chain.start now token = (chain.afterMiss now token).proceed now token 0 false := by
  simp only [remembered?] at absent
  cases present : (chain.sweepUpTo now).cache with
  | none => simp only [start, afterMiss, present]
  | some cache =>
      rw [present, Option.bind_some] at absent
      have lookedUp : cache.get now token = (none, (cache.get now token).2) :=
        Prod.ext absent rfl
      simp only [start, afterMiss, present]
      rw [lookedUp]

theorem proceed_of_desk {chain : Chain} {now place : Nat} {token : String} {isAnswered : Bool}
    {desk : Desk} (found : chain.desks[place]? = some desk) :
    chain.proceed now token place isAnswered =
      (chain.afterAsking place token (desk.validator.appraise desk.asked token),
        .waiting ⟨token, place, isAnswered,
          now + (desk.validator.appraise desk.asked token).delay,
          (desk.validator.appraise desk.asked token).result⟩) := by
  simp only [proceed, found, afterAsking]

theorem proceed_of_no_desk {chain : Chain} {now place : Nat} {token : String} {isAnswered : Bool}
    (absent : chain.desks[place]? = none) :
    chain.proceed now token place isAnswered =
      (if isAnswered then chain.remember now token .invalid else chain, .decided .invalid) := by
  simp only [proceed, absent]

/-- An answer is a positive verdict, or the next validator is asked. -/
theorem accepts_or_refuses (result : Except Failure Verdict) :
    (∃ verdict, result = .ok verdict ∧ verdict.valid) ∨
      ∀ verdict, result = .ok verdict → verdict.valid = false := by
  cases result with
  | error failure => exact .inr fun verdict same => nomatch same
  | ok given =>
      cases valid : given.valid with
      | true => exact .inl ⟨given, rfl, valid⟩
      | false =>
          refine .inr fun verdict same => ?_
          cases same
          exact valid

/-- A positive verdict ends a call and is remembered. -/
theorem receive_of_accepting {chain : Chain} {now : Nat} {call : Call} {verdict : Verdict}
    (answer : call.result = .ok verdict) (valid : verdict.valid) :
    chain.receive now call =
      ((chain.sweepUpTo now).remember now call.token verdict, .decided verdict) := by
  simp only [receive, answer, valid, if_true]

/-- After a failure or a negative verdict the next validator is asked. -/
theorem receive_of_not_accepting {chain : Chain} {now : Nat} {call : Call}
    (refused : ∀ verdict, call.result = .ok verdict → verdict.valid = false) :
    chain.receive now call = (chain.sweepUpTo now).proceed now call.token (call.place + 1)
      (call.isAnswered || call.result.isOk) := by
  cases answer : call.result with
  | ok verdict => simp [receive, answer, refused verdict answer, Except.isOk, Except.toBool]
  | error failure => simp [receive, answer, Except.isOk, Except.toBool]

end Chain

namespace Traffic

/-- A chain of validators that nobody has used yet, with an empty cache if there is to be one. -/
def ofValidators (validators : List Validator) (ttl? : Option Nat) : Traffic :=
  { chain := .ofValidators validators (ttl?.map fun ttl => { ttl := ttl }) }

/-- Write an event down. -/
def note (traffic : Traffic) (number : Nat) (token : String) (event : Event) : Traffic :=
  { traffic with history := traffic.history ++ [⟨traffic.now, number, token, event⟩] }

/-- Put a call where it stands now. -/
def settle (traffic : Traffic) (number : Nat) (token : String) (origin : Origin) :
    Standing → Traffic
  | .decided verdict => traffic.note number token (.returned verdict origin)
  | .waiting call =>
      { traffic.note number token (.asked call.place) with
        waiting := traffic.waiting ++ [(number, call)] }

/-- A call begins. -/
def begin (traffic : Traffic) (token : String) : Traffic :=
  let origin : Origin :=
    if (traffic.chain.remembered? traffic.now token).isSome then .cache else .evaluation false
  let (chain, standing) := traffic.chain.start traffic.now token
  ({ traffic with chain := chain, started := traffic.started + 1 }.note traffic.started token
    .called).settle traffic.started token origin standing

/-- A call takes in its answer. -/
def hear (traffic : Traffic) (number : Nat) (call : Call) : Traffic :=
  let (chain, standing) := traffic.chain.receive traffic.now call
  ({ traffic with
      chain := chain
      waiting := traffic.waiting.filter fun entry => entry.1 != number }.note number call.token
    (.answered call.place call.result)).settle number call.token
    (.evaluation (call.isAnswered || call.result.isOk)) standing

/-- One move; an answer that nobody waits for, or that has not arrived, changes nothing. -/
def step (traffic : Traffic) : Move → Traffic
  | .call token => traffic.begin token
  | .hear number =>
      match traffic.waiting.lookup number with
      | none => traffic
      | some call => if call.due ≤ traffic.now then traffic.hear number call else traffic
  | .evict => { traffic with chain := (traffic.chain.evict traffic.now).2 }
  | .sweep => { traffic with chain := traffic.chain.mapCache fun cache => cache.sweep traffic.now }
  | .startSweeping interval =>
      { traffic with
        chain := traffic.chain.mapCache fun cache => (cache.startSweeping traffic.now interval).2 }
  | .stopSweeping number =>
      { traffic with chain := traffic.chain.mapCache fun cache => cache.stopSweeping number }
  | .wait duration => { traffic with now := traffic.now + duration }

/-- Several moves, one after the other. -/
def run (traffic : Traffic) (moves : List Move) : Traffic :=
  moves.foldl step traffic

end Traffic

end GroupFederation.Token
