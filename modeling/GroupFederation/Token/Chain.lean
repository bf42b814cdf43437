import GroupFederation.Metrics.Tally
import GroupFederation.Token.Cache
import GroupFederation.Token.Validator

/-!
# The validation chain

The validators of a chain are asked in order until one accepts the token; that verdict is the answer
of the chain. A token that somebody rejects and nobody accepts is invalid, and so is one about which
nobody could be asked; only of the latter nothing is remembered. With a cache, a remembered verdict
is the answer and nobody is asked.

Calls overlap. A call moves on whenever the validator it waits for has answered, and between two
such moments other calls may have moved; `start`, `proceed` and `receive` are its moments.
-/

namespace GroupFederation.Token

/-- The result of a look-up in the cache. -/
inductive Lookup where
  | hit
  | miss
  deriving DecidableEq, Repr

/-- A validator with the tokens it has been asked about so far. -/
structure Desk where
  validator : Validator
  asked : List String

/-- The validators in order, the cache if there is one, and what has happened so far. -/
structure Chain where
  desks : List Desk
  cache : Option Cache
  lookups : Tally Lookup := .empty
  sent : List Http.Request := []

/-- A call that waits for a validator. -/
structure Call where
  token : String
  /-- The place of the validator that is waited for. -/
  place : Nat
  /-- Whether a validator before it has answered. -/
  isAnswered : Bool
  /-- When its answer arrives. -/
  due : Nat
  result : Except Failure Verdict

/-- Where a call stands. -/
inductive Standing where
  | decided (verdict : Verdict)
  | waiting (call : Call)

namespace Chain

/-- A chain that has not been asked anything. -/
def ofValidators (validators : List Validator) (cache : Option Cache) : Chain :=
  { desks := validators.map fun validator => ⟨validator, []⟩, cache := cache }

/-- Count a look-up. -/
def count (chain : Chain) (lookup : Lookup) : Chain :=
  { chain with lookups := chain.lookups.add lookup }

/-- Remember a verdict, if there is a cache. -/
def remember (chain : Chain) (now : Nat) (token : String) (verdict : Verdict) : Chain :=
  { chain with cache := chain.cache.map fun cache => cache.put now token verdict }

/-- Run the background sweeps that are due up to a time. -/
def sweepUpTo (chain : Chain) (now : Nat) : Chain :=
  { chain with cache := chain.cache.map fun cache => cache.sweepUpTo now }

/-- Ask the validator at a place, or come to a decision when there is none. -/
def proceed (chain : Chain) (now : Nat) (token : String) (place : Nat) (isAnswered : Bool) :
    Chain × Standing :=
  match chain.desks[place]? with
  | some desk =>
      let appraisal := desk.validator.appraise desk.asked token
      ({ chain with
          desks := chain.desks.modify place fun desk =>
            { desk with asked := desk.asked ++ [token] }
          sent := chain.sent ++ appraisal.sent },
        .waiting ⟨token, place, isAnswered, now + appraisal.delay, appraisal.result⟩)
  | none =>
      (if isAnswered then chain.remember now token .invalid else chain, .decided .invalid)

/-- A call takes in the answer it has waited for. -/
def receive (chain : Chain) (now : Nat) (call : Call) : Chain × Standing :=
  let chain := chain.sweepUpTo now
  match call.result with
  | .ok verdict =>
      if verdict.valid then (chain.remember now call.token verdict, .decided verdict)
      else chain.proceed now call.token (call.place + 1) true
  | .error _ => chain.proceed now call.token (call.place + 1) call.isAnswered

/-- A call starts: it is answered from the cache, or the first validator is asked. -/
def start (chain : Chain) (now : Nat) (token : String) : Chain × Standing :=
  let chain := chain.sweepUpTo now
  match chain.cache with
  | none => chain.proceed now token 0 false
  | some cache =>
      match cache.get now token with
      | (some verdict, cache) =>
          ({ chain with cache := some cache }.count .hit, .decided verdict)
      | (none, cache) =>
          ({ chain with cache := some cache }.count .miss).proceed now token 0 false

/-! ## One call on its own -/

/-- Follow a call to its end: the chain, the verdict, and the time at the end. The bound is on the
validators that are still to be heard. -/
def finish : (bound : Nat) → Chain → (now : Nat) → Standing → Chain × Verdict × Nat
  | _, chain, now, .decided verdict => (chain, verdict, now)
  | 0, chain, now, .waiting _ => (chain, .invalid, now)
  | bound + 1, chain, _, .waiting call =>
      let (chain, standing) := chain.receive call.due call
      finish bound chain call.due standing

/-- Validate a token while nobody else does. -/
def validate (chain : Chain) (now : Nat) (token : String) : Chain × Verdict × Nat :=
  let (started, standing) := chain.start now token
  started.finish chain.desks.length now standing

/-! ## Calls that overlap -/

/-- Several calls on one clock: those under way in the order in which they began to wait, and the
verdicts of those that have ended, each with the number of its call. -/
structure Session where
  chain : Chain
  now : Nat
  waiting : List (Nat × Call) := []
  decided : List (Nat × Verdict) := []

namespace Session

/-- Take a call to its next wait; an answer that is there at once is no wait. -/
def settle : (bound number : Nat) → Session → Standing → Session
  | _, number, session, .decided verdict =>
      { session with decided := session.decided ++ [(number, verdict)] }
  | 0, number, session, .waiting call =>
      { session with waiting := session.waiting ++ [(number, call)] }
  | bound + 1, number, session, .waiting call =>
      if call.due ≤ session.now then
        let (chain, standing) := session.chain.receive session.now call
        settle bound number { session with chain := chain } standing
      else { session with waiting := session.waiting ++ [(number, call)] }

/-- Start a call. -/
def start (session : Session) (number : Nat) (token : String) : Session :=
  let (chain, standing) := session.chain.start session.now token
  settle session.chain.desks.length number { session with chain := chain } standing

/-- The call that is answered next: the earliest one, and of several the one that has waited
longest. -/
def next? : List (Nat × Call) → Option (Nat × Call)
  | [] => none
  | entry :: entries =>
      match next? entries with
      | none => some entry
      | some other => if entry.2.due ≤ other.2.due then some entry else some other

/-- Move on to the moment at which the next call is answered. -/
def step (session : Session) : Session :=
  match next? session.waiting with
  | none => session
  | some (number, call) =>
      let (chain, standing) := session.chain.receive call.due call
      settle session.chain.desks.length number
        { session with
          chain := chain
          now := call.due
          waiting := session.waiting.eraseP fun entry => entry.1 == number }
        standing

/-- Move on for a number of steps. -/
def run : Nat → Session → Session
  | 0, session => session
  | steps + 1, session => run steps session.step

/-- The verdict of a call. -/
def verdictOf (session : Session) (number : Nat) : Verdict :=
  ((session.decided.find? fun entry => entry.1 == number).map Prod.snd).getD .invalid

end Session

/-- Validate several tokens together, started in order: the chain, the verdicts in that order, and
the time when the last call has ended. -/
def validateTogether (chain : Chain) (now : Nat) (tokens : List String) :
    Chain × List Verdict × Nat :=
  let begun := tokens.zipIdx.foldl
    (fun session (token, number) => Session.start session number token)
    { chain := chain, now := now }
  let ended := Session.run (tokens.length * chain.desks.length) begun
  (ended.chain, (List.range tokens.length).map ended.verdictOf, ended.now)

/-- Remove the stale entries of the cache and say how many there were; without a cache there is
nothing to say. -/
def evict (chain : Chain) (now : Nat) : Option Nat × Chain :=
  match chain.cache with
  | none => (none, chain)
  | some cache =>
      let (count, cache) := cache.evict now
      (some count, { chain with cache := some cache })

end Chain

end GroupFederation.Token
