import GroupFederation.Proofs.Token.Course
import GroupFederation.Proofs.Token.Provenance
import GroupFederation.Proofs.Token.Renewal

/-!
# Look-ups and evaluations

With a cache every call is one look-up, a hit or a miss. A hit asks no validator and a miss makes
one evaluation; without a cache nothing is looked up and every call evaluates. An evaluation of a
token in which somebody has answered is the last one until the time to live has passed.
-/

namespace GroupFederation.Token

/-- Whether a verdict is returned from the cache. -/
def Event.isServed : Event → Bool
  | .returned _ .cache => true
  | _ => false

/-- Whether a call has been answered from the cache. -/
def isServed (history : List Occurrence) (number : Nat) : Bool :=
  (eventsOf number history).any Event.isServed

/-- How many of the calls that have begun have been answered from the cache. -/
def Traffic.served (traffic : Traffic) : Nat :=
  (List.range traffic.started).countP (isServed traffic.history)

theorem isServed_note (traffic : Traffic) (number : Nat) (token : String) (event : Event) :
    isServed (traffic.note number token event).history = fun other =>
      isServed traffic.history other || (other == number && event.isServed) := by
  funext other
  by_cases same : other = number
  · subst same
    simp [isServed, eventsOf_note_self]
  · simp [isServed, eventsOf_note_of_ne traffic token event same, same]

/-- The calls answered from the cache after one more call has begun. -/
theorem served_of_begun {traffic later : Traffic} (begun : later.started = traffic.started + 1)
    (same : ∀ number < traffic.started,
      isServed later.history number = isServed traffic.history number) :
    later.served = traffic.served + if isServed later.history traffic.started then 1 else 0 := by
  have earlier : (List.range traffic.started).countP (isServed later.history) = traffic.served :=
    List.countP_congr fun number member => by rw [same number (List.mem_range.mp member)]
  rw [Traffic.served, begun, List.range_succ, List.countP_append, earlier, List.countP_singleton]

/-- The counts of a chain in use agree with its history. -/
structure Counted (isCached : Bool) (traffic : Traffic) : Prop where
  cached : traffic.chain.cache.isSome = isCached
  unborn : ∀ number, traffic.started ≤ number → isServed traffic.history number = false
  hits : traffic.chain.lookups.count .hit = traffic.served
  all : traffic.chain.lookups.count .hit + traffic.chain.lookups.count .miss =
    if isCached then traffic.started else 0

namespace Counted

variable {isCached : Bool} {traffic : Traffic}

theorem ofValidators (validators : List Validator) (ttl? : Option Nat) :
    Counted ttl?.isSome (.ofValidators validators ttl?) where
  cached := by simp [Traffic.ofValidators, Chain.ofValidators]
  unborn number _ := by simp [Traffic.ofValidators, isServed, eventsOf]
  hits := rfl
  all := by simp [Traffic.ofValidators, Chain.ofValidators]

/-- The chain may change without look-ups. -/
theorem rechain (counted : Counted isCached traffic) (chain : Chain)
    (cached : chain.cache.isSome = traffic.chain.cache.isSome)
    (lookups : chain.lookups = traffic.chain.lookups) :
    Counted isCached { traffic with chain := chain } :=
  { counted with
    cached := cached.trans counted.cached
    hits := lookups ▸ counted.hits
    all := lookups ▸ counted.all }

/-- Nothing is returned from the cache. -/
theorem note (counted : Counted isCached traffic) (number : Nat) (token : String) (event : Event)
    (unserved : event.isServed = false) : Counted isCached (traffic.note number token event) := by
  have same : isServed (traffic.note number token event).history = isServed traffic.history := by
    simp [isServed_note, unserved]
  refine { counted with unborn := ?_, hits := ?_ }
  · rw [same]
    exact counted.unborn
  · rw [Traffic.served, same]
    exact counted.hits

/-- A call begins with a hit, and a verdict is returned from the cache. -/
theorem hit (counted : Counted isCached traffic) (token : String) (verdict : Verdict)
    (present : traffic.chain.cache.isSome) :
    Counted isCached
      (({ traffic with
          chain := (traffic.chain.sweepUpTo traffic.now).count .hit
          started := traffic.started + 1 }.note traffic.started token .called).note
        traffic.started token (.returned verdict .cache)) where
  cached := by simpa [Traffic.note, Chain.count, Chain.sweepUpTo] using counted.cached
  unborn number later := by
    have differ : number ≠ traffic.started := Nat.ne_of_gt later
    simp [isServed_note, differ, counted.unborn number (Nat.le_of_lt later)]
  hits := by
    have same (other : Nat) (earlier : other < traffic.started) :
        (other == traffic.started) = false := by simpa using Nat.ne_of_lt earlier
    rw [served_of_begun rfl fun other earlier => by simp [isServed_note, same other earlier],
      isServed_note]
    simp [Traffic.note, Chain.count, Chain.sweepUpTo, Tally.count_add, counted.hits,
      Event.isServed]
  all := by
    have all := counted.all
    rw [← counted.cached, present, if_pos rfl] at all
    rw [← counted.cached, present, if_pos rfl]
    simp only [Traffic.note, Chain.count, Chain.sweepUpTo, Tally.count_add, if_true, reduceCtorEq,
      if_false]
    omega

/-- A look-up that finds nothing counts a miss, if there is a cache. -/
theorem lookups_afterMiss (chain : Chain) (now : Nat) (token : String) :
    (chain.afterMiss now token).lookups =
      if chain.cache.isSome then chain.lookups.add .miss else chain.lookups := by
  cases present : chain.cache with
  | none => simp [Chain.afterMiss, Chain.sweepUpTo, present]
  | some cache => simp [Chain.afterMiss, Chain.sweepUpTo, Chain.count, present]

/-- A call begins with a miss, or without a cache. -/
theorem miss (counted : Counted isCached traffic) (token : String) :
    Counted isCached
      ({ traffic with
          chain := traffic.chain.afterMiss traffic.now token
          started := traffic.started + 1 }.note traffic.started token .called) where
  cached := by
    rw [← counted.cached]
    exact (congrArg Option.isSome (Traffic.cache_afterMiss _ _ _)).trans Option.isSome_map
  unborn number later := by
    simp [isServed_note, Event.isServed, counted.unborn number (Nat.le_of_succ_le later)]
  hits := by
    rw [served_of_begun rfl fun other earlier => by simp [isServed_note, Event.isServed],
      isServed_note]
    have unserved := counted.unborn traffic.started (Nat.le_refl _)
    simp only [Event.isServed, unserved, Traffic.note, lookups_afterMiss, ← counted.hits]
    split <;> simp [Tally.count_add]
  all := by
    have all := counted.all
    rw [← counted.cached] at all ⊢
    simp only [Traffic.note, lookups_afterMiss]
    split
    · next present =>
        simp only [present, if_true] at all
        simp only [Tally.count_add, reduceCtorEq, if_true, if_false]
        omega
    · next absent => simpa [absent] using all

theorem opened (counted : Counted isCached traffic) {opened : Traffic} {number place : Nat}
    {token : String} {isAnswered : Bool}
    (opening : traffic.Opening opened number token place isAnswered) : Counted isCached opened := by
  cases opening with
  | call absent => exact counted.miss token
  | @hear _ call waits arrived refused =>
      have swept := counted.rechain (traffic.chain.sweepUpTo traffic.now)
        (by simp [Chain.sweepUpTo]) rfl
      have released : Counted isCached
          { traffic with
            chain := traffic.chain.sweepUpTo traffic.now
            waiting := traffic.waiting.filter fun entry => entry.1 != number } := { swept with }
      exact released.note number call.token (.answered call.place call.result) rfl

theorem transition (counted : Counted isCached traffic) {later : Traffic}
    (moved : traffic.Transition later) : Counted isCached later := by
  cases moved with
  | housekeeping sheds => exact counted.rechain _ (by simp [Chain.mapCache]) rfl
  | wait duration => exact { counted with }
  | @serve token verdict remembered =>
      exact counted.hit token verdict (Traffic.isSome_cache_of_remembered remembered)
  | @accept number call verdict waits arrived answer valid =>
      have remembering := counted.rechain
        ((traffic.chain.sweepUpTo traffic.now).remember traffic.now call.token verdict)
        (by simp [Chain.sweepUpTo, Chain.remember]) rfl
      have released : Counted isCached
          { traffic with
            chain := (traffic.chain.sweepUpTo traffic.now).remember traffic.now call.token verdict
            waiting := traffic.waiting.filter fun entry => entry.1 != number } :=
        { remembering with }
      have answered := released.note number call.token (.answered call.place (.ok verdict)) rfl
      exact answered.note number call.token (.returned verdict (.evaluation true)) rfl
  | @ask opened number place token isAnswered desk opening found =>
      have asking := (counted.opened opening).rechain
        (opened.chain.afterAsking place token (desk.validator.appraise desk.asked token))
        rfl rfl
      have noted := asking.note number token (.asked place) rfl
      exact { noted with }
  | @exhaust opened number place token isAnswered opening absent =>
      have ending := (counted.opened opening).rechain
        (if isAnswered then opened.chain.remember opened.now token .invalid
          else opened.chain)
        (by cases isAnswered <;> simp [Chain.remember]) (by cases isAnswered <;> rfl)
      exact ending.note number token (.returned .invalid (.evaluation isAnswered)) rfl

theorem run (counted : Counted isCached traffic) (moves : List Move) :
    Counted isCached (traffic.run moves) :=
  Traffic.run_induction (fun _ _ advance holds => holds.transition advance.transition) counted moves

end Counted

/-- In whatever order calls, evictions, sweeps and the passing of time are interleaved: with a cache
the hits are the calls that were answered from the cache and the misses are the others, so that both
together are as many as the calls; without a cache nothing is counted. Every call is either answered
from the cache, which only a cache does, and asks nobody, or it makes one evaluation; and the
validators have been asked by these calls and by nobody else. An evaluation that begins after the
end of another one of its token in which somebody answered begins no sooner than a time to live
after that end, whether or not calls overlap. -/
theorem lookup_accounting (validators : List Validator) (ttl? : Option Nat) (moves : List Move) :
    let traffic := (Traffic.ofValidators validators ttl?).run moves
    let hits := traffic.chain.lookups.count .hit
    let misses := traffic.chain.lookups.count .miss
    (hits + misses = if ttl?.isSome then traffic.started else 0) ∧
    hits = (List.range traffic.started).countP (isServed traffic.history) ∧
    (∀ number < traffic.started,
      HasCourse validators.length ttl?.isSome (eventsOf number traffic.history)) ∧
    (∀ place, traffic.chain.desks[place]?.map Desk.asked =
      validators[place]?.map fun _ => askedAt place traffic.history) ∧
    ∀ ttl before ended between asked after, ttl? = some ttl →
      traffic.history = before ++ ended :: between ++ asked :: after →
      ended.concludes asked.token → asked.event = .asked 0 →
        ended.time + ttl ≤ asked.time := by
  intro traffic hits misses
  have counted := (Counted.ofValidators validators ttl?).run moves
  have onCourse := (OnCourse.ofValidators validators ttl?).run moves
  have traced := (Traced.ofValidators validators ttl?).run moves
  have renewing := (Renewing.ofValidators validators ttl?).run moves
  refine ⟨counted.all, counted.hits, fun number begun => ?_, fun place => ?_, ?_⟩
  · exact onCourse.course number begun (by simp)
  · rw [traced.desks place, Option.map_map]
    rfl
  · intro ttl before ended between asked after isTtl split concludes isFirst
    exact renewing.le_time_of_asked isTtl split concludes isFirst

-- A refusal is remembered for as long as the time to live, counted from the end of its evaluation,
-- and asked for again at that very time.
example :
    let refusing : Validator := ⟨"a", fun _ _ => { delay := 5, result := .ok .invalid }⟩
    let traffic := (Traffic.ofValidators [refusing] (some 60)).run
      [.call "t", .wait 5, .hear 0, .wait 59, .call "t", .wait 1, .call "t"]
    (traffic.chain.lookups.count .hit, traffic.chain.lookups.count .miss) = (1, 2) ∧
      (traffic.history.filter fun occurrence => occurrence.event.asks 0).map Occurrence.time =
        [0, 65] := by
  decide

end GroupFederation.Token
