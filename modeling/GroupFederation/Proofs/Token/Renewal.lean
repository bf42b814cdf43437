import GroupFederation.Proofs.Token.History
import GroupFederation.Proofs.Token.Transition

/-!
# When a token is evaluated anew

The cache remembers the last evaluation of every token in which somebody answered: it holds what the
history says about that evaluation for as long as that is fresh, whatever happens to other tokens
and however evictions and sweeps fall. An evaluation that begins after such a one has ended
therefore begins no sooner than a time to live after its end.
-/

namespace GroupFederation.Token

namespace Memory

/-- An evaluation in which somebody has answered leaves its verdict behind. -/
def learn (memory : Memory) (occurrence : Occurrence) : Memory :=
  match occurrence.event with
  | .returned verdict (.evaluation true) =>
      memory.store occurrence.time occurrence.token verdict
  | _ => memory

/-- What is to be remembered of a history. -/
def ofHistory (history : List Occurrence) : Memory :=
  history.foldl learn .empty

theorem ofHistory_append_singleton (history : List Occurrence) (occurrence : Occurrence) :
    ofHistory (history ++ [occurrence]) = (ofHistory history).learn occurrence := by
  simp [ofHistory]

/-- What was remembered of a token stays unless it is concluded anew. -/
theorem learn_of_not_concludes {memory : Memory} {occurrence : Occurrence} {token : String}
    (other : occurrence.concludes token = false) :
    memory.learn occurrence token = memory token := by
  obtain ⟨time, number, owner, event⟩ := occurrence
  cases event with
  | returned verdict origin =>
      cases origin with
      | cache => rfl
      | evaluation isAnswered =>
          cases isAnswered with
          | false => rfl
          | true =>
              have differ : token ≠ owner := by
                rintro rfl
                simp [Occurrence.concludes] at other
              simp [learn, store, differ]
  | _ => rfl

/-- An event that concludes nothing leaves nothing behind. -/
theorem learn_of_inert {memory : Memory} {occurrence : Occurrence}
    (inert : ∀ token, occurrence.concludes token = false) :
    memory.learn occurrence = memory :=
  funext fun token => learn_of_not_concludes (inert token)

/-- A conclusion replaces what was remembered of its token. -/
theorem learn_of_concludes {memory : Memory} {occurrence : Occurrence} {token : String}
    (concludes : occurrence.concludes token) :
    ∃ verdict, memory.learn occurrence token = some (verdict, occurrence.time) := by
  simp only [Occurrence.concludes, Bool.and_eq_true, beq_iff_eq] at concludes
  obtain ⟨same, event⟩ := concludes
  split at event
  · next verdict isAnswered returned =>
      subst event
      exact ⟨verdict, by simp [learn, returned, store, same]⟩
  · exact absurd event (by simp)

end Memory

/-- The cache of a chain in use remembers what its history says, and no evaluation has begun too
soon after another one. -/
structure Renewing (ttl? : Option Nat) (traffic : Traffic) : Prop where
  ttl : traffic.chain.cache.map Cache.ttl = ttl?
  stored : ∀ cache ∈ traffic.chain.cache,
    cache.Remembers traffic.now (.ofHistory traffic.history)
  past : ∀ occurrence ∈ traffic.history, occurrence.time ≤ traffic.now
  latest : ∀ ended ∈ traffic.history, ∀ token, ended.concludes token →
    ∃ verdict time, Memory.ofHistory traffic.history token = some (verdict, time) ∧
      ended.time ≤ time
  spaced : ∀ before asked, before ++ [asked] <+: traffic.history → asked.event = .asked 0 →
    ∀ ttl ∈ ttl?, ∀ ended ∈ before, ended.concludes asked.token →
      ended.time + ttl ≤ asked.time

namespace Renewing

variable {ttl? : Option Nat} {traffic : Traffic}

theorem ofValidators (validators : List Validator) (ttl? : Option Nat) :
    Renewing ttl? (.ofValidators validators ttl?) where
  ttl := by simp [Traffic.ofValidators, Chain.ofValidators, Function.comp_def]
  stored cache member := by
    simp only [Traffic.ofValidators, Chain.ofValidators, Option.mem_def,
      Option.map_eq_some_iff] at member
    obtain ⟨ttl, -, rfl⟩ := member
    exact .empty ttl 0
  past occurrence member := by simp [Traffic.ofValidators] at member
  latest ended member := by simp [Traffic.ofValidators] at member
  spaced before asked begins := by simp [Traffic.ofValidators] at begins

/-- The cache may be replaced by one that remembers as much. -/
theorem replace (renewing : Renewing ttl? traffic) {chain : Chain} {change : Cache → Cache}
    (changed : chain.cache = traffic.chain.cache.map change)
    (sheds : ∀ cache ∈ traffic.chain.cache, (change cache).Sheds traffic.now cache) :
    Renewing ttl? { traffic with chain := chain } :=
  { renewing with
    ttl := by
      rw [← renewing.ttl, changed, Option.map_map]
      exact Option.map_congr fun cache member => (sheds cache member).ttl
    stored := fun cache member => by
      simp only [changed, Option.mem_def, Option.map_eq_some_iff] at member
      obtain ⟨other, present, rfl⟩ := member
      exact (renewing.stored other present).shed (sheds other present) }

theorem elapse (renewing : Renewing ttl? traffic) (duration : Nat) :
    Renewing ttl? { traffic with now := traffic.now + duration } :=
  { renewing with
    stored := fun cache member =>
      (renewing.stored cache member).elapse (Nat.le_add_right traffic.now duration)
    past := fun occurrence member =>
      Nat.le_trans (renewing.past occurrence member) (Nat.le_add_right _ _) }

/-- One more occurrence, with what the move behind it does to the cache. -/
theorem extend (renewing : Renewing ttl? traffic) {chain : Chain} {number : Nat} {token : String}
    {event : Event} (ttl : chain.cache.map Cache.ttl = ttl?)
    (stored : ∀ cache ∈ chain.cache, cache.Remembers traffic.now
      ((Memory.ofHistory traffic.history).learn ⟨traffic.now, number, token, event⟩))
    (spaced : event = .asked 0 → ∀ ttl ∈ ttl?, ∀ ended ∈ traffic.history,
      ended.concludes token → ended.time + ttl ≤ traffic.now) :
    Renewing ttl? ({ traffic with chain := chain }.note number token event) where
  ttl := ttl
  stored cache member := by
    simp only [Traffic.note, Memory.ofHistory_append_singleton]
    exact stored cache member
  past occurrence member := by
    rcases List.mem_append.mp member with earlier | new
    · exact renewing.past occurrence earlier
    · rw [List.mem_singleton.mp new]
      exact Nat.le_refl _
  latest ended member other concludes := by
    simp only [Traffic.note, Memory.ofHistory_append_singleton] at member ⊢
    rcases List.mem_append.mp member with earlier | new
    · -- An earlier conclusion is still the last one, or it is replaced by a later one.
      cases again : Occurrence.concludes ⟨traffic.now, number, token, event⟩ other with
      | true =>
          obtain ⟨verdict, learned⟩ := Memory.learn_of_concludes again
          exact ⟨verdict, traffic.now, learned, renewing.past ended earlier⟩
      | false =>
          rw [Memory.learn_of_not_concludes again]
          exact renewing.latest ended earlier other concludes
    · rw [List.mem_singleton.mp new] at concludes ⊢
      obtain ⟨verdict, learned⟩ := Memory.learn_of_concludes concludes
      exact ⟨verdict, traffic.now, learned, Nat.le_refl _⟩
  spaced before asked begins isFirst := by
    rcases List.prefix_concat_iff.mp begins with whole | earlier
    · obtain ⟨rfl, same⟩ := List.append_inj' whole rfl
      obtain rfl := List.singleton_inj.mp same
      exact spaced isFirst
    · exact renewing.spaced before asked earlier isFirst

/-- An occurrence that begins and concludes no evaluation. -/
theorem note (renewing : Renewing ttl? traffic) (number : Nat) (token : String) (event : Event)
    (inert : ∀ other,
      (Occurrence.mk traffic.now number token event).concludes other = false)
    (begins : event ≠ .asked 0) : Renewing ttl? (traffic.note number token event) := by
  refine renewing.extend renewing.ttl (fun cache member => ?_) fun first => absurd first begins
  rw [Memory.learn_of_inert inert]
  exact renewing.stored cache member

/-- An evaluation ends in which somebody has answered, and its verdict is stored. -/
theorem conclude (renewing : Renewing ttl? traffic) (number : Nat) (token : String)
    (verdict : Verdict) :
    Renewing ttl?
      ({ traffic with chain := traffic.chain.remember traffic.now token verdict }.note number token
        (.returned verdict (.evaluation true))) := by
  refine renewing.extend ?_ (fun cache member => ?_) fun first => by simp at first
  · rw [← renewing.ttl, Chain.remember, Option.map_map]
    rfl
  · simp only [Chain.remember, Option.mem_def, Option.map_eq_some_iff] at member
    obtain ⟨other, present, rfl⟩ := member
    exact (renewing.stored other present).put token verdict

/-- Whoever finds nothing remembered comes a time to live after the last conclusion. -/
theorem stale_of_not_remembered (renewing : Renewing ttl? traffic) {token : String}
    (absent : traffic.chain.remembered? traffic.now token = none) :
    ∀ ttl ∈ ttl?, ∀ ended ∈ traffic.history, ended.concludes token →
      ended.time + ttl ≤ traffic.now := by
  intro ttl isTtl ended member concludes
  obtain ⟨verdict, time, stored, ordered⟩ := renewing.latest ended member token concludes
  have isPast := renewing.past ended member
  rw [← renewing.ttl, Option.mem_def, Option.map_eq_some_iff] at isTtl
  obtain ⟨cache, present, rfl⟩ := isTtl
  have sheds := Cache.Sheds.sweepUpTo cache traffic.now
  have remembers := (renewing.stored cache present).shed sheds
  have nothing :
      (Memory.ofHistory traffic.history).current? cache.ttl traffic.now token = none := by
    rw [← sheds.ttl, ← remembers.get_eq_current?]
    simpa [Chain.remembered?, Chain.sweepUpTo, present] using absent
  have stale : cache.ttl ≤ traffic.now - time := by
    simpa [Memory.current?, stored] using nothing
  omega

/-! ## Every move keeps the invariant -/

theorem afterMiss (renewing : Renewing ttl? traffic) (token : String) :
    Renewing ttl? { traffic with chain := traffic.chain.afterMiss traffic.now token } := by
  refine renewing.replace (Traffic.cache_afterMiss traffic.chain traffic.now token)
    fun cache member => ?_
  have sheds := Cache.Sheds.sweepUpTo cache traffic.now
  exact (((renewing.stored cache member).shed sheds).sheds_get token).trans sheds

theorem sweepUpTo (renewing : Renewing ttl? traffic) :
    Renewing ttl? { traffic with chain := traffic.chain.sweepUpTo traffic.now } :=
  renewing.replace rfl fun cache _ => .sweepUpTo cache traffic.now

theorem opened (renewing : Renewing ttl? traffic) {opened : Traffic} {number place : Nat}
    {token : String} {isAnswered : Bool}
    (opening : traffic.Opening opened number token place isAnswered) :
    Renewing ttl? opened ∧
      (place = 0 → ∀ ttl ∈ ttl?, ∀ ended ∈ opened.history, ended.concludes token →
        ended.time + ttl ≤ opened.now) := by
  cases opening with
  | call absent =>
      have counted : Renewing ttl?
          { traffic with
            chain := traffic.chain.afterMiss traffic.now token
            started := traffic.started + 1 } := { renewing.afterMiss token with }
      have noted := counted.note traffic.started token .called
        (fun other => by simp [Occurrence.concludes]) (by simp)
      refine ⟨noted, fun _ ttl isTtl ended member concludes => ?_⟩
      rcases List.mem_append.mp member with earlier | new
      · exact renewing.stale_of_not_remembered absent ttl isTtl ended earlier concludes
      · rw [List.mem_singleton.mp new] at concludes
        simp [Occurrence.concludes] at concludes
  | @hear _ call waits arrived refused =>
      have released : Renewing ttl?
          { traffic with
            chain := traffic.chain.sweepUpTo traffic.now
            waiting := traffic.waiting.filter fun entry => entry.1 != number } :=
        { renewing.sweepUpTo with }
      refine ⟨released.note number call.token (.answered call.place call.result)
        (fun other => by simp [Occurrence.concludes]) (by simp), fun first => ?_⟩
      exact absurd first (Nat.succ_ne_zero _)

theorem transition (renewing : Renewing ttl? traffic) {later : Traffic}
    (moved : traffic.Transition later) : Renewing ttl? later := by
  cases moved with
  | housekeeping sheds => exact renewing.replace rfl fun cache _ => sheds cache
  | wait duration => exact renewing.elapse duration
  | @serve token verdict remembered =>
      have counted : Renewing ttl?
          { traffic with
            chain := (traffic.chain.sweepUpTo traffic.now).count .hit
            started := traffic.started + 1 } := { renewing.sweepUpTo with }
      have noted := counted.note traffic.started token .called
        (fun other => by simp [Occurrence.concludes]) (by simp)
      exact noted.note traffic.started token (.returned verdict .cache)
        (fun other => by simp [Occurrence.concludes]) (by simp)
  | @accept number call verdict waits arrived answer valid =>
      have released : Renewing ttl?
          { traffic with
            chain := traffic.chain.sweepUpTo traffic.now
            waiting := traffic.waiting.filter fun entry => entry.1 != number } :=
        { renewing.sweepUpTo with }
      have answered := released.note number call.token (.answered call.place (.ok verdict))
        (fun other => by simp [Occurrence.concludes]) (by simp)
      exact answered.conclude number call.token verdict
  | @ask opened number place token isAnswered desk opening found =>
      obtain ⟨begun, stale⟩ := renewing.opened opening
      have noted : Renewing ttl?
          ({ opened with
            chain := opened.chain.afterAsking place token
              (desk.validator.appraise desk.asked token) }.note number token (.asked place)) := by
        refine begun.extend begun.ttl (fun cache member => ?_) fun first => ?_
        · rw [Memory.learn_of_inert fun other => by simp [Occurrence.concludes]]
          exact begun.stored cache member
        · exact stale (by simpa using first)
      exact { noted with }
  | @exhaust opened number place token isAnswered opening absent =>
      obtain ⟨begun, -⟩ := renewing.opened opening
      cases isAnswered with
      | true => exact begun.conclude number token .invalid
      | false =>
          exact begun.note number token (.returned .invalid (.evaluation false))
            (fun other => by simp [Occurrence.concludes]) (by simp)

theorem run (renewing : Renewing ttl? traffic) (moves : List Move) :
    Renewing ttl? (traffic.run moves) :=
  Traffic.run_induction (fun _ _ advance holds => holds.transition advance.transition)
    renewing moves

/-- An evaluation begins no sooner than a time to live after another one of its token has ended in
which somebody answered. -/
theorem le_time_of_asked (renewing : Renewing ttl? traffic) {ttl : Nat} (isTtl : ttl? = some ttl)
    {before between after : List Occurrence} {ended asked : Occurrence}
    (split : traffic.history = before ++ ended :: between ++ asked :: after)
    (concludes : ended.concludes asked.token) (isFirst : asked.event = .asked 0) :
    ended.time + ttl ≤ asked.time := by
  refine renewing.spaced (before ++ ended :: between) asked ⟨after, ?_⟩ isFirst ttl isTtl ended
    (by simp) concludes
  simp [split]

end Renewing

end GroupFederation.Token
