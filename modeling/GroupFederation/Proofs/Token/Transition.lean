import GroupFederation.Proofs.Token.Recall
import GroupFederation.Proofs.Token.Traffic

/-!
# What a move can do

Every move on a chain in use does one of six things: it clears stale entries away, lets time pass,
answers a call from the cache, ends an evaluation with a positive verdict, asks the next validator,
or ends an evaluation because there is no further validator. A property that each of them keeps
holds of every state that can be reached.
-/

namespace GroupFederation.Token

namespace Traffic

/-- A call has come to the validator at a place: it has begun and found nothing remembered, or it
has taken in an answer that is not positive. The second state is that in which it goes on. -/
inductive Opening (traffic : Traffic) :
    (opened : Traffic) → (number : Nat) → (token : String) → (place : Nat) →
      (isAnswered : Bool) → Prop where
  | call {token : String} (absent : traffic.chain.remembered? traffic.now token = none) :
      Opening traffic
        ({ traffic with
            chain := traffic.chain.afterMiss traffic.now token
            started := traffic.started + 1 }.note traffic.started token .called)
        traffic.started token 0 false
  | hear {number : Nat} {call : Call} (waits : (number, call) ∈ traffic.waiting)
      (arrived : call.due ≤ traffic.now)
      (refused : ∀ verdict, call.result = .ok verdict → verdict.valid = false) :
      Opening traffic
        ({ traffic with
            chain := traffic.chain.sweepUpTo traffic.now
            waiting := traffic.waiting.filter fun entry => entry.1 != number }.note number
          call.token (.answered call.place call.result))
        number call.token (call.place + 1) (call.isAnswered || call.result.isOk)

/-- What a move can do to a chain in use. -/
inductive Transition (traffic : Traffic) : Traffic → Prop where
  | housekeeping {change : Cache → Cache}
      (sheds : ∀ cache, (change cache).Sheds traffic.now cache) :
      Transition traffic { traffic with chain := traffic.chain.mapCache change }
  | wait (duration : Nat) : Transition traffic { traffic with now := traffic.now + duration }
  | serve {token : String} {verdict : Verdict}
      (remembered : traffic.chain.remembered? traffic.now token = some verdict) :
      Transition traffic
        (({ traffic with
            chain := (traffic.chain.sweepUpTo traffic.now).count .hit
            started := traffic.started + 1 }.note traffic.started token .called).note
          traffic.started token (.returned verdict .cache))
  | accept {number : Nat} {call : Call} {verdict : Verdict}
      (waits : (number, call) ∈ traffic.waiting) (arrived : call.due ≤ traffic.now)
      (answer : call.result = .ok verdict) (valid : verdict.valid) :
      Transition traffic
        (({ traffic with
            chain := (traffic.chain.sweepUpTo traffic.now).remember traffic.now call.token verdict
            waiting := traffic.waiting.filter fun entry => entry.1 != number }.note number
          call.token (.answered call.place (.ok verdict))).note number call.token
            (.returned verdict (.evaluation true)))
  | ask {opened : Traffic} {number place : Nat} {token : String} {isAnswered : Bool} {desk : Desk}
      (opening : Opening traffic opened number token place isAnswered)
      (found : opened.chain.desks[place]? = some desk) :
      Transition traffic
        ({ opened with
            chain := opened.chain.afterAsking place token
              (desk.validator.appraise desk.asked token) }.settle number token
          (.evaluation isAnswered)
          (.waiting ⟨token, place, isAnswered,
            opened.now + (desk.validator.appraise desk.asked token).delay,
            (desk.validator.appraise desk.asked token).result⟩))
  | exhaust {opened : Traffic} {number place : Nat} {token : String} {isAnswered : Bool}
      (opening : Opening traffic opened number token place isAnswered)
      (absent : opened.chain.desks[place]? = none) :
      Transition traffic
        ({ opened with
            chain := if isAnswered then opened.chain.remember opened.now token .invalid
              else opened.chain }.note number token (.returned .invalid (.evaluation isAnswered)))

/-- A call that has come to a place asks the validator there or ends. -/
theorem Opening.proceed {traffic opened : Traffic} {number place : Nat} {token : String}
    {isAnswered : Bool} (opening : Opening traffic opened number token place isAnswered) :
    let next := opened.chain.proceed opened.now token place isAnswered
    Transition traffic
      ({ opened with chain := next.1 }.settle number token (.evaluation isAnswered) next.2) := by
  intro next
  cases found : opened.chain.desks[place]? with
  | some desk =>
      rw [show next = _ from Chain.proceed_of_desk found]
      exact .ask opening found
  | none =>
      rw [show next = _ from Chain.proceed_of_no_desk found]
      exact .exhaust opening found

theorem begin_transition (traffic : Traffic) (token : String) :
    Transition traffic (traffic.begin token) := by
  unfold Traffic.begin
  cases remembered : traffic.chain.remembered? traffic.now token with
  | some verdict =>
      rw [Chain.start_of_remembered remembered]
      exact .serve remembered
  | none =>
      rw [Chain.start_of_not_remembered remembered]
      exact (Opening.call remembered).proceed

theorem hear_transition (traffic : Traffic) {number : Nat} {call : Call}
    (waits : (number, call) ∈ traffic.waiting) (arrived : call.due ≤ traffic.now) :
    Transition traffic (traffic.hear number call) := by
  unfold Traffic.hear
  rcases Chain.accepts_or_refuses call.result with ⟨verdict, answer, valid⟩ | refused
  · have isOk : (call.isAnswered || call.result.isOk) = true := by
      simp [answer, Except.isOk, Except.toBool]
    rw [Chain.receive_of_accepting answer valid, isOk, answer]
    exact .accept waits arrived answer valid
  · rw [Chain.receive_of_not_accepting refused]
    exact (Opening.hear waits arrived refused).proceed

/-- An eviction is a sweep whose result is counted. -/
theorem evict_eq_mapCache (chain : Chain) (now : Nat) :
    (chain.evict now).2 = chain.mapCache fun cache => cache.sweep now := by
  unfold Chain.evict Chain.mapCache
  cases present : chain.cache with
  | none =>
      cases chain
      simp_all
  | some cache => rfl

/-- The moves by what they set going: stale entries are cleared away, time passes, a call begins, or
a waiting call takes in an answer that has arrived. -/
inductive Advance (traffic : Traffic) : Traffic → Prop where
  | housekeeping {change : Cache → Cache}
      (sheds : ∀ cache, (change cache).Sheds traffic.now cache) :
      Advance traffic { traffic with chain := traffic.chain.mapCache change }
  | wait (duration : Nat) : Advance traffic { traffic with now := traffic.now + duration }
  | begin (token : String) : Advance traffic (traffic.begin token)
  | hear {number : Nat} {call : Call} (waits : (number, call) ∈ traffic.waiting)
      (arrived : call.due ≤ traffic.now) : Advance traffic (traffic.hear number call)

/-- Nothing to clear away is a case of clearing away. -/
theorem Advance.refl (traffic : Traffic) : Advance traffic traffic := by
  have nothing : traffic.chain.mapCache id = traffic.chain := by simp [Chain.mapCache]
  have unchanged : Advance traffic { traffic with chain := traffic.chain.mapCache id } :=
    .housekeeping fun cache => .refl traffic.now cache
  rwa [nothing] at unchanged

theorem step_advance (traffic : Traffic) (move : Move) : Advance traffic (traffic.step move) := by
  cases move with
  | call token => exact .begin token
  | hear number =>
      simp only [Traffic.step]
      split
      · exact .refl traffic
      · next call found =>
          obtain ⟨before, after, split, -⟩ := List.lookup_eq_some_iff.mp found
          have waits : (number, call) ∈ traffic.waiting := by simp [split]
          split
          · next arrived => exact .hear waits arrived
          · exact .refl traffic
  | evict =>
      simp only [Traffic.step, evict_eq_mapCache]
      exact .housekeeping fun cache => .sweep cache (Nat.le_refl traffic.now)
  | sweep => exact .housekeeping fun cache => .sweep cache (Nat.le_refl traffic.now)
  | startSweeping interval =>
      exact .housekeeping fun cache => .startSweeping cache traffic.now interval
  | stopSweeping number =>
      exact .housekeeping fun cache => .stopSweeping cache traffic.now number
  | wait duration => exact .wait duration

theorem Advance.transition {traffic later : Traffic} (advance : Advance traffic later) :
    Transition traffic later := by
  cases advance with
  | housekeeping sheds => exact .housekeeping sheds
  | wait duration => exact .wait duration
  | begin token => exact begin_transition traffic token
  | hear waits arrived => exact hear_transition traffic waits arrived

/-- What every move keeps is kept by every run. -/
theorem run_induction {holds : Traffic → Prop}
    (kept : ∀ traffic later, Advance traffic later → holds traffic → holds later)
    {traffic : Traffic} (atFirst : holds traffic) (moves : List Move) :
    holds (traffic.run moves) := by
  induction moves generalizing traffic with
  | nil => exact atFirst
  | cons move moves inductionHypothesis =>
      exact inductionHypothesis (kept traffic _ (step_advance traffic move) atFirst)

/-! ## Look-ups and the cache -/

/-- Only a cache remembers anything. -/
theorem isSome_cache_of_remembered {chain : Chain} {now : Nat} {token : String} {verdict : Verdict}
    (remembered : chain.remembered? now token = some verdict) : chain.cache.isSome := by
  simp only [Chain.remembered?, Option.bind_eq_some_iff] at remembered
  obtain ⟨cache, present, -⟩ := remembered
  have kept : (chain.sweepUpTo now).cache.isSome := by simp [present]
  simpa [Chain.sweepUpTo] using kept

theorem cache_afterMiss (chain : Chain) (now : Nat) (token : String) :
    (chain.afterMiss now token).cache =
      chain.cache.map fun cache => ((cache.sweepUpTo now).get now token).2 := by
  unfold Chain.afterMiss
  cases present : chain.cache with
  | none => simp [Chain.sweepUpTo, present]
  | some cache => simp [Chain.sweepUpTo, Chain.count, present]

end Traffic

end GroupFederation.Token
