import GroupFederation.Proofs.Token.History
import GroupFederation.Proofs.Token.Loss

/-!
# Where verdicts come from

However calls, evictions and sweeps are interleaved, a positive verdict was given by a validator to
a call for that very token: to the call that returns it, or to one whose evaluation ended less than
a time to live before. A verdict from the cache, positive or negative, is that of the last
evaluation of its token in which somebody answered.

The invariant `Traced` ties every stored entry to that last evaluation. Sweeps and look-ups only
remove entries, and an entry is written in the very move in which its evaluation ends, so no order
of the moves can break it.
-/

namespace GroupFederation.Token

/-! ## The invariant -/

/-- The evaluation that a verdict from the cache is taken from: the last one of its token in which
somebody answered, with that very verdict, and younger than the time to live. -/
structure Serves (ttl? : Option Nat) (before : List Occurrence) (ended final : Occurrence)
    (verdict : Verdict) : Prop where
  last : lastConclusion? final.token before = some ended
  returned : ended.event = .returned verdict (.evaluation true)
  ordered : ended.time ≤ final.time
  fresh : ∃ ttl, ttl? = some ttl ∧ final.time < ended.time + ttl

/-- What is behind an occurrence, if it is the return of a call. -/
def Justified (validators : List Validator) (ttl? : Option Nat) (before : List Occurrence)
    (final : Occurrence) : Prop :=
  match final.event with
  | .returned verdict (.evaluation isAnswered) =>
      (isAnswered → Heard before final.number final.token) ∧
        (verdict.valid → Given validators before final.number final.token verdict)
  | .returned verdict .cache => ∃ ended, Serves ttl? before ended final verdict
  | _ => True

/-- A stored entry is the verdict of the last answered evaluation of its token. -/
def Backed (history : List Occurrence) (entry : Entry) : Prop :=
  ∃ ended, lastConclusion? entry.token history = some ended ∧ ended.time = entry.storedAt ∧
    ended.event = .returned entry.verdict (.evaluation true)

/-- The history of a chain in use accounts for its validators, its waiting calls, its cache, and all
that was returned. -/
structure Traced (validators : List Validator) (ttl? : Option Nat) (traffic : Traffic) :
    Prop where
  desks : ∀ place, traffic.chain.desks[place]? =
    validators[place]?.map fun validator => Desk.mk validator (askedAt place traffic.history)
  waiting : ∀ number call, (number, call) ∈ traffic.waiting →
    Asked validators traffic.history number call.token call.place call.result ∧
      (call.isAnswered → Heard traffic.history number call.token)
  stored : ∀ cache ∈ traffic.chain.cache, ttl? = some cache.ttl ∧
    ∀ entry ∈ cache.entries, Backed traffic.history entry
  past : ∀ occurrence ∈ traffic.history, occurrence.time ≤ traffic.now
  returned : ∀ before final, before ++ [final] <+: traffic.history →
    Justified validators ttl? before final

namespace Traced

variable {validators : List Validator} {ttl? : Option Nat} {traffic : Traffic}

theorem ofValidators (validators : List Validator) (ttl? : Option Nat) :
    Traced validators ttl? (.ofValidators validators ttl?) where
  desks place := by
    simp [Traffic.ofValidators, Chain.ofValidators, askedAt]
  waiting number call member := by simp [Traffic.ofValidators] at member
  stored cache member := by
    simp only [Traffic.ofValidators, Chain.ofValidators, Option.mem_def,
      Option.map_eq_some_iff] at member
    obtain ⟨ttl, same, rfl⟩ := member
    exact ⟨same, fun entry member => by simp at member⟩
  past occurrence member := by simp [Traffic.ofValidators] at member
  returned before final begins := by simp [Traffic.ofValidators] at begins

/-- Entries may be lost at any time. -/
theorem shrink (traced : Traced validators ttl? traffic) {chain : Chain}
    (within : chain.Within traffic.chain) :
    Traced validators ttl? { traffic with chain := chain } where
  desks place := by
    rw [within.desks]
    exact traced.desks place
  waiting := traced.waiting
  stored cache member := by
    obtain ⟨other, otherMember, cacheWithin⟩ := within.cache cache member
    obtain ⟨ttl, backed⟩ := traced.stored other otherMember
    refine ⟨by rw [cacheWithin.ttl, ttl], fun entry entryMember => ?_⟩
    exact backed entry (cacheWithin.entries entry entryMember)
  past := traced.past
  returned := traced.returned

theorem elapse (traced : Traced validators ttl? traffic) (duration : Nat) :
    Traced validators ttl? { traffic with now := traffic.now + duration } :=
  { traced with
    past := fun occurrence member =>
      Nat.le_trans (traced.past occurrence member) (Nat.le_add_right _ _) }

/-- A call stops waiting. -/
theorem release (traced : Traced validators ttl? traffic) (number : Nat) :
    Traced validators ttl?
      { traffic with waiting := traffic.waiting.filter fun entry => entry.1 != number } :=
  { traced with
    waiting := fun other call member =>
      traced.waiting other call (List.mem_filter.mp member).1 }

/-- A call starts to wait. -/
theorem enqueue (traced : Traced validators ttl? traffic) {number : Nat} {call : Call}
    (asked : Asked validators traffic.history number call.token call.place call.result)
    (heard : call.isAnswered → Heard traffic.history number call.token) :
    Traced validators ttl? { traffic with waiting := traffic.waiting ++ [(number, call)] } := by
  refine { traced with waiting := fun other waiting member => ?_ }
  rcases List.mem_append.mp member with earlier | new
  · exact traced.waiting other waiting earlier
  · simp only [List.mem_singleton, Prod.mk.injEq] at new
    obtain ⟨rfl, rfl⟩ := new
    exact ⟨asked, heard⟩

/-- One more occurrence, with what the move behind it does to the chain. -/
theorem extend (traced : Traced validators ttl? traffic) {chain : Chain} {number : Nat}
    {token : String} {event : Event}
    (desks : ∀ place, chain.desks[place]? = (validators[place]?).map fun validator =>
      Desk.mk validator
        (askedAt place (traffic.history ++ [⟨traffic.now, number, token, event⟩])))
    (stored : ∀ cache ∈ chain.cache, ttl? = some cache.ttl ∧ ∀ entry ∈ cache.entries,
      Backed (traffic.history ++ [⟨traffic.now, number, token, event⟩]) entry)
    (justified : Justified validators ttl? traffic.history ⟨traffic.now, number, token, event⟩) :
    Traced validators ttl? ({ traffic with chain := chain }.note number token event) where
  desks := desks
  waiting other call member := by
    -- What is said of waiting calls is about the past and outlasts the new occurrence.
    obtain ⟨asked, heard⟩ := traced.waiting other call member
    exact ⟨asked.append _, fun isAnswered => (heard isAnswered).append _⟩
  stored := stored
  past occurrence member := by
    rcases List.mem_append.mp member with earlier | new
    · exact traced.past occurrence earlier
    · rw [List.mem_singleton.mp new]
      exact Nat.le_refl _
  returned before final begins := by
    rcases List.prefix_concat_iff.mp begins with whole | earlier
    · obtain ⟨rfl, same⟩ := List.append_inj' whole rfl
      rw [List.singleton_inj.mp same]
      exact justified
    · exact traced.returned before final earlier

end Traced

/-- An entry stays backed until its token is concluded anew. -/
theorem Backed.append {history : List Occurrence} {entry : Entry}
    (backed : Backed history entry) {occurrence : Occurrence}
    (other : occurrence.concludes entry.token = false) :
    Backed (history ++ [occurrence]) entry := by
  obtain ⟨ended, last, stored, returned⟩ := backed
  refine ⟨ended, ?_, stored, returned⟩
  rw [lastConclusion?_append_singleton, other]
  exact last

namespace Traced

variable {validators : List Validator} {ttl? : Option Nat} {traffic : Traffic}

/-- The desks after an occurrence that is no question. -/
theorem desks_note (traced : Traced validators ttl? traffic) {occurrence : Occurrence}
    (unasked : ∀ place, occurrence.event.asks place = false) (place : Nat) :
    traffic.chain.desks[place]? = (validators[place]?).map fun validator =>
      Desk.mk validator (askedAt place (traffic.history ++ [occurrence])) := by
  rw [traced.desks place, askedAt_append_singleton, unasked place]
  simp

/-- An occurrence that neither asks nor concludes anything leaves the chain as it is. -/
theorem note (traced : Traced validators ttl? traffic) {number : Nat} {token : String}
    {event : Event} (unasked : ∀ place, event.asks place = false)
    (unconcluded : ∀ other, (Occurrence.mk traffic.now number token event).concludes other = false)
    (justified : Justified validators ttl? traffic.history ⟨traffic.now, number, token, event⟩) :
    Traced validators ttl? (traffic.note number token event) := by
  refine traced.extend (traced.desks_note unasked) (fun cache member => ?_) justified
  obtain ⟨ttl, backed⟩ := traced.stored cache member
  exact ⟨ttl, fun entry entryMember => (backed entry entryMember).append (unconcluded entry.token)⟩

/-- An evaluation ends in which somebody has answered, and its verdict is stored. -/
theorem conclude (traced : Traced validators ttl? traffic) {number : Nat} {token : String}
    {verdict : Verdict} (heard : Heard traffic.history number token)
    (given : verdict.valid → Given validators traffic.history number token verdict) :
    Traced validators ttl?
      ({ traffic with chain := traffic.chain.remember traffic.now token verdict }.note number token
        (.returned verdict (.evaluation true))) := by
  refine traced.extend (traced.desks_note fun _ => rfl) (fun cache member => ?_)
    ⟨fun _ => heard, given⟩
  simp only [Chain.remember, Option.mem_def, Option.map_eq_some_iff] at member
  obtain ⟨other, present, rfl⟩ := member
  obtain ⟨ttl, backed⟩ := traced.stored other present
  refine ⟨ttl, fun entry entryMember => ?_⟩
  -- The entry of this token is replaced in the same move; the others are of other tokens.
  rcases Cache.mem_entries_put.mp entryMember with ⟨kept, differ⟩ | new
  · refine (backed entry kept).append ?_
    simp [Occurrence.concludes, Ne.symm differ]
  · subst new
    refine ⟨⟨traffic.now, number, token, .returned verdict (.evaluation true)⟩, ?_, rfl, rfl⟩
    rw [lastConclusion?_append_singleton]
    simp [Occurrence.concludes]

/-- A validator is asked, and the call waits for it. -/
theorem ask (traced : Traced validators ttl? traffic) {number : Nat} {token : String}
    {place : Nat} {isAnswered : Bool} {desk : Desk}
    (found : traffic.chain.desks[place]? = some desk)
    (heard : isAnswered → Heard traffic.history number token) :
    let appraisal := desk.validator.appraise desk.asked token
    Traced validators ttl?
      ({ traffic with chain := traffic.chain.afterAsking place token appraisal }.settle number
        token (.evaluation isAnswered)
        (.waiting ⟨token, place, isAnswered, traffic.now + appraisal.delay,
          appraisal.result⟩)) := by
  intro appraisal
  have located := traced.desks place
  rw [found, eq_comm, Option.map_eq_some_iff] at located
  obtain ⟨validator, present, rfl⟩ := located
  have noted : Traced validators ttl?
      ({ traffic with chain := traffic.chain.afterAsking place token appraisal }.note number token
        (.asked place)) := by
    refine traced.extend (fun other => ?_) (fun cache member => ?_) trivial
    · rw [askedAt_append_singleton]
      by_cases same : place = other
      · subst same
        simp [Chain.afterAsking, found, present, Event.asks]
      · simp [Chain.afterAsking, same, traced.desks other, Event.asks]
    · obtain ⟨ttl, backed⟩ := traced.stored cache member
      refine ⟨ttl, fun entry entryMember => (backed entry entryMember).append ?_⟩
      simp [Occurrence.concludes]
  refine noted.enqueue ?_ fun answered => (heard answered).append _
  exact ⟨validator, traffic.history, traffic.now, [], present, rfl, rfl⟩

/-- A call goes on to the validator at a place, or ends when there is none. -/
theorem proceed (traced : Traced validators ttl? traffic) (number : Nat) (token : String)
    (place : Nat) {isAnswered : Bool}
    (heard : isAnswered → Heard traffic.history number token) :
    let next := traffic.chain.proceed traffic.now token place isAnswered
    Traced validators ttl?
      ({ traffic with chain := next.1 }.settle number token (.evaluation isAnswered) next.2) := by
  intro next
  cases found : traffic.chain.desks[place]? with
  | some desk =>
      have same : next = _ := Chain.proceed_of_desk found
      rw [same]
      exact traced.ask found heard
  | none =>
      have same : next = _ := Chain.proceed_of_no_desk found
      rw [same]
      cases isAnswered with
      | true => exact traced.conclude (heard rfl) (by simp)
      | false =>
          refine traced.note (fun _ => rfl) (fun other => ?_) ⟨by simp, by simp⟩
          simp [Occurrence.concludes]

/-! ## Every move keeps the invariant -/

/-- The event that a call begins, or that it takes in an answer, by itself. -/
theorem note_of_inert (traced : Traced validators ttl? traffic) (number : Nat) (token : String)
    {event : Event}
    (inert : event = .called ∨ ∃ place result, event = .answered place result) :
    Traced validators ttl? (traffic.note number token event) := by
  rcases inert with rfl | ⟨place, result, rfl⟩ <;>
    exact traced.note (fun _ => rfl) (fun _ => by simp [Occurrence.concludes]) trivial

/-- A verdict from the cache is that of the last answered evaluation. -/
theorem serves_of_remembered (traced : Traced validators ttl? traffic) {token : String}
    {verdict : Verdict}
    (remembered : traffic.chain.remembered? traffic.now token = some verdict) (number : Nat) :
    ∃ ended, Serves ttl? traffic.history ended
      ⟨traffic.now, number, token, .returned verdict .cache⟩ verdict := by
  simp only [Chain.remembered?, Option.bind_eq_some_iff] at remembered
  obtain ⟨cache, present, found⟩ := remembered
  obtain ⟨entry, member, rfl, rfl, fresh⟩ := Cache.exists_entry_of_get found
  obtain ⟨ttl, backed⟩ :=
    (traced.shrink (.sweepUpTo traffic.chain traffic.now)).stored cache present
  obtain ⟨ended, last, stored, returned⟩ := backed entry member
  have happened : ended ∈ traffic.history := by
    obtain ⟨-, prior, later, split⟩ := exists_split_of_lastConclusion? last
    rw [show traffic.history = prior ++ ended :: later from split]
    simp
  refine ⟨ended, last, returned, traced.past ended happened, cache.ttl, ttl, ?_⟩
  show traffic.now < ended.time + cache.ttl
  omega

/-- A call begins on a chain that may have lost entries by then. -/
theorem opened (traced : Traced validators ttl? traffic) {chain : Chain}
    (within : chain.Within traffic.chain) (token : String) :
    Traced validators ttl?
      ({ traffic with chain := chain, started := traffic.started + 1 }.note traffic.started token
        .called) := by
  have shrunk := traced.shrink within
  have counted : Traced validators ttl?
      { traffic with chain := chain, started := traffic.started + 1 } := { shrunk with }
  exact counted.note_of_inert traffic.started token (.inl rfl)

theorem begin (traced : Traced validators ttl? traffic) (token : String) :
    Traced validators ttl? (traffic.begin token) := by
  unfold Traffic.begin
  cases remembered : traffic.chain.remembered? traffic.now token with
  | some verdict =>
      rw [Chain.start_of_remembered remembered]
      have swept := Chain.Within.sweepUpTo traffic.chain traffic.now
      have within : ((traffic.chain.sweepUpTo traffic.now).count .hit).Within traffic.chain :=
        ⟨swept.desks, swept.cache⟩
      have opened := traced.opened within token
      refine opened.note (fun _ => rfl) (fun other => by simp [Occurrence.concludes]) ?_
      obtain ⟨ended, serves⟩ := traced.serves_of_remembered remembered traffic.started
      refine ⟨ended, ?_, serves.returned, serves.ordered, serves.fresh⟩
      exact (lastConclusion?_append_singleton token traffic.history _).trans (by
        simpa [Occurrence.concludes] using serves.last)
  | none =>
      rw [Chain.start_of_not_remembered remembered]
      exact (traced.opened (.afterMiss traffic.chain traffic.now token) token).proceed
        traffic.started token 0 (by simp)

theorem hear (traced : Traced validators ttl? traffic) {number : Nat} {call : Call}
    (waits : (number, call) ∈ traffic.waiting) :
    Traced validators ttl? (traffic.hear number call) := by
  obtain ⟨asked, heard⟩ := traced.waiting number call waits
  have swept := traced.shrink (.sweepUpTo traffic.chain traffic.now)
  have answered := (swept.release number).note_of_inert number call.token
    (.inr ⟨call.place, call.result, rfl⟩)
  have listened : (call.isAnswered || call.result.isOk) = true →
      Heard (traffic.history ++
        [⟨traffic.now, number, call.token, .answered call.place call.result⟩])
        number call.token := by
    intro either
    cases result : call.result with
    | ok verdict => exact ⟨traffic.now, call.place, verdict, by simp⟩
    | error failure =>
        have before : call.isAnswered := by
          simpa [result, Except.isOk, Except.toBool] using either
        exact (heard before).append _
  unfold Traffic.hear
  by_cases accepting : ∃ verdict, call.result = .ok verdict ∧ verdict.valid
  · obtain ⟨verdict, answer, valid⟩ := accepting
    rw [Chain.receive_of_accepting answer valid]
    have isOk : (call.isAnswered || call.result.isOk) = true := by
      simp [answer, Except.isOk, Except.toBool]
    rw [isOk]
    refine answered.conclude (listened isOk) fun _ => ?_
    rw [answer] at asked
    refine ⟨call.place, asked.append _, traffic.now, ?_⟩
    simp [Traffic.note, answer]
  · have refused : ∀ verdict, call.result = .ok verdict → verdict.valid = false := by
      intro verdict answer
      cases valid : verdict.valid with
      | true => exact absurd ⟨verdict, answer, valid⟩ accepting
      | false => rfl
    rw [Chain.receive_of_not_accepting refused]
    exact answered.proceed number call.token (call.place + 1) listened

theorem step (traced : Traced validators ttl? traffic) (move : Move) :
    Traced validators ttl? (traffic.step move) := by
  cases move with
  | call token => exact traced.begin token
  | hear number =>
      simp only [Traffic.step]
      split
      · exact traced
      · next call found =>
          split
          · obtain ⟨before, after, split, -⟩ := List.lookup_eq_some_iff.mp found
            exact traced.hear (by simp [split])
          · exact traced
  | evict => exact traced.shrink (.evict traffic.chain traffic.now)
  | sweep => exact traced.shrink (.mapCache _ fun cache => .sweep cache traffic.now)
  | startSweeping interval =>
      exact traced.shrink (.mapCache _ fun cache => .startSweeping cache traffic.now interval)
  | stopSweeping number =>
      exact traced.shrink (.mapCache _ fun cache => .stopSweeping cache number)
  | wait duration => exact traced.elapse duration

theorem run (traced : Traced validators ttl? traffic) (moves : List Move) :
    Traced validators ttl? (traffic.run moves) := by
  induction moves generalizing traffic with
  | nil => exact traced
  | cons move moves inductionHypothesis => exact inductionHypothesis (traced.step move)

/-- What serves a verdict from the cache is an evaluation that accounts for it. -/
theorem behind_serves (traced : Traced validators ttl? traffic) {before : List Occurrence}
    {ended final : Occurrence} {verdict : Verdict} (serves : Serves ttl? before ended final verdict)
    (happened : before <+: traffic.history) :
    Heard before ended.number final.token ∧
      (verdict.valid → Given validators before ended.number final.token verdict) := by
  obtain ⟨sameToken, prior, later, split⟩ := exists_split_of_lastConclusion? serves.last
  -- The return that stored the verdict was itself justified when it happened.
  have whole : before = (prior ++ [ended]) ++ later := by simp [split]
  have began : prior ++ [ended] <+: traffic.history :=
    List.IsPrefix.trans ⟨later, whole.symm⟩ happened
  have justified := traced.returned prior ended began
  simp only [Justified, serves.returned, sameToken] at justified
  obtain ⟨heard, given⟩ := justified
  rw [split]
  exact ⟨(heard trivial).append _, fun valid => (given valid).append _⟩

end Traced

/-- Whatever the validators answer and in whatever order calls, evictions, sweeps and the passing
of time are interleaved: a positive verdict was given by a validator to a call for the same token,
either to the call that returns it or to the last answered evaluation of the token, which ended less
than a time to live before; and a negative verdict from the cache is that of the last answered
evaluation of the token, which ended less than a time to live before. -/
theorem returned_verdict_provenance (validators : List Validator) (ttl? : Option Nat)
    (moves : List Move) {before : List Occurrence} {final : Occurrence} {verdict : Verdict}
    {origin : Origin}
    (happened : before ++ [final] <+:
      ((Traffic.ofValidators validators ttl?).run moves).history)
    (returned : final.event = .returned verdict origin) :
    (verdict.valid →
      Given validators before final.number final.token verdict ∨
        ∃ ended, Serves ttl? before ended final verdict ∧
          Given validators before ended.number final.token verdict) ∧
    (verdict.valid = false → origin = .cache →
      ∃ ended, Serves ttl? before ended final verdict ∧
        Heard before ended.number final.token) := by
  have traced := (Traced.ofValidators validators ttl?).run moves
  have justified := traced.returned before final happened
  have earlier : before <+: ((Traffic.ofValidators validators ttl?).run moves).history :=
    (List.prefix_append before [final]).trans happened
  simp only [Justified, returned] at justified
  cases origin with
  | evaluation isAnswered =>
      refine ⟨fun valid => .inl (justified.2 valid), fun _ fromCache => ?_⟩
      cases fromCache
  | cache =>
      obtain ⟨ended, serves⟩ := justified
      obtain ⟨heard, given⟩ := traced.behind_serves serves earlier
      exact ⟨fun valid => .inr ⟨ended, serves, given valid⟩, fun _ _ => ⟨ended, serves, heard⟩⟩

/-- The first validator cannot be reached and the second one accepts; the verdict is served again
when it is one millisecond short of its time to live. -/
theorem returned_verdict_provenance_second_call :
    let accepted : Verdict := { valid := true, clientId := some "portal", scopes := ["read"] }
    let absent : Validator := ⟨"a", fun _ _ => { delay := 5, result := .error .connection }⟩
    let present : Validator := ⟨"b", fun _ _ => { delay := 10, result := .ok accepted }⟩
    let traffic := (Traffic.ofValidators [absent, present] (some 60)).run
      [.call "token", .wait 5, .hear 0, .wait 10, .sweep, .hear 0, .evict, .wait 59, .call "token"]
    let final : Occurrence := ⟨74, 1, "token", .returned accepted .cache⟩
    traffic.history.take 7 ++ [final] <+: traffic.history ∧
      (Given [absent, present] (traffic.history.take 7) 1 "token" accepted ∨
        ∃ ended, Serves (some 60) (traffic.history.take 7) ended final accepted ∧
          Given [absent, present] (traffic.history.take 7) ended.number "token" accepted) := by
  intro accepted absent present traffic final
  have happened : traffic.history.take 7 ++ [final] <+: traffic.history := ⟨[], by rfl⟩
  exact ⟨happened, (returned_verdict_provenance [absent, present] (some 60) _ happened rfl).1 rfl⟩

end GroupFederation.Token
