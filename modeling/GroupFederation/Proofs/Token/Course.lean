import GroupFederation.Proofs.Token.Transition

/-!
# The course of a call

A call is answered from the cache and asks nobody, or it makes one evaluation: it asks the
validators in order, each of them once and the next only when the one before has answered and not
accepted, until one accepts or there is none left. However calls overlap, the events of every
single one are those of such a course.
-/

namespace GroupFederation.Token

/-- The events of one call. -/
def eventsOf (number : Nat) (history : List Occurrence) : List Event :=
  (history.filter fun occurrence => occurrence.number == number).map Occurrence.event

theorem eventsOf_note_self (traffic : Traffic) (number : Nat) (token : String) (event : Event) :
    eventsOf number (traffic.note number token event).history =
      eventsOf number traffic.history ++ [event] := by
  simp [eventsOf, Traffic.note]

theorem eventsOf_note_of_ne (traffic : Traffic) {number other : Nat} (token : String)
    (event : Event) (differ : other ≠ number) :
    eventsOf other (traffic.note number token event).history = eventsOf other traffic.history := by
  simp [eventsOf, Traffic.note, Ne.symm differ]

/-- The events of a call that has come to a place: it has asked the validators before that place in
order, and none of them has accepted. -/
inductive Reached : List Event → (place : Nat) → (isAnswered : Bool) → Prop where
  | begin : Reached [.called] 0 false
  | next {events : List Event} {place : Nat} {isAnswered : Bool} {result : Except Failure Verdict}
      (reached : Reached events place isAnswered)
      (refused : ∀ verdict, result = .ok verdict → verdict.valid = false) :
      Reached (events ++ [.asked place] ++ [.answered place result]) (place + 1)
        (isAnswered || result.isOk)

/-- The events of a call that makes one evaluation with a number of validators: it waits for one of
them, or one has accepted, or there is none left. -/
inductive Evaluates (size : Nat) : List Event → Prop where
  | waiting {events : List Event} {place : Nat} {isAnswered : Bool}
      (reached : Reached events place isAnswered) (inside : place < size) :
      Evaluates size (events ++ [.asked place])
  | accepted {events : List Event} {place : Nat} {isAnswered : Bool} {verdict : Verdict}
      (reached : Reached events place isAnswered) (inside : place < size)
      (valid : verdict.valid) :
      Evaluates size
        (events ++ [.asked place] ++ [.answered place (.ok verdict)] ++
          [.returned verdict (.evaluation true)])
  | exhausted {events : List Event} {isAnswered : Bool} (reached : Reached events size isAnswered) :
      Evaluates size (events ++ [.returned .invalid (.evaluation isAnswered)])

/-- The events of a call that is answered from the cache. -/
def IsHit (events : List Event) : Prop :=
  ∃ verdict, events = [.called, .returned verdict .cache]

/-- The course of a call on a chain with or without a cache. -/
def HasCourse (size : Nat) (isCached : Bool) (events : List Event) : Prop :=
  isCached ∧ IsHit events ∨ Evaluates size events

/-- All calls of a chain in use follow their courses, but perhaps one that is being moved. -/
structure OnCourse (size : Nat) (isCached : Bool) (moved? : Option Nat) (traffic : Traffic) :
    Prop where
  desks : traffic.chain.desks.length = size
  cached : traffic.chain.cache.isSome = isCached
  unborn : ∀ number, traffic.started ≤ number → eventsOf number traffic.history = []
  course : ∀ number, number < traffic.started → number ∉ moved? →
    HasCourse size isCached (eventsOf number traffic.history)
  waiting : ∀ number call, (number, call) ∈ traffic.waiting →
    number ∉ moved? ∧ number < traffic.started ∧ call.place < size ∧
      ∃ events, eventsOf number traffic.history = events ++ [.asked call.place] ∧
        Reached events call.place call.isAnswered

namespace OnCourse

variable {size number : Nat} {isCached : Bool} {moved? : Option Nat} {traffic : Traffic}

theorem ofValidators (validators : List Validator) (ttl? : Option Nat) :
    OnCourse validators.length ttl?.isSome none (.ofValidators validators ttl?) where
  desks := by simp [Traffic.ofValidators, Chain.ofValidators]
  cached := by simp [Traffic.ofValidators, Chain.ofValidators]
  unborn number _ := by simp [Traffic.ofValidators, eventsOf]
  course number begun := by simp [Traffic.ofValidators] at begun
  waiting number call member := by simp [Traffic.ofValidators] at member

/-- The chain may change as long as it has as many validators, and a cache if it had one. -/
theorem rechain (onCourse : OnCourse size isCached moved? traffic) (chain : Chain)
    (desks : chain.desks.length = traffic.chain.desks.length)
    (cached : chain.cache.isSome = traffic.chain.cache.isSome) :
    OnCourse size isCached moved? { traffic with chain := chain } :=
  { onCourse with
    desks := desks.trans onCourse.desks
    cached := cached.trans onCourse.cached }

/-- A call begins. -/
theorem begin (onCourse : OnCourse size isCached none traffic) (token : String) :
    OnCourse size isCached (some traffic.started)
      ({ traffic with started := traffic.started + 1 }.note traffic.started token .called) ∧
    eventsOf traffic.started
      ({ traffic with started := traffic.started + 1 }.note traffic.started token .called).history =
        [.called] := by
  have unchanged {other : Nat} (differ : other ≠ traffic.started) :=
    eventsOf_note_of_ne { traffic with started := traffic.started + 1 } token .called differ
  constructor
  · refine { onCourse with unborn := ?_, course := ?_, waiting := ?_ }
    · intro other begun
      have later : traffic.started < other := begun
      rw [unchanged (Nat.ne_of_gt later)]
      exact onCourse.unborn other (Nat.le_of_lt later)
    · intro other begun still
      have differ : other ≠ traffic.started := fun same => still (by simp [same])
      have earlier : other < traffic.started + 1 := begun
      rw [unchanged differ]
      exact onCourse.course other (by omega) (by simp)
    · intro other call member
      obtain ⟨-, earlier, inside, reached⟩ := onCourse.waiting other call member
      have differ := Nat.ne_of_lt earlier
      rw [unchanged differ]
      exact ⟨by simpa using differ.symm, Nat.lt_succ_of_lt earlier, inside, reached⟩
  · rw [eventsOf_note_self]
    simp [onCourse.unborn traffic.started (Nat.le_refl _)]

/-- A call stops waiting. -/
theorem release (onCourse : OnCourse size isCached none traffic) (number : Nat) :
    OnCourse size isCached (some number)
      { traffic with waiting := traffic.waiting.filter fun entry => entry.1 != number } :=
  { onCourse with
    course := fun other begun _ => onCourse.course other begun (by simp)
    waiting := fun other call member => by
      obtain ⟨earlier, kept⟩ := List.mem_filter.mp member
      have differ : other ≠ number := by simpa using kept
      obtain ⟨-, rest⟩ := onCourse.waiting other call earlier
      exact ⟨by simpa using differ.symm, rest⟩ }

/-- Something happens to the call that is being moved. -/
theorem note (onCourse : OnCourse size isCached (some number) traffic)
    (begun : number < traffic.started) (token : String) (event : Event) :
    OnCourse size isCached (some number) (traffic.note number token event) := by
  have unchanged {other : Nat} (differ : other ≠ number) :=
    eventsOf_note_of_ne traffic token event differ
  refine { onCourse with unborn := ?_, course := ?_, waiting := ?_ }
  · intro other unborn
    have later : traffic.started ≤ other := unborn
    rw [unchanged (by omega)]
    exact onCourse.unborn other later
  · intro other born still
    rw [unchanged fun same => still (by simp [same])]
    exact onCourse.course other born still
  · intro other call member
    obtain ⟨still, rest⟩ := onCourse.waiting other call member
    rw [unchanged fun same => still (by simp [same])]
    exact ⟨still, rest⟩

/-- The call that was being moved has found its course. -/
theorem rest (onCourse : OnCourse size isCached (some number) traffic)
    (course : HasCourse size isCached (eventsOf number traffic.history)) :
    OnCourse size isCached none traffic :=
  { onCourse with
    course := fun other begun _ => by
      by_cases same : other = number
      · rw [same]
        exact course
      · exact onCourse.course other begun (by simpa using Ne.symm same)
    waiting := fun other call member => by
      obtain ⟨-, facts⟩ := onCourse.waiting other call member
      exact ⟨by simp, facts⟩ }

/-- The call that was being moved asks a validator and waits for it. -/
theorem ask (onCourse : OnCourse size isCached (some number) traffic)
    (begun : number < traffic.started) {call : Call} (token : String) (inside : call.place < size)
    (reached : Reached (eventsOf number traffic.history) call.place call.isAnswered) :
    OnCourse size isCached none
      { traffic.note number token (.asked call.place) with
        waiting := traffic.waiting ++ [(number, call)] } := by
  have events := eventsOf_note_self traffic number token (.asked call.place)
  have noted := (onCourse.note begun token (.asked call.place)).rest
    (by rw [events]; exact .inr (.waiting reached inside))
  refine { noted with waiting := fun other waiting member => ?_ }
  rcases List.mem_append.mp member with earlier | new
  · exact noted.waiting other waiting earlier
  · simp only [List.mem_singleton, Prod.mk.injEq] at new
    obtain ⟨rfl, rfl⟩ := new
    exact ⟨by simp, begun, inside, _, events, reached⟩

/-! ## Every move keeps calls on course -/

/-- A look-up that finds nothing asks nobody and keeps the cache, if there is one. -/
theorem afterMiss (onCourse : OnCourse size isCached moved? traffic) (token : String) :
    OnCourse size isCached moved?
      { traffic with chain := traffic.chain.afterMiss traffic.now token } := by
  refine onCourse.rechain _ ?_ ?_
  · rw [(Chain.Within.afterMiss traffic.chain traffic.now token).desks]
  · rw [Traffic.cache_afterMiss, Option.isSome_map]

/-- A call that has come to a place has reached it. -/
theorem opened (onCourse : OnCourse size isCached none traffic) {opened : Traffic} {place : Nat}
    {token : String} {isAnswered : Bool}
    (opening : traffic.Opening opened number token place isAnswered) :
    OnCourse size isCached (some number) opened ∧ number < opened.started ∧ place ≤ size ∧
      Reached (eventsOf number opened.history) place isAnswered := by
  cases opening with
  | call absent =>
      obtain ⟨begun, events⟩ := (onCourse.afterMiss token).begin token
      exact ⟨begun, Nat.lt_succ_self _, Nat.zero_le _, events ▸ .begin⟩
  | @hear _ call waits arrived refused =>
      obtain ⟨-, begun, inside, events, waiting, reached⟩ := onCourse.waiting number call waits
      have swept := onCourse.rechain (traffic.chain.sweepUpTo traffic.now) rfl
        (by simp [Chain.sweepUpTo])
      refine ⟨(swept.release number).note begun call.token _, begun, inside, ?_⟩
      rw [eventsOf_note_self]
      simp only [waiting]
      exact .next reached refused

theorem transition (onCourse : OnCourse size isCached none traffic) {later : Traffic}
    (moved : traffic.Transition later) : OnCourse size isCached none later := by
  cases moved with
  | housekeeping sheds => exact onCourse.rechain _ rfl (by simp [Chain.mapCache])
  | wait duration => exact { onCourse with }
  | @serve token verdict remembered =>
      have swept := onCourse.rechain ((traffic.chain.sweepUpTo traffic.now).count .hit) rfl
        (by simp [Chain.sweepUpTo, Chain.count])
      obtain ⟨begun, events⟩ := swept.begin token
      have served := begun.note (Nat.lt_succ_self traffic.started) token (.returned verdict .cache)
      refine served.rest (.inl ⟨?_, verdict, ?_⟩)
      · rw [← onCourse.cached]
        exact Traffic.isSome_cache_of_remembered remembered
      · rw [eventsOf_note_self, events]
        rfl
  | @accept number call verdict waits arrived answer valid =>
      obtain ⟨-, begun, inside, events, waiting, reached⟩ := onCourse.waiting number call waits
      have remembering := onCourse.rechain
        ((traffic.chain.sweepUpTo traffic.now).remember traffic.now call.token verdict) rfl
        (by simp [Chain.sweepUpTo, Chain.remember])
      have answered := (remembering.release number).note begun call.token
        (.answered call.place (.ok verdict))
      refine (answered.note begun call.token (.returned verdict (.evaluation true))).rest ?_
      rw [eventsOf_note_self, eventsOf_note_self]
      simp only [waiting]
      exact .inr (.accepted reached inside valid)
  | @ask opened number place token isAnswered desk opening found =>
      obtain ⟨moving, begun, -, reached⟩ := onCourse.opened opening
      have inside : place < size := by
        rw [← moving.desks]
        exact (List.getElem?_eq_some_iff.mp found).1
      have asking := moving.rechain
        (opened.chain.afterAsking place token (desk.validator.appraise desk.asked token))
        (by simp [Chain.afterAsking]) rfl
      exact asking.ask begun token inside reached
  | @exhaust opened number place token isAnswered opening absent =>
      obtain ⟨moving, begun, atMost, reached⟩ := onCourse.opened opening
      have atLeast : size ≤ place := by
        rw [← moving.desks]
        exact List.getElem?_eq_none_iff.mp absent
      obtain rfl := Nat.le_antisymm atMost atLeast
      have ending := moving.rechain
        (if isAnswered then opened.chain.remember opened.now token .invalid
          else opened.chain)
        (by cases isAnswered <;> rfl) (by cases isAnswered <;> simp [Chain.remember])
      refine (ending.note begun token (.returned .invalid (.evaluation isAnswered))).rest ?_
      rw [eventsOf_note_self]
      exact .inr (.exhausted reached)

theorem run (onCourse : OnCourse size isCached none traffic) (moves : List Move) :
    OnCourse size isCached none (traffic.run moves) :=
  Traffic.run_induction (fun _ _ advance holds => holds.transition advance.transition)
    onCourse moves

end OnCourse

end GroupFederation.Token
