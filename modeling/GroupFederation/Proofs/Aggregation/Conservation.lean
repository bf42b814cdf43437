import GroupFederation.Proofs.Aggregation.Operations

/-!
# What is counted

Every call that has ended by the time an operation is over is counted once, under the name of its
provider, the name of the question, and how it ended; only calls that break down are not. Lists and
questions for members wait for all their calls, so that all of these are counted. A look-up goes on
with the first group, and drops the calls that are still under way without counting them.
-/

namespace GroupFederation

/-- The reply without what it says. -/
def Reply.forget {α : Type} (reply : Reply α) : Reply Unit :=
  ⟨reply.delay, reply.outcome.map fun _ => (), reply.sent⟩

theorem Reply.label?_within_forget {α : Type} (limit : Nat) (reply : Reply α) :
    (reply.forget.within limit).outcome.label? = (reply.within limit).outcome.label? := by
  obtain ⟨delay, outcome, sent⟩ := reply
  by_cases inTime : delay ≤ limit
  · cases outcome <;> simp [within, forget, inTime, Outcome.map, Outcome.label?]
  · simp only [within, forget, inTime, if_false]
    rfl

namespace Aggregation

namespace Partner

/-- The reply to an operation, without what it says. -/
def reply (partner : Partner) : Operation → Reply Unit
  | .list listing => (listing.reply partner).forget
  | .lookUp person group => (partner.lookUp person group).forget
  | .members group => (partner.provider.members partner.asked group).forget

/-- When the call to the partner ends. -/
def due (partner : Partner) (operation : Operation) : Nat :=
  min (partner.reply operation).delay partner.provider.timeout

/-- How the call to the partner is counted. -/
def countedAs? (partner : Partner) (operation : Operation) : Option String :=
  ((partner.reply operation).within partner.provider.timeout).outcome.label?

/-- The labels under which the call to the partner is counted. -/
def label? (partner : Partner) (operation : Operation) : Option CallLabel :=
  (partner.countedAs? operation).map fun outcome =>
    ⟨partner.provider.name, operation.query.operation, outcome⟩

/-- The partner answers within its limit. -/
def Succeeds (partner : Partner) (operation : Operation) : Prop :=
  (partner.reply operation).delay ≤ partner.provider.timeout ∧
    (partner.reply operation).outcome = .answered ()

/-- The call runs past its limit, or it fails because of a timeout of its own. -/
def TimesOut (partner : Partner) (operation : Operation) : Prop :=
  partner.provider.timeout < (partner.reply operation).delay ∨
    ∃ limit, (partner.reply operation).outcome = .failed (.timeout limit)

/-- The call breaks down before its time is up. -/
def BreaksDown (partner : Partner) (operation : Operation) : Prop :=
  (partner.reply operation).delay ≤ partner.provider.timeout ∧
    (partner.reply operation).outcome = .crashed

/-- What a call is counted as. -/
theorem countedAs?_iff (partner : Partner) (operation : Operation) :
    (partner.countedAs? operation = some "ok" ↔ partner.Succeeds operation) ∧
    (partner.countedAs? operation = some "timeout" ↔ partner.TimesOut operation) ∧
    (partner.countedAs? operation = none ↔ partner.BreaksDown operation) ∧
    (partner.countedAs? operation = some "error" ↔
      ¬partner.Succeeds operation ∧ ¬partner.TimesOut operation ∧
        ¬partner.BreaksDown operation) := by
  unfold countedAs? Succeeds TimesOut BreaksDown Reply.within
  by_cases late : partner.provider.timeout < (partner.reply operation).delay
  · simp [late, Nat.not_le_of_lt late, Outcome.label?, Provider.Failure.outcome]
  · simp only [Nat.le_of_not_lt late, late, if_true, true_and, false_or]
    cases (partner.reply operation).outcome with
    | answered value => simp [Outcome.label?]
    | failed failure => cases failure <;> simp [Outcome.label?, Provider.Failure.outcome]
    | crashed => simp [Outcome.label?]

end Partner

namespace Engine

/-- How long an operation takes. -/
def duration (engine : Engine) : Operation → Nat
  | .list listing => (engine.list listing).elapsed
  | .lookUp person group => (engine.groupById person group).elapsed
  | .members group => (engine.members group).elapsed

/-- What an operation adds to the counters. -/
def counted (engine : Engine) (operation : Operation) : List CallLabel :=
  ((engine.audience operation).filter fun partner =>
    partner.due operation ≤ engine.duration operation).filterMap (Partner.label? · operation)

/-! ## What an operation counts -/

section Call

variable {α : Type} {partner : Partner} {operation : Operation} {reply : Reply α}

/-- The task that waits for the reply of a partner ends when the call to the partner does. -/
theorem time_ofReply (same : partner.reply operation = reply.forget) (place : Nat) :
    (Arrival.ofReply place partner.provider reply).time = partner.due operation := by
  rw [Partner.due, same]
  exact Reply.delay_within partner.provider.timeout reply

theorem labelOf?_ofReply (same : partner.reply operation = reply.forget) (place : Nat) :
    labelOf? operation.query (.ofReply place partner.provider reply) =
      partner.label? operation := by
  rw [Partner.label?, Partner.countedAs?, same, Reply.label?_within_forget]
  rfl

end Call

section Question

variable {α : Type} {engine : Engine} {isAsked : Provider → Bool} {reply : Partner → Reply α}
  {operation : Operation}

/-- The labels of the calls that have ended by some time are those of their partners. -/
theorem filterMap_labelOf?_arrivals
    (same : ∀ partner, partner.reply operation = (reply partner).forget) (time : Nat) :
    ((engine.arrivals isAsked reply).filter fun arrival =>
      arrival.time ≤ time).filterMap (labelOf? operation.query) =
      ((engine.eligible isAsked).filter fun partner =>
        partner.due operation ≤ time).filterMap (Partner.label? · operation) := by
  rw [List.filterMap_filter, List.filterMap_filter]
  refine filterMap_arrivals fun place partner => ?_
  rw [time_ofReply (same partner) place, labelOf?_ofReply (same partner) place]

/-- Counting the ends of these calls adds the labels of the partners, in whatever order they
come. -/
theorem count_afterwards (same : ∀ partner, partner.reply operation = (reply partner).forget)
    {ended : List (Arrival α)} {time : Nat}
    (perm : ended.Perm ((engine.arrivals isAsked reply).filter fun arrival =>
      arrival.time ≤ time)) (label : CallLabel) :
    (engine.afterwards isAsked operation.query reply ended).calls.count label =
      engine.calls.count label +
        (((engine.eligible isAsked).filter fun partner =>
          partner.due operation ≤ time).filterMap (Partner.label? · operation)).count label := by
  rw [afterwards, Tally.count_addAll, (perm.filterMap _).count_eq,
    filterMap_labelOf?_arrivals same time]

end Question

/-- A list is waited for until all calls have ended. -/
theorem filter_arrivals_list (engine : Engine) (listing : Listing) :
    ((engine.arrivals listing.isAsked listing.reply).filter fun arrival =>
      arrival.time ≤ (engine.list listing).elapsed) =
      engine.arrivals listing.isAsked listing.reply := by
  rw [list_elapsed]
  refine List.filter_eq_self.mpr fun arrival member => ?_
  simpa using lastTime_le_iff.mp (Nat.le_refl _) arrival member

/-- The members of a group take as long as the call to the only partner that is asked, which is
counted. -/
theorem members_of_lister? {engine : Engine} {group : String} {place : Nat} {partner : Partner}
    (chosen : engine.lister? group = some place) (found : engine.partners[place]? = some partner) :
    (engine.members group).elapsed = partner.due (.members group) ∧
      (engine.members group).engine.calls =
        engine.calls.addAll (partner.label? (.members group)).toList := by
  have same : partner.reply (.members group) =
      (partner.provider.members partner.asked group).forget := rfl
  rw [← labelOf?_ofReply same 0, ← time_ofReply same 0]
  simp only [members, chosen, Option.bind_some, found, Option.map_some, true_and]
  rfl

/-- An operation counts the calls that have ended by the time it is over, and no others. -/
theorem count_perform (engine : Engine) (operation : Operation) (label : CallLabel) :
    (engine.perform operation).calls.count label =
      engine.calls.count label + (engine.counted operation).count label := by
  cases operation with
  | list listing =>
      have same (partner : Partner) :
          partner.reply (.list listing) = (listing.reply partner).forget := rfl
      rw [counted, audience_list, perform, list_eq_gather]
      refine count_afterwards same ?_ label
      rw [duration, filter_arrivals_list]
      exact List.mergeSort_perm _ _
  | lookUp person group =>
      have same (partner : Partner) :
          partner.reply (.lookUp person group) = (partner.lookUp person group).forget := rfl
      rw [counted, audience_lookUp, perform]
      exact count_afterwards same ((List.mergeSort_perm _ _).filter _) label
  | members group =>
      rw [counted, audience_members, ← bind_lister?, perform, duration]
      cases chosen : engine.lister? group with
      | none => simp [members, chosen]
      | some place =>
          cases found : engine.partners[place]? with
          | none => simp [members, chosen, found]
          | some partner =>
              obtain ⟨elapsed, calls⟩ := members_of_lister? chosen found
              rw [elapsed, calls, Tally.count_addAll]
              cases counted : partner.label? (.members group) <;> simp [found, counted]

/-- What several operations add to the counters, one after the other. -/
def ledger (engine : Engine) : List Operation → List CallLabel
  | [] => []
  | operation :: operations =>
      engine.counted operation ++ (engine.perform operation).ledger operations

theorem count_performAll (engine : Engine) (operations : List Operation) (label : CallLabel) :
    (engine.performAll operations).calls.count label =
      engine.calls.count label + (engine.ledger operations).count label := by
  induction operations generalizing engine with
  | nil => rfl
  | cons operation operations inductionHypothesis =>
      rw [performAll, List.foldl_cons, ← performAll, inductionHypothesis, count_perform, ledger,
        List.count_append, Nat.add_assoc]

/-- All calls have ended when a list or the members of a group are there. -/
theorem counted_of_not_lookUp {engine : Engine} {operation : Operation}
    (other : ∀ person group, operation ≠ .lookUp person group) :
    engine.counted operation =
      (engine.audience operation).filterMap (Partner.label? · operation) := by
  rw [counted, List.filter_eq_self.mpr]
  intro partner member
  rw [decide_eq_true_eq]
  cases operation with
  | list listing =>
      rw [audience_list] at member
      rw [duration, list_elapsed]
      exact lastTime_arrivals_le_iff.mp (Nat.le_refl _) partner member
  | lookUp person group => exact absurd rfl (other person group)
  | members group =>
      rw [audience_members, ← bind_lister?, Option.mem_toList] at member
      obtain ⟨place, chosen, found⟩ := Option.bind_eq_some_iff.mp member
      exact Nat.le_of_eq (members_of_lister? chosen found).1.symm

/-! ## Counting on the clock -/

/-- Once an operation is over and nothing more can end at that moment, the calls that have ended are
those that it counts. -/
theorem Concludes.labels_perm_counted {α : Type} {engine : Engine} {isAsked : Provider → Bool}
    {reply : Partner → Reply α} {rules : Discipline α} {final : Inquiry α} {operation : Operation}
    (concludes : engine.Concludes isAsked reply rules final)
    (same : ∀ partner, partner.reply operation = (reply partner).forget)
    (asked : engine.audience operation = engine.eligible isAsked)
    (now : final.now = engine.duration operation)
    (idle : ∀ task ∈ final.waiting, task.look final.now = none) :
    (final.ended.filterMap (labelOf? operation.query)).Perm (engine.counted operation) := by
  have ended := (concludes.course.perm_of_idle idle).filterMap (labelOf? operation.query)
  rwa [map_arrival_tasks, filterMap_labelOf?_arrivals same, now, ← asked] at ended

/-- A list counts the calls that have ended, in whatever order they have, when it is there. -/
theorem labels_of_list {engine : Engine} {listing : Listing} {inTurn : Bool}
    {final : Inquiry (List Group)}
    (concludes : engine.Concludes listing.isAsked listing.reply (Listing.discipline inTurn) final) :
    (final.ended.filterMap (labelOf? listing.query)).Perm (engine.counted (.list listing)) := by
  have done := waiting_eq_nil_of_concludes concludes
  have same (partner : Partner) :
      partner.reply (.list listing) = (listing.reply partner).forget := rfl
  exact concludes.labels_perm_counted same (engine.audience_list listing)
    (list_of_concludes concludes).1 (by simp [done])

section LookUp

variable {engine : Engine} {person group : String}

/-- The call to the partner that answers a look-up succeeds, at the time at which it is over. -/
theorem Wins.succeeds {place : Nat} {partner : Partner} {found : Group}
    (wins : engine.Wins person group place partner found) :
    partner.Succeeds (.lookUp person group) ∧
      partner.due (.lookUp person group) = engine.duration (.lookUp person group) := by
  refine ⟨⟨wins.brings.inTime, ?_⟩, ?_⟩
  · simp [Partner.reply, Reply.forget, wins.brings.answered, Outcome.map]
  · rw [duration, wins.groupById.2]
    exact Nat.min_eq_left wins.brings.inTime

/-- What has ended of a look-up when it is over. -/
structure Accounted (engine : Engine) (person group : String) (inTurn : Bool)
    (final : Inquiry (Option Group)) : Prop where
  /-- No task has ended twice, and none that has ended is still waited for. -/
  once : (final.ended.map Arrival.place ++ final.waiting.map Task.place).Nodup
  /-- Nothing that ends later has ended, -/
  notLater : ∀ arrival ∈ final.ended, arrival.time ≤ engine.duration (.lookUp person group)
  /-- and everything has that ends before. -/
  before : ∀ arrival ∈ engine.lookUps person group,
    arrival.time < engine.duration (.lookUp person group) → arrival ∈ final.ended
  /-- So has the call to the partner that answers, if calls end in turn. -/
  winner : inTurn → ∀ place partner found, engine.Wins person group place partner found →
    .ofReply place partner.provider (partner.lookUp person group) ∈ final.ended
  /-- If nothing more can end at that moment, what has ended is what is counted. -/
  counted : (∀ task ∈ final.waiting, task.look final.now = none) →
    (final.ended.filterMap (labelOf? (.membership person group))).Perm
      (engine.counted (.lookUp person group))

theorem accounted_of_concludes {inTurn : Bool} {final : Inquiry (Option Group)}
    (concludes : engine.Concludes (fun provider => provider.takesGroup group)
      (fun partner => partner.lookUp person group) (lookUpDiscipline inTurn) final) :
    engine.Accounted person group inTurn final := by
  have course := concludes.course
  have now : final.now = engine.duration (.lookUp person group) := now_of_concludes concludes
  have same (partner : Partner) :
      partner.reply (.lookUp person group) = (partner.lookUp person group).forget := rfl
  refine
    { once := course.nodup_places (engine.tasks_ordered _ _)
      notLater := now ▸ course.past
      before := ?before
      winner := ?winner
      counted := concludes.labels_perm_counted same (engine.audience_lookUp person group) now }
  case before =>
    intro arrival member early
    rw [lookUps, ← map_arrival_tasks] at member
    exact course.mem_ended_of_time_lt member (now ▸ early)
  case winner =>
    rintro rfl place partner found wins
    have first := firstArrival?_eq_some_iff_exists_wins.mpr ⟨place, partner, found, wins, rfl⟩
    rw [← find?_of_concludes concludes] at first
    exact List.mem_of_find?_eq_some first

end LookUp

/-- In the course of any operations, each of them asks every provider that it is for once, and
nobody else: its question is added to what these have been asked, so that in the end everybody has
been asked what was for it. It adds to the counters one label for each call that has ended by the
time it is over: under `ok` if the call succeeded within its limit, under `timeout` if it ran past
its limit or failed with a timeout, not at all if the task broke down, and under `error` otherwise.
A list and the members of a group are there when all calls have ended. A look-up is over when the
call to the provider that answers succeeds; however its tasks have been interleaved up to then, what
has ended is accounted for, and what is still waited for is not counted. -/
theorem calls_and_counts_conserved (registry : Registry) (earlier : List Operation)
    (operation : Operation) :
    let engine := (ofRegistry registry).performAll earlier
    let after := engine.perform operation
    let asked := engine.audience operation
    asked.map Partner.provider = operation.providers registry ∧
    (∀ place, after.partners[place]? = engine.partners[place]?.map fun partner =>
      if operation.isFor registry place then partner.ask operation.query else partner) ∧
    (∀ place, engine.partners[place]? = registry.providers[place]?.map fun provider =>
      Partner.mk provider
        ((earlier.filter fun before => before.isFor registry place).map Operation.query)) ∧
    (∀ label, after.calls.count label =
      engine.calls.count label + (engine.counted operation).count label) ∧
    (∀ label, engine.calls.count label = ((ofRegistry registry).ledger earlier).count label) ∧
    (∀ partner ∈ asked,
      (partner.countedAs? operation = some "ok" ↔ partner.Succeeds operation) ∧
      (partner.countedAs? operation = some "timeout" ↔ partner.TimesOut operation) ∧
      (partner.countedAs? operation = none ↔ partner.BreaksDown operation) ∧
      (partner.countedAs? operation = some "error" ↔ ¬partner.Succeeds operation ∧
        ¬partner.TimesOut operation ∧ ¬partner.BreaksDown operation)) ∧
    ((∀ person group, operation ≠ .lookUp person group) →
      engine.counted operation = asked.filterMap (Partner.label? · operation)) ∧
    (∀ listing, operation = .list listing → ∀ inTurn final,
      engine.Concludes listing.isAsked listing.reply (Listing.discipline inTurn) final →
        (final.ended.filterMap (labelOf? listing.query)).Perm (engine.counted operation)) ∧
    ∀ person group, operation = .lookUp person group →
      (∀ place partner found, engine.Wins person group place partner found →
        partner.Succeeds operation ∧ partner.due operation = engine.duration operation) ∧
      ∀ inTurn final,
        engine.Concludes (fun provider => provider.takesGroup group)
          (fun partner => partner.lookUp person group) (lookUpDiscipline inTurn) final →
        engine.Accounted person group inTurn final := by
  intro engine after asked
  have sameRegistry : engine.registry = registry := by
    rw [registry_performAll, registry_ofRegistry]
  refine ⟨?_, ?_, ?_, ?_, ?_, ?_, ?_, ?_, ?_⟩
  · rw [← sameRegistry]
    exact engine.map_provider_audience operation
  · intro place
    rw [← sameRegistry]
    exact engine.getElem?_partners_perform operation place
  · intro place
    refine ((ofRegistry registry).getElem?_partners_performAll earlier place).trans ?_
    rw [registry_ofRegistry, ofRegistry, List.getElem?_map, Option.map_map]
    rfl
  · exact engine.count_perform operation
  · intro label
    rw [count_performAll]
    exact Nat.zero_add _
  · exact fun partner _ => partner.countedAs?_iff operation
  · exact counted_of_not_lookUp
  · rintro listing rfl inTurn final concludes
    exact labels_of_list concludes
  · rintro person group rfl
    exact ⟨fun _ _ _ wins => wins.succeeds, fun _ _ concludes => accounted_of_concludes concludes⟩

end Engine

end Aggregation

end GroupFederation
