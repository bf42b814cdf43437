import GroupFederation.Aggregation.Engine
import Mathlib.Algebra.Order.BigOperators.Group.List
import Mathlib.Algebra.Order.Group.Nat
import Mathlib.Algebra.Ring.Nat
import Mathlib.Logic.Relation

/-!
# A question under way

The engine gives the answer to a question, and the time that it takes, from the replies of the
providers. This module is about how that comes to pass on a clock. A question starts one task for
each provider that it is for. A task that is looked at is found to have ended when its reply has
come or, failing that, when its time is up. The clock goes on only while nothing can be done, and
never past the moment at which a task can end. Whoever asked waits until all tasks have ended, or
until one ends in a way that is enough.

Tasks that can end at the same moment may do so in any order, or only in that of the registry; both
are covered. The main results are that waiting comes to an end, and that at every moment what has
happened is what the replies make of it: `Course` says what that is.
-/

namespace GroupFederation.Aggregation

variable {α : Type}

/-- The call to the provider at a place among those that are asked. -/
structure Task (α : Type) where
  place : Nat
  provider : Provider
  reply : Reply α

namespace Task

/-- What a look at the task finds. The reply is looked for first, so that one that comes exactly
when the time is up is still in time. -/
def look (task : Task α) (now : Nat) : Option (Outcome α) :=
  if task.reply.delay ≤ now then some task.reply.outcome
  else if task.provider.timeout ≤ now then some (.failed (.timeout task.provider.timeout))
  else none

/-- The first moment at which a look finds something. -/
def due (task : Task α) : Nat :=
  min task.reply.delay task.provider.timeout

/-- How the task ends. -/
def arrival (task : Task α) : Arrival α :=
  .ofReply task.place task.provider task.reply

@[simp] theorem place_arrival (task : Task α) : task.arrival.place = task.place := rfl

@[simp] theorem time_arrival (task : Task α) : task.arrival.time = task.due :=
  Reply.delay_within task.provider.timeout task.reply

theorem look_eq_none_iff {task : Task α} {now : Nat} :
    task.look now = none ↔ now < task.due := by
  unfold look due
  split
  · simp only [reduceCtorEq, false_iff]
    omega
  · split <;> simp only [reduceCtorEq, false_iff, true_iff] <;> omega

/-- A look at that moment finds how the task ends. -/
theorem look_due (task : Task α) : task.look task.due = some task.arrival.outcome := by
  unfold look due arrival Arrival.ofReply Reply.within
  by_cases inTime : task.reply.delay ≤ task.provider.timeout
  · simp [inTime]
  · have limit : min task.reply.delay task.provider.timeout = task.provider.timeout := by omega
    simp [inTime, limit]

end Task

/-- The tasks of a question on a clock: those that have not ended, in the order in which they were
started, and the ends of the others in the order in which these came. -/
structure Inquiry (α : Type) where
  now : Nat := 0
  waiting : List (Task α)
  ended : List (Arrival α) := []

/-- How the tasks of a question are waited for. -/
structure Discipline (α : Type) where
  /-- The ends after which nobody waits any longer. -/
  isEnough : Arrival α → Bool
  /-- Whether tasks that can end at the same moment end in the order in which they were started. -/
  inTurn : Bool

namespace Inquiry

/-- Whoever asked may go on. -/
def IsOver (rules : Discipline α) (inquiry : Inquiry α) : Prop :=
  inquiry.waiting = [] ∨ ∃ arrival ∈ inquiry.ended, rules.isEnough arrival

/-- What can happen next. -/
inductive Step (rules : Discipline α) (inquiry : Inquiry α) : Inquiry α → Prop where
  | finish {before after : List (Task α)} {task : Task α} {outcome : Outcome α}
      (split : inquiry.waiting = before ++ task :: after)
      (found : task.look inquiry.now = some outcome)
      (turn : rules.inTurn → ∀ earlier ∈ before, earlier.look inquiry.now = none) :
      Step rules inquiry
        { inquiry with
          waiting := before ++ after
          ended := inquiry.ended ++ [⟨task.place, task.provider.name, inquiry.now, outcome⟩] }
  | pass {later : Nat} (goesOn : ¬inquiry.IsOver rules) (forward : inquiry.now < later)
      (punctual : ∀ task ∈ inquiry.waiting, later ≤ task.due) :
      Step rules inquiry { inquiry with now := later }

/-- One state of a question comes after another. -/
def Leads (rules : Discipline α) : Inquiry α → Inquiry α → Prop :=
  Relation.ReflTransGen (Step rules)

/-! ## What holds at every moment -/

/-- A question that was started with some tasks, at some moment of its course. -/
structure Course (rules : Discipline α) (tasks : List (Task α)) (inquiry : Inquiry α) : Prop where
  waiting : inquiry.waiting.Sublist tasks
  /-- Every task has ended as its reply makes it end, or is still waited for. -/
  all : (inquiry.ended ++ inquiry.waiting.map Task.arrival).Perm (tasks.map Task.arrival)
  punctual : ∀ task ∈ inquiry.waiting, inquiry.now ≤ task.due
  past : ∀ arrival ∈ inquiry.ended, arrival.time ≤ inquiry.now
  /-- The clock stands still once there is enough. -/
  still : ∀ arrival ∈ inquiry.ended, rules.isEnough arrival → arrival.time = inquiry.now
  /-- It has gone no further than to the last end once all tasks have ended. -/
  last : inquiry.waiting = [] → inquiry.now = lastTime inquiry.ended
  /-- Tasks that end in turn end before those that are still waited for. -/
  ahead : rules.inTurn → ∀ arrival ∈ inquiry.ended, ∀ task ∈ inquiry.waiting,
    arrival.precedes task.arrival
  ordered : rules.inTurn → inquiry.ended.Pairwise fun left right => left.precedes right

namespace Course

variable {rules : Discipline α} {tasks : List (Task α)} {inquiry later : Inquiry α}

theorem start (rules : Discipline α) (tasks : List (Task α)) :
    Course rules tasks { waiting := tasks } where
  waiting := .refl tasks
  all := .refl _
  punctual _ _ := Nat.zero_le _
  past := by simp
  still := by simp
  last _ := rfl
  ahead := by simp
  ordered := by simp

/-- A task that is found to have ended has just come to the moment at which it is due, and ends as
its reply makes it end. -/
theorem arrival_of_look (course : Course rules tasks inquiry) {task : Task α} {outcome : Outcome α}
    (waits : task ∈ inquiry.waiting) (found : task.look inquiry.now = some outcome) :
    task.due = inquiry.now ∧
      ⟨task.place, task.provider.name, inquiry.now, outcome⟩ = task.arrival := by
  have notBefore : ¬inquiry.now < task.due := by
    rw [← Task.look_eq_none_iff, found]
    simp
  have now : task.due = inquiry.now :=
    Nat.le_antisymm (Nat.le_of_not_lt notBefore) (course.punctual task waits)
  rw [← now, Task.look_due, Option.some.injEq] at found
  refine ⟨now, ?_⟩
  rw [← found, ← now, ← Task.time_arrival]
  rfl

/-- A task that ends in turn ends before all that are waited for beside it. -/
theorem precedes_of_turn (course : Course rules tasks inquiry)
    (ordered : tasks.Pairwise fun left right => left.place < right.place)
    {before after : List (Task α)} {task other : Task α}
    (split : inquiry.waiting = before ++ task :: after) (now : task.due = inquiry.now)
    (turn : ∀ earlier ∈ before, earlier.look inquiry.now = none)
    (member : other ∈ before ++ after) : task.arrival.precedes other.arrival := by
  rw [Arrival.precedes_iff, Task.time_arrival, Task.time_arrival, now]
  rcases List.mem_append.mp member with earlier | later
  · exact .inl (Task.look_eq_none_iff.mp (turn other earlier))
  · have due := course.punctual other (by simp [split, later])
    have numbered := ordered.sublist course.waiting
    rw [split, List.pairwise_append, List.pairwise_cons] at numbered
    have place : task.place < other.place := numbered.2.1.1 other later
    have behind : task.arrival.place ≤ other.arrival.place := Nat.le_of_lt place
    omega

theorem finish (course : Course rules tasks inquiry)
    (ordered : tasks.Pairwise fun left right => left.place < right.place)
    {before after : List (Task α)} {task : Task α}
    (split : inquiry.waiting = before ++ task :: after) (now : task.due = inquiry.now)
    (turn : rules.inTurn → ∀ earlier ∈ before, earlier.look inquiry.now = none) :
    Course rules tasks
      { inquiry with
        waiting := before ++ after
        ended := inquiry.ended ++ [task.arrival] } := by
  have waits : task ∈ inquiry.waiting := by simp [split]
  have remaining : (before ++ after).Sublist inquiry.waiting := by
    rw [split]
    exact (List.sublist_cons_self task after).append_left before
  have past : ∀ arrival ∈ inquiry.ended ++ [task.arrival], arrival.time ≤ inquiry.now := by
    simpa [or_imp, forall_and, now] using course.past
  refine
    { waiting := remaining.trans course.waiting
      all := ?all
      punctual := fun other member => course.punctual other (remaining.subset member)
      past := past
      still := ?still
      last := ?last
      ahead := ?ahead
      ordered := ?ordered }
  case all =>
    refine List.Perm.trans ?_ course.all
    simpa [split] using List.perm_middle.symm.append_left inquiry.ended
  case still => simpa [or_imp, forall_and, now] using course.still
  case last =>
    intro _
    have newest : task.arrival ∈ inquiry.ended ++ [task.arrival] := by simp
    rw [lastTime_eq_of_mem newest (by simpa [now] using past), Task.time_arrival, now]
  case ahead =>
    intro inTurn arrival member other otherMember
    rcases List.mem_append.mp member with old | new
    · exact course.ahead inTurn arrival old other (remaining.subset otherMember)
    · rw [List.mem_singleton.mp new]
      exact course.precedes_of_turn ordered split now (turn inTurn) otherMember
  case ordered =>
    intro inTurn
    refine List.pairwise_append.mpr ⟨course.ordered inTurn, List.pairwise_singleton _ _, ?_⟩
    intro arrival old new isNew
    rw [List.mem_singleton.mp isNew]
    exact course.ahead inTurn arrival old task waits

theorem pass (course : Course rules tasks inquiry) {moment : Nat}
    (goesOn : ¬inquiry.IsOver rules) (forward : inquiry.now < moment)
    (punctual : ∀ task ∈ inquiry.waiting, moment ≤ task.due) :
    Course rules tasks { inquiry with now := moment } where
  waiting := course.waiting
  all := course.all
  punctual := punctual
  past arrival member := Nat.le_trans (course.past arrival member) (Nat.le_of_lt forward)
  still arrival member enough := absurd (.inr ⟨arrival, member, enough⟩) goesOn
  last done := absurd (.inl done) goesOn
  ahead := course.ahead
  ordered := course.ordered

theorem step (course : Course rules tasks inquiry)
    (ordered : tasks.Pairwise fun left right => left.place < right.place)
    (moved : Step rules inquiry later) : Course rules tasks later := by
  cases moved with
  | finish split found turn =>
      obtain ⟨now, same⟩ := course.arrival_of_look (by simp [split]) found
      rw [same]
      exact course.finish ordered split now turn
  | pass goesOn forward punctual => exact course.pass goesOn forward punctual

theorem leads (course : Course rules tasks inquiry)
    (ordered : tasks.Pairwise fun left right => left.place < right.place)
    (led : Leads rules inquiry later) : Course rules tasks later := by
  induction led with
  | refl => exact course
  | tail _ moved inductionHypothesis => exact inductionHypothesis.step ordered moved

/-! ### What has ended by a moment -/

/-- No task ends twice, and none that has ended is still waited for. -/
theorem nodup_places (course : Course rules tasks inquiry)
    (ordered : tasks.Pairwise fun left right => left.place < right.place) :
    (inquiry.ended.map Arrival.place ++ inquiry.waiting.map Task.place).Nodup := by
  have numbered : (tasks.map Task.place).Nodup :=
    List.pairwise_map.mpr (ordered.imp Nat.ne_of_lt)
  have all := course.all.map Arrival.place
  simp only [List.map_append, List.map_map] at all
  exact all.nodup_iff.mpr numbered

/-- A task that ends before the moment has ended. -/
theorem mem_ended_of_time_lt (course : Course rules tasks inquiry) {arrival : Arrival α}
    (member : arrival ∈ tasks.map Task.arrival) (early : arrival.time < inquiry.now) :
    arrival ∈ inquiry.ended := by
  rcases List.mem_append.mp (course.all.mem_iff.mpr member) with ended | late
  · exact ended
  · obtain ⟨task, waits, rfl⟩ := List.mem_map.mp late
    have due := course.punctual task waits
    rw [Task.time_arrival] at early
    omega

/-- When nothing more can end at the moment, those tasks have ended that end by then. -/
theorem perm_of_idle (course : Course rules tasks inquiry)
    (idle : ∀ task ∈ inquiry.waiting, task.look inquiry.now = none) :
    inquiry.ended.Perm ((tasks.map Task.arrival).filter fun arrival =>
      arrival.time ≤ inquiry.now) := by
  have all := course.all.filter fun arrival => decide (arrival.time ≤ inquiry.now)
  have kept : (inquiry.ended.filter fun arrival => decide (arrival.time ≤ inquiry.now)) =
      inquiry.ended :=
    List.filter_eq_self.mpr fun arrival member => by simpa using course.past arrival member
  have dropped : ((inquiry.waiting.map Task.arrival).filter fun arrival =>
      decide (arrival.time ≤ inquiry.now)) = [] := by
    simpa [Task.look_eq_none_iff] using idle
  rwa [List.filter_append, kept, dropped, List.append_nil] at all

end Course

/-! ## Waiting comes to an end -/

/-- What can still happen at most: the clock goes on until each task is due, and the task ends. -/
def remaining (inquiry : Inquiry α) : Nat :=
  (inquiry.waiting.map fun task => task.due + 1 - inquiry.now).sum

/-- Each step leaves less to happen, so that nobody waits forever. -/
theorem remaining_lt_of_step {rules : Discipline α} {tasks : List (Task α)}
    {inquiry later : Inquiry α} (course : Course rules tasks inquiry)
    (moved : Step rules inquiry later) : later.remaining < inquiry.remaining := by
  cases moved with
  | @finish before after task outcome split found turn =>
      have due := course.punctual task (by simp [split])
      simp only [remaining, split, List.map_append, List.map_cons, List.sum_append, List.sum_cons]
      omega
  | @pass moment goesOn forward punctual =>
      have somebody : inquiry.waiting ≠ [] := fun done => goesOn (.inl done)
      obtain ⟨first, waits⟩ := List.exists_mem_of_ne_nil _ somebody
      simp only [remaining]
      apply List.sum_lt_sum
      · intro task member
        omega
      · refine ⟨first, waits, ?_⟩
        have due := punctual first waits
        omega

/-- As long as it is not over, something can happen: the first task that has ended is found, or the
clock goes on. -/
theorem isOver_or_exists_step (rules : Discipline α) (inquiry : Inquiry α) :
    inquiry.IsOver rules ∨ ∃ later, Step rules inquiry later := by
  by_cases isOver : inquiry.IsOver rules
  · exact .inl isOver
  · right
    cases found : inquiry.waiting.find? fun task => (task.look inquiry.now).isSome with
    | some task =>
        obtain ⟨ready, before, after, split, earlier⟩ := List.find?_eq_some_iff_append.mp found
        obtain ⟨outcome, look⟩ := Option.isSome_iff_exists.mp ready
        exact ⟨_, .finish split look fun _ => by simpa using earlier⟩
    | none =>
        have idle := List.find?_eq_none.mp found
        refine ⟨_, .pass isOver (Nat.lt_succ_self inquiry.now) fun task member => ?_⟩
        exact Task.look_eq_none_iff.mp (by simpa using idle task member)

/-- From every moment on there is an end. -/
theorem exists_isOver {rules : Discipline α} {tasks : List (Task α)}
    (ordered : tasks.Pairwise fun left right => left.place < right.place)
    (inquiry : Inquiry α) (course : Course rules tasks inquiry) :
    ∃ final, Leads rules inquiry final ∧ final.IsOver rules := by
  rcases inquiry.isOver_or_exists_step rules with isOver | ⟨later, moved⟩
  · exact ⟨inquiry, .refl, isOver⟩
  · have shorter := remaining_lt_of_step course moved
    obtain ⟨final, led, isOver⟩ := exists_isOver ordered later (course.step ordered moved)
    exact ⟨final, .head moved led, isOver⟩
termination_by inquiry.remaining

end Inquiry

namespace Engine

/-! ## The questions of the engine -/

/-- The tasks that a question starts. -/
def tasks (engine : Engine) (isAsked : Provider → Bool) (reply : Partner → Reply α) :
    List (Task α) :=
  (engine.eligible isAsked).zipIdx.map fun (partner, place) =>
    ⟨place, partner.provider, reply partner⟩

/-- A state in which a question can be over. -/
structure Concludes (engine : Engine) (isAsked : Provider → Bool) (reply : Partner → Reply α)
    (rules : Discipline α) (final : Inquiry α) : Prop where
  led : Inquiry.Leads rules { waiting := engine.tasks isAsked reply } final
  isOver : final.IsOver rules

/-- The ends that the engine reckons with are those of the tasks. -/
theorem map_arrival_tasks (engine : Engine) (isAsked : Provider → Bool)
    (reply : Partner → Reply α) :
    (engine.tasks isAsked reply).map Task.arrival = engine.arrivals isAsked reply := by
  rw [tasks, arrivals, List.map_map]
  rfl

theorem tasks_ordered (engine : Engine) (isAsked : Provider → Bool) (reply : Partner → Reply α) :
    (engine.tasks isAsked reply).Pairwise fun left right => left.place < right.place := by
  rw [tasks, List.pairwise_map, ← List.pairwise_map (f := Prod.snd)
    (R := fun left right : Nat => left < right), List.zipIdx_map_snd]
  exact List.pairwise_lt_range'

variable {engine : Engine} {isAsked : Provider → Bool} {reply : Partner → Reply α}
  {rules : Discipline α} {final : Inquiry α}

theorem exists_concludes (engine : Engine) (isAsked : Provider → Bool)
    (reply : Partner → Reply α) (rules : Discipline α) :
    ∃ final, engine.Concludes isAsked reply rules final := by
  obtain ⟨final, led, isOver⟩ :=
    Inquiry.exists_isOver (engine.tasks_ordered isAsked reply) _ (.start rules _)
  exact ⟨final, led, isOver⟩

theorem Concludes.course (concludes : engine.Concludes isAsked reply rules final) :
    Inquiry.Course rules (engine.tasks isAsked reply) final :=
  (Inquiry.Course.start rules _).leads (engine.tasks_ordered isAsked reply) concludes.led

/-- The ends that the engine reckons with have come or are still waited for. -/
theorem Concludes.mem_arrivals_iff (concludes : engine.Concludes isAsked reply rules final)
    {arrival : Arrival α} :
    arrival ∈ engine.arrivals isAsked reply ↔
      arrival ∈ final.ended ∨ ∃ task ∈ final.waiting, task.arrival = arrival := by
  rw [← map_arrival_tasks, ← concludes.course.all.mem_iff, List.mem_append, List.mem_map]

/-- Once all tasks have ended, all ends are there and the clock shows the last of them. -/
theorem Concludes.of_all_ended (concludes : engine.Concludes isAsked reply rules final)
    (done : final.waiting = []) :
    final.ended.Perm (engine.arrivals isAsked reply) ∧ final.now = lastTime final.ended := by
  have all := concludes.course.all
  rw [done, List.map_nil, List.append_nil, map_arrival_tasks] at all
  exact ⟨all, concludes.course.last done⟩

end Engine

end GroupFederation.Aggregation
