import GroupFederation.Provider.Basic

/-!
# Answers as they arrive

A question is put to several providers at once, each in a task of its own and each within the limit
of its provider. The tasks end at different times; those that end at the same time are taken in the
order of the registry. Whatever that order is, collecting puts the answers back into the order of
the registry, and merging keeps the first record of every group.
-/

namespace GroupFederation.Aggregation

variable {α : Type}

/-- The end of one task. -/
structure Arrival (α : Type) where
  /-- The place of the provider among those that were asked. -/
  place : Nat
  provider : String
  time : Nat
  outcome : Outcome α
  deriving DecidableEq, Repr

/-- The end of the task that waits for a reply within the limit of its provider. -/
def Arrival.ofReply (place : Nat) (provider : Provider) (reply : Reply α) : Arrival α :=
  let bounded := reply.within provider.timeout
  ⟨place, provider.name, bounded.delay, bounded.outcome⟩

/-- The order in which tasks end. -/
def Arrival.precedes (left right : Arrival α) : Bool :=
  left.time < right.time || (left.time == right.time && left.place ≤ right.place)

/-- The tasks in the order in which they end. -/
def inOrder (arrivals : List (Arrival α)) : List (Arrival α) :=
  arrivals.mergeSort Arrival.precedes

/-- The time at which the last task has ended. -/
def lastTime (arrivals : List (Arrival α)) : Nat :=
  (arrivals.map Arrival.time).foldl max 0

theorem Arrival.precedes_iff {left right : Arrival α} :
    left.precedes right ↔
      left.time < right.time ∨ left.time = right.time ∧ left.place ≤ right.place := by
  simp [precedes]

/-- The tasks end one after the other. -/
theorem pairwise_inOrder (arrivals : List (Arrival α)) :
    (inOrder arrivals).Pairwise fun left right => left.precedes right := by
  apply List.pairwise_mergeSort
  · intro first second third
    simp only [Arrival.precedes_iff]
    omega
  · intro left right
    simp only [Bool.or_eq_true, Arrival.precedes_iff]
    omega

/-- The last time is the least bound of all times. -/
theorem lastTime_le_iff {arrivals : List (Arrival α)} {bound : Nat} :
    lastTime arrivals ≤ bound ↔ ∀ arrival ∈ arrivals, arrival.time ≤ bound := by
  have general (start : Nat) : (arrivals.map Arrival.time).foldl max start ≤ bound ↔
      start ≤ bound ∧ ∀ arrival ∈ arrivals, arrival.time ≤ bound := by
    induction arrivals generalizing start with
    | nil => simp
    | cons arrival arrivals inductionHypothesis =>
        rw [List.map_cons, List.foldl_cons, inductionHypothesis, Nat.max_le, and_assoc,
          List.forall_mem_cons]
  simp [lastTime, general 0]

theorem lastTime_eq_of_mem {arrivals : List (Arrival α)} {arrival : Arrival α}
    (member : arrival ∈ arrivals) (latest : ∀ other ∈ arrivals, other.time ≤ arrival.time) :
    lastTime arrivals = arrival.time :=
  Nat.le_antisymm (lastTime_le_iff.mpr latest) (lastTime_le_iff.mp (Nat.le_refl _) arrival member)

/-- The values that arrived, in the order of the registry. -/
def collect (arrivals : List (Arrival α)) : List α :=
  (arrivals.mergeSort fun left right => left.place ≤ right.place).filterMap fun arrival =>
    arrival.outcome.value?

/-- Keep the groups whose identifier is not among those seen so far. -/
def dropSeen (seen : List String) : List Group → List Group
  | [] => []
  | group :: groups =>
      if seen.contains group.id then dropSeen seen groups
      else group :: dropSeen (group.id :: seen) groups

/-- One list of groups with the first record of each. -/
def merge (lists : List (List Group)) : List Group :=
  dropSeen [] lists.flatten

/-- The first arrival that brings a group, with its time. -/
def firstPresent? (arrivals : List (Arrival (Option Group))) : Option (Nat × Group) :=
  arrivals.findSome? fun arrival =>
    arrival.outcome.value?.join.map fun group => (arrival.time, group)

end GroupFederation.Aggregation
