import GroupFederation.Proofs.Token.Recall

/-!
# The decision cache as a timed map

A timed map knows for every token the last verdict that was put there and when; it gives that
verdict away until the time to live has passed. There is nothing in it to evict or to sweep. The
cache answers every look-up as the map does, whatever is stored, replaced, looked up, evicted and
swept in between, so that evictions and sweeps cannot be told from the answers.
-/

namespace GroupFederation.Token

/-- Something that can be done to a cache. -/
inductive Operation where
  | put (token : String) (verdict : Verdict)
  | get (token : String)
  | evict
  /-- A background sweep, whenever it may come. -/
  | sweep
  | startSweeping (interval : Nat)
  | stopSweeping (number : Nat)
  | wait (duration : Nat)
  deriving DecidableEq, Repr

/-- Whether an operation is one of those that only clear stale entries away. -/
def Operation.isHousekeeping : Operation → Bool
  | .evict | .sweep | .startSweeping _ | .stopSweeping _ => true
  | _ => false

/-- What comes back from an operation. -/
inductive Answer where
  | done
  | found (verdict? : Option Verdict)
  | removed (count : Nat)
  | started (number : Nat)
  deriving DecidableEq, Repr

/-- A cache on a clock. -/
structure Clocked where
  cache : Cache
  now : Nat := 0

namespace Clocked

/-- Carry an operation out. While time passes the sweeps that fall due are run. -/
def perform (clocked : Clocked) : Operation → Answer × Clocked
  | .put token verdict =>
      (.done, { clocked with cache := clocked.cache.put clocked.now token verdict })
  | .get token =>
      let (found, cache) := clocked.cache.get clocked.now token
      (.found found, { clocked with cache := cache })
  | .evict =>
      let (count, cache) := clocked.cache.evict clocked.now
      (.removed count, { clocked with cache := cache })
  | .sweep => (.done, { clocked with cache := clocked.cache.sweep clocked.now })
  | .startSweeping interval =>
      let (number, cache) := clocked.cache.startSweeping clocked.now interval
      (.started number, { clocked with cache := cache })
  | .stopSweeping number =>
      (.done, { clocked with cache := clocked.cache.stopSweeping number })
  | .wait duration =>
      let now := clocked.now + duration
      (.done, ⟨clocked.cache.sweepUpTo now, now⟩)

/-- Carry operations out one after the other. -/
def run (clocked : Clocked) (operations : List Operation) : Clocked :=
  operations.foldl (fun clocked operation => (clocked.perform operation).2) clocked

/-- What the look-ups among some operations find, in order. -/
def lookups (clocked : Clocked) : List Operation → List (Option Verdict)
  | [] => []
  | operation :: operations =>
      match clocked.perform operation with
      | (.found verdict?, clocked) => verdict? :: clocked.lookups operations
      | (_, clocked) => clocked.lookups operations

end Clocked

/-- What was put last for every token, on a clock. -/
structure TimedMap where
  memory : Memory := .empty
  now : Nat := 0

namespace TimedMap

/-- Only putting and the passing of time make a difference. -/
def step (map : TimedMap) : Operation → TimedMap
  | .put token verdict => { map with memory := map.memory.store map.now token verdict }
  | .wait duration => { map with now := map.now + duration }
  | _ => map

/-- What the look-ups among some operations find, in order. -/
def lookups (ttl : Nat) (map : TimedMap) : List Operation → List (Option Verdict)
  | [] => []
  | .get token :: operations =>
      map.memory.current? ttl map.now token :: map.lookups ttl operations
  | operation :: operations => (map.step operation).lookups ttl operations

/-- Operations that only clear stale entries away do not exist for the map. -/
theorem lookups_filter (ttl : Nat) (map : TimedMap) (operations : List Operation) :
    map.lookups ttl (operations.filter fun operation => !operation.isHousekeeping) =
      map.lookups ttl operations := by
  induction operations generalizing map with
  | nil => rfl
  | cons operation operations inductionHypothesis =>
      cases operation with
      | get token => exact congrArg (List.cons _) (inductionHypothesis map)
      | put token verdict => exact inductionHypothesis (map.step (.put token verdict))
      | wait duration => exact inductionHypothesis (map.step (.wait duration))
      | _ => exact inductionHypothesis map

end TimedMap

/-! ## The cache follows the map -/

/-- A cache with a time to live that holds what a map does, on the same clock. -/
structure Clocked.Follows (clocked : Clocked) (ttl : Nat) (map : TimedMap) : Prop where
  ttl : clocked.cache.ttl = ttl
  now : clocked.now = map.now
  remembers : clocked.cache.Remembers clocked.now map.memory

namespace Clocked.Follows

variable {clocked : Clocked} {ttl : Nat} {map : TimedMap}

/-- A cache that has lost nothing but stale entries still follows. -/
theorem shed (follows : clocked.Follows ttl map) {cache : Cache}
    (sheds : cache.Sheds clocked.now clocked.cache) :
    Follows { clocked with cache := cache } ttl map :=
  ⟨sheds.ttl.trans follows.ttl, follows.now, follows.remembers.shed sheds⟩

theorem elapse (follows : clocked.Follows ttl map) (duration : Nat) :
    Follows { clocked with now := clocked.now + duration } ttl (map.step (.wait duration)) :=
  ⟨follows.ttl, congrArg (· + duration) follows.now,
    follows.remembers.elapse (Nat.le_add_right clocked.now duration)⟩

theorem put (follows : clocked.Follows ttl map) (token : String) (verdict : Verdict) :
    Follows { clocked with cache := clocked.cache.put clocked.now token verdict } ttl
      (map.step (.put token verdict)) := by
  refine ⟨follows.ttl, follows.now, ?_⟩
  simp only [TimedMap.step, ← follows.now]
  exact follows.remembers.put token verdict

theorem perform (follows : clocked.Follows ttl map) (operation : Operation) :
    (clocked.perform operation).2.Follows ttl (map.step operation) := by
  cases operation with
  | put token verdict => exact follows.put token verdict
  | get token => exact follows.shed (follows.remembers.sheds_get token)
  | evict => exact follows.shed (.sweep clocked.cache (Nat.le_refl clocked.now))
  | sweep => exact follows.shed (.sweep clocked.cache (Nat.le_refl clocked.now))
  | startSweeping interval =>
      exact follows.shed (.startSweeping clocked.cache clocked.now interval)
  | stopSweeping number => exact follows.shed (.stopSweeping clocked.cache clocked.now number)
  | wait duration =>
      exact (follows.elapse duration).shed (.sweepUpTo clocked.cache (clocked.now + duration))

theorem run (follows : clocked.Follows ttl map) (operations : List Operation) :
    (clocked.run operations).Follows ttl (operations.foldl TimedMap.step map) := by
  induction operations generalizing clocked map with
  | nil => exact follows
  | cons operation operations inductionHypothesis =>
      exact inductionHypothesis (follows.perform operation)

theorem lookups_eq (follows : clocked.Follows ttl map) (operations : List Operation) :
    clocked.lookups operations = map.lookups ttl operations := by
  induction operations generalizing clocked map with
  | nil => rfl
  | cons operation operations inductionHypothesis =>
      have rest := inductionHypothesis (follows.perform operation)
      cases operation with
      | get token =>
          have found : (clocked.cache.get clocked.now token).1 =
              map.memory.current? ttl map.now token := by
            rw [follows.remembers.get_eq_current?, follows.ttl, follows.now]
          exact List.cons_eq_cons.mpr ⟨found, rest⟩
      | _ => exact rest

end Clocked.Follows

/-- An eviction counts the entries that are stale and leaves the others. -/
theorem Cache.evict_eq (cache : Cache) (now : Nat) :
    cache.evict now =
      (cache.entries.countP fun entry => cache.ttl ≤ now - entry.storedAt,
        { cache with
          entries := cache.entries.filter fun entry => now - entry.storedAt < cache.ttl }) := by
  have split := List.length_eq_countP_add_countP (cache.isFresh now) (l := cache.entries)
  have counted : cache.size - (cache.sweep now).size =
      cache.entries.countP fun entry => cache.ttl ≤ now - entry.storedAt := by
    rw [size, size, sweep, ← List.countP_eq_length_filter, split, Nat.add_sub_cancel_left]
    refine List.countP_congr fun entry _ => ?_
    simp [isFresh]
  exact Prod.ext counted rfl

/-- The cache refines the timed map. In every sequence of operations each look-up finds the verdict
that was put last for its token, if that was less than a time to live before, and nothing
otherwise. Leaving out or adding evictions and sweeps anywhere changes no look-up. An eviction that
comes after any such sequence counts the entries that are as old as the time to live or older, and
leaves the others. -/
theorem lookups_as_in_timed_map (ttl : Nat) (operations : List Operation) :
    let unused : Clocked := { cache := { ttl := ttl } }
    unused.lookups operations = ({} : TimedMap).lookups ttl operations ∧
    (∀ others : List Operation,
      (others.filter fun operation => !operation.isHousekeeping) =
        (operations.filter fun operation => !operation.isHousekeeping) →
      unused.lookups others = unused.lookups operations) ∧
    let used := unused.run operations
    (used.perform .evict).1 =
      .removed (used.cache.entries.countP fun entry => ttl ≤ used.now - entry.storedAt) ∧
    (used.perform .evict).2.cache.entries =
      used.cache.entries.filter fun entry => used.now - entry.storedAt < ttl := by
  intro unused
  have follows : unused.Follows ttl {} := ⟨rfl, rfl, .empty ttl 0⟩
  refine ⟨follows.lookups_eq operations, fun others same => ?_, ?_⟩
  · rw [follows.lookups_eq others, follows.lookups_eq operations,
      ← TimedMap.lookups_filter ttl {} others, same, TimedMap.lookups_filter]
  · intro used
    have sameTtl : used.cache.ttl = ttl := (follows.run operations).ttl
    simp only [Clocked.perform, Cache.evict_eq, sameTtl, and_self]

-- A verdict is found one millisecond short of the time to live, and not at that time.
example :
    Clocked.lookups { cache := { ttl := 10 } }
      [.put "t" .invalid, .startSweeping 4, .wait 9, .get "t", .evict, .wait 1, .get "t"] =
        [some .invalid, none] := by
  decide

end GroupFederation.Token
