import GroupFederation.Proofs.Token.Loss

/-!
# What a cache remembers

A memory has for every token the verdict that was stored last and the time of that, however long
ago it may be. A cache `Remembers` a memory when it holds nothing that is not in it, and all of it
that is still fresh. Whether a stale entry is stored or not makes no difference to a look-up, so
that the relation outlasts whatever takes only stale entries away, and what a look-up finds can be
read off the memory.
-/

namespace GroupFederation.Token

/-- For every token the verdict that was stored last, and when. -/
abbrev Memory := String → Option (Verdict × Nat)

namespace Memory

/-- The memory of somebody who has stored nothing yet. -/
def empty : Memory := fun _ => none

/-- Store a verdict in place of an earlier one. -/
def store (memory : Memory) (now : Nat) (token : String) (verdict : Verdict) : Memory :=
  fun other => if other = token then some (verdict, now) else memory other

/-- The verdict on a token, if it was stored less than a time to live ago. -/
def current? (memory : Memory) (ttl now : Nat) (token : String) : Option Verdict :=
  ((memory token).filter fun stored => now - stored.2 < ttl).map Prod.fst

theorem current?_eq_some_iff {memory : Memory} {ttl now : Nat} {token : String}
    {verdict : Verdict} :
    memory.current? ttl now token = some verdict ↔
      ∃ time, memory token = some (verdict, time) ∧ now - time < ttl := by
  simp only [current?, Option.map_eq_some_iff, Option.filter_eq_some_iff, decide_eq_true_eq,
    Prod.exists, exists_and_right, exists_eq_right]

end Memory

/-! ## Losing nothing but stale entries -/

/-- A cache that holds what another one holds, but for entries that are stale at some time. -/
structure Cache.Sheds (now : Nat) (smaller larger : Cache) : Prop extends
    smaller.Within larger where
  fresh : ∀ entry ∈ larger.entries, larger.isFresh now entry → entry ∈ smaller.entries

namespace Cache.Sheds

theorem refl (now : Nat) (cache : Cache) : Sheds now cache cache :=
  ⟨.refl cache, fun _ member _ => member⟩

theorem trans {now : Nat} {first second third : Cache} (left : Sheds now first second)
    (right : Sheds now second third) : Sheds now first third := by
  refine ⟨left.toWithin.trans right.toWithin, fun entry member fresh => ?_⟩
  apply left.fresh entry (right.fresh entry member fresh)
  simpa only [isFresh, right.ttl] using fresh

/-- A sweep takes away what is stale at its time, and the more so later on. -/
theorem sweep (cache : Cache) {earlier now : Nat} (ordered : earlier ≤ now) :
    Sheds now (cache.sweep earlier) cache :=
  ⟨.sweep cache earlier, fun _ member fresh =>
    mem_entries_sweep.mpr ⟨member, isFresh_of_le ordered fresh⟩⟩

/-- The last sweep that is due up to a time is not due after it. -/
theorem last_le {sweeper : Sweeper} {now : Nat} (due : sweeper.next ≤ now) :
    sweeper.last now ≤ now := by
  have elapsed := Nat.div_mul_le_self (now - sweeper.next) sweeper.interval
  unfold Sweeper.last
  omega

theorem runSweepers (now : Nat) (sweepers : List Sweeper) (cache : Cache) :
    Sheds now (sweepers.foldl (runSweeper now) cache) cache := by
  induction sweepers generalizing cache with
  | nil => exact refl now cache
  | cons sweeper sweepers inductionHypothesis =>
      refine (inductionHypothesis _).trans ?_
      unfold Cache.runSweeper
      split
      · exact refl now cache
      · next due => exact sweep cache (last_le (Nat.le_of_not_lt due))

theorem sweepUpTo (cache : Cache) (now : Nat) : Sheds now (cache.sweepUpTo now) cache :=
  ⟨.sweepUpTo cache now, (runSweepers now cache.sweepers cache).fresh⟩

theorem startSweeping (cache : Cache) (now interval : Nat) :
    Sheds now (cache.startSweeping now interval).2 cache := by
  refine ⟨.startSweeping cache now interval, fun entry member fresh => ?_⟩
  unfold Cache.startSweeping
  by_cases never : interval = 0
  · simpa only [never, if_true] using member
  · simp only [never, if_false]
    exact mem_entries_sweep.mpr ⟨member, fresh⟩

theorem stopSweeping (cache : Cache) (now number : Nat) :
    Sheds now (cache.stopSweeping number) cache :=
  ⟨.stopSweeping cache number, fun _ member _ => member⟩

end Cache.Sheds

/-! ## A cache and its memory -/

/-- A cache that holds a memory, but for entries that are stale. -/
structure Cache.Remembers (cache : Cache) (now : Nat) (memory : Memory) : Prop where
  backed : ∀ entry ∈ cache.entries, memory entry.token = some (entry.verdict, entry.storedAt)
  kept : ∀ entry, memory entry.token = some (entry.verdict, entry.storedAt) →
    cache.isFresh now entry → entry ∈ cache.entries

namespace Cache.Remembers

variable {cache : Cache} {now : Nat} {memory : Memory}

theorem empty (ttl now : Nat) : ({ ttl := ttl } : Cache).Remembers now .empty :=
  ⟨fun _ member => by simp at member, fun _ stored => by simp [Memory.empty] at stored⟩

/-- A token has at most one entry. -/
theorem eq_of_token_eq (remembers : cache.Remembers now memory) {left right : Entry}
    (leftMember : left ∈ cache.entries) (rightMember : right ∈ cache.entries)
    (same : left.token = right.token) : left = right := by
  have stored := remembers.backed left leftMember
  rw [same, remembers.backed right rightMember, Option.some.injEq, Prod.mk.injEq] at stored
  cases left
  cases right
  simp_all

/-- What a look-up finds is what the memory has that is fresh. -/
theorem get_eq_current? (remembers : cache.Remembers now memory) (token : String) :
    (cache.get now token).1 = memory.current? cache.ttl now token := by
  refine Option.ext fun verdict => ?_
  rw [Memory.current?_eq_some_iff]
  constructor
  · intro found
    obtain ⟨entry, member, rfl, rfl, fresh⟩ := exists_entry_of_get found
    exact ⟨entry.storedAt, remembers.backed entry member, fresh⟩
  · rintro ⟨time, stored, fresh⟩
    have held := remembers.kept ⟨token, verdict, time⟩ stored (by simpa [isFresh] using fresh)
    unfold Cache.get
    cases found : cache.stored? token with
    | none => simpa using List.find?_eq_none.mp found _ held
    | some entry =>
        have same : entry.token = token := by simpa using List.find?_some found
        have only := remembers.eq_of_token_eq (List.mem_of_find?_eq_some found) held same
        subst only
        simp [isFresh, fresh]

/-- A look-up takes away the entry of its token only when that is stale. -/
theorem sheds_get (remembers : cache.Remembers now memory) (token : String) :
    Sheds now (cache.get now token).2 cache := by
  refine ⟨.get cache now token, fun entry member fresh => ?_⟩
  unfold Cache.get
  cases found : cache.stored? token with
  | none => exact member
  | some stored =>
      by_cases good : cache.isFresh now stored
      · simpa [good] using member
      · simp only [good, if_false, Bool.false_eq_true]
        refine mem_entries_erase.mpr ⟨member, fun same => good ?_⟩
        have foundToken : stored.token = token := by simpa using List.find?_some found
        rw [remembers.eq_of_token_eq (List.mem_of_find?_eq_some found) member
          (foundToken.trans same.symm)]
        exact fresh

theorem shed (remembers : cache.Remembers now memory) {smaller : Cache}
    (sheds : Sheds now smaller cache) : smaller.Remembers now memory := by
  refine ⟨fun entry member => remembers.backed entry (sheds.entries entry member),
    fun entry stored fresh => ?_⟩
  have freshBefore : cache.isFresh now entry := by
    simpa only [isFresh, sheds.ttl] using fresh
  exact sheds.fresh entry (remembers.kept entry stored freshBefore) freshBefore

/-- As time passes less is fresh. -/
theorem elapse (remembers : cache.Remembers now memory) {later : Nat} (ordered : now ≤ later) :
    cache.Remembers later memory :=
  ⟨remembers.backed, fun entry stored fresh =>
    remembers.kept entry stored (isFresh_of_le ordered fresh)⟩

theorem put (remembers : cache.Remembers now memory) (token : String) (verdict : Verdict) :
    (cache.put now token verdict).Remembers now (memory.store now token verdict) := by
  refine ⟨fun entry member => ?_, fun entry stored fresh => ?_⟩
  · rcases mem_entries_put.mp member with ⟨kept, other⟩ | rfl
    · simpa [Memory.store, other] using remembers.backed entry kept
    · simp [Memory.store]
  · rw [mem_entries_put]
    by_cases same : entry.token = token
    · right
      simp only [Memory.store, same, if_true, Option.some.injEq, Prod.mk.injEq] at stored
      obtain ⟨rfl, rfl⟩ := stored
      rw [← same]
    · left
      simp only [Memory.store, same, if_false] at stored
      exact ⟨remembers.kept entry stored fresh, same⟩

end Cache.Remembers

end GroupFederation.Token
