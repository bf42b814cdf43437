import GroupFederation.Proofs.Token.Traffic

/-!
# Losing entries

Sweeps, evictions and look-ups take entries away and leave those that remain as they are. A cache
after any of them is `Within` the one before, and so is a chain, whose validators have not been
asked anything meanwhile. What holds of every entry of a cache is therefore kept by all of them.
-/

namespace GroupFederation.Token

/-- A cache that holds nothing that another one does not hold. -/
structure Cache.Within (smaller larger : Cache) : Prop where
  ttl : smaller.ttl = larger.ttl
  entries : ∀ entry ∈ smaller.entries, entry ∈ larger.entries

namespace Cache.Within

theorem refl (cache : Cache) : cache.Within cache :=
  ⟨rfl, fun _ member => member⟩

theorem trans {first second third : Cache} (left : first.Within second)
    (right : second.Within third) : first.Within third :=
  ⟨left.ttl.trans right.ttl, fun entry member =>
    right.entries entry (left.entries entry member)⟩

theorem sweep (cache : Cache) (now : Nat) : (cache.sweep now).Within cache :=
  ⟨rfl, fun _ member => (mem_entries_sweep.mp member).1⟩

theorem get (cache : Cache) (now : Nat) (token : String) :
    (cache.get now token).2.Within cache := by
  unfold Cache.get
  cases cache.stored? token with
  | none => exact refl cache
  | some entry =>
      by_cases fresh : cache.isFresh now entry
      · simpa [fresh] using refl cache
      · simp only [fresh, if_false, Bool.false_eq_true]
        exact ⟨rfl, fun _ member => (mem_entries_erase.mp member).1⟩

theorem runSweepers (now : Nat) (sweepers : List Sweeper) (cache : Cache) :
    (sweepers.foldl (Cache.runSweeper now) cache).Within cache := by
  induction sweepers generalizing cache with
  | nil => exact refl cache
  | cons sweeper sweepers inductionHypothesis =>
      refine (inductionHypothesis _).trans ?_
      unfold Cache.runSweeper
      split
      · exact refl cache
      · exact sweep cache (sweeper.last now)

theorem sweepUpTo (cache : Cache) (now : Nat) : (cache.sweepUpTo now).Within cache :=
  let swept := runSweepers now cache.sweepers cache
  ⟨swept.ttl, swept.entries⟩

theorem startSweeping (cache : Cache) (now interval : Nat) :
    (cache.startSweeping now interval).2.Within cache := by
  unfold Cache.startSweeping
  by_cases never : interval = 0
  · simp only [never, if_true]
    exact ⟨rfl, fun _ member => member⟩
  · simp only [never, if_false]
    exact ⟨rfl, fun _ member => (mem_entries_sweep.mp member).1⟩

theorem stopSweeping (cache : Cache) (number : Nat) : (cache.stopSweeping number).Within cache :=
  ⟨rfl, fun _ member => member⟩

end Cache.Within

/-- What a look-up finds is the verdict of a fresh entry for the token. -/
theorem Cache.exists_entry_of_get {cache : Cache} {now : Nat} {token : String} {verdict : Verdict}
    (found : (cache.get now token).1 = some verdict) :
    ∃ entry ∈ cache.entries,
      entry.token = token ∧ entry.verdict = verdict ∧ now - entry.storedAt < cache.ttl := by
  unfold Cache.get at found
  cases stored : cache.stored? token with
  | none => simp [stored] at found
  | some entry =>
      have member : entry ∈ cache.entries := List.mem_of_find?_eq_some stored
      have same : entry.token = token := by simpa using List.find?_some stored
      by_cases fresh : cache.isFresh now entry
      · simp only [stored, fresh, if_true, Option.some.injEq] at found
        exact ⟨entry, member, same, found, by simpa [Cache.isFresh] using fresh⟩
      · simp [stored, fresh] at found

/-- A chain that differs from another one in nothing but what its cache has lost and what was
counted and sent. -/
structure Chain.Within (smaller larger : Chain) : Prop where
  desks : smaller.desks = larger.desks
  cache : ∀ cache ∈ smaller.cache, ∃ other ∈ larger.cache, cache.Within other

namespace Chain.Within

theorem refl (chain : Chain) : chain.Within chain :=
  ⟨rfl, fun cache member => ⟨cache, member, .refl cache⟩⟩

theorem trans {first second third : Chain} (left : first.Within second)
    (right : second.Within third) : first.Within third := by
  refine ⟨left.desks.trans right.desks, fun cache member => ?_⟩
  obtain ⟨middle, middleMember, leftWithin⟩ := left.cache cache member
  obtain ⟨other, otherMember, rightWithin⟩ := right.cache middle middleMember
  exact ⟨other, otherMember, leftWithin.trans rightWithin⟩

theorem mapCache (chain : Chain) {change : Cache → Cache}
    (within : ∀ cache, (change cache).Within cache) : (chain.mapCache change).Within chain := by
  refine ⟨rfl, fun cache member => ?_⟩
  simp only [Chain.mapCache, Option.mem_def, Option.map_eq_some_iff] at member
  obtain ⟨other, present, rfl⟩ := member
  exact ⟨other, present, within other⟩

theorem sweepUpTo (chain : Chain) (now : Nat) : (chain.sweepUpTo now).Within chain :=
  mapCache chain fun cache => .sweepUpTo cache now

theorem evict (chain : Chain) (now : Nat) : (chain.evict now).2.Within chain := by
  unfold Chain.evict
  cases present : chain.cache with
  | none => exact refl chain
  | some cache =>
      refine ⟨rfl, fun other member => ?_⟩
      simp only [Option.mem_def, Option.some.injEq] at member
      subst member
      exact ⟨cache, present, .sweep cache now⟩

theorem afterMiss (chain : Chain) (now : Nat) (token : String) :
    (chain.afterMiss now token).Within chain := by
  refine trans ?_ (sweepUpTo chain now)
  unfold Chain.afterMiss
  cases present : (chain.sweepUpTo now).cache with
  | none => exact refl _
  | some cache =>
      refine ⟨rfl, fun other member => ?_⟩
      simp only [Chain.count, Option.mem_def, Option.some.injEq] at member
      subst member
      exact ⟨cache, present, .get cache now token⟩

end Chain.Within

end GroupFederation.Token
