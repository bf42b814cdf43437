import GroupFederation.Proofs.Token.Provenance
import GroupFederation.Proofs.Token.Sweeping
import GroupFederation.Proofs.Token.Transition
import Mathlib.Data.List.Nodup
import Mathlib.Data.List.Perm.Subperm

/-!
# How long entries are kept

A stale entry is of no use, but it takes up room until a look-up of its own token or a sweep removes
it. While a background sweep is repeated, every entry is younger than the time to live and the
interval between two sweeps together, so that no more entries are held than tokens have been decided
on in that time. The sweeper carries the argument: its next sweep never comes later than a time to
live and an interval after any entry was stored.
-/

namespace GroupFederation.Token

namespace Cache

/-! ## A cache under a sweeper -/

/-- A cache with one entry for a token, in which some sweeper of the given interval will come by
soon enough for every entry. -/
structure IsPaced (cache : Cache) (interval now : Nat) : Prop where
  distinct : (cache.entries.map Entry.token).Nodup
  sweeper : ∃ sweeper ∈ cache.sweepers, sweeper.interval = interval ∧
    sweeper.next ≤ now + interval ∧
      ∀ entry ∈ cache.entries, sweeper.next ≤ entry.storedAt + cache.ttl + interval

namespace IsPaced

variable {cache : Cache} {interval now : Nat}

theorem startSweeping (ttl now : Nat) (positive : 0 < interval) :
    ((Cache.startSweeping { ttl := ttl } now interval).2).IsPaced interval now := by
  have started : (Cache.startSweeping { ttl := ttl } now interval).2 =
      { ttl := ttl, sweepers := [⟨0, now + interval, interval⟩], started := 1 } := by
    simp [Cache.startSweeping, Nat.ne_of_gt positive, sweep]
  rw [started]
  exact ⟨.nil, _, List.mem_singleton_self _, rfl, Nat.le_refl _, by simp⟩

theorem elapse (paced : cache.IsPaced interval now) {later : Nat} (ordered : now ≤ later) :
    cache.IsPaced interval later := by
  obtain ⟨sweeper, member, same, soon, forEach⟩ := paced.sweeper
  exact ⟨paced.distinct, sweeper, member, same,
    Nat.le_trans soon (Nat.add_le_add_right ordered interval), forEach⟩

/-- Entries may be lost. -/
theorem shrink (paced : cache.IsPaced interval now) {smaller : Cache}
    (entries : smaller.entries.Sublist cache.entries) (ttl : smaller.ttl = cache.ttl)
    (sweepers : smaller.sweepers = cache.sweepers) : smaller.IsPaced interval now := by
  obtain ⟨sweeper, member, same, soon, forEach⟩ := paced.sweeper
  refine ⟨(entries.map Entry.token).nodup paced.distinct, sweeper, sweepers ▸ member, same, soon,
    fun entry kept => ?_⟩
  rw [ttl]
  exact forEach entry (entries.subset kept)

theorem erase (paced : cache.IsPaced interval now) (token : String) :
    (cache.erase token).IsPaced interval now :=
  paced.shrink List.filter_sublist rfl rfl

theorem get (paced : cache.IsPaced interval now) (token : String) :
    ((cache.get now token).2).IsPaced interval now := by
  unfold Cache.get
  cases cache.stored? token with
  | none => exact paced
  | some entry =>
      by_cases fresh : cache.isFresh now entry
      · simpa [fresh] using paced
      · simpa [fresh] using paced.erase token

theorem put (paced : cache.IsPaced interval now) (token : String) (verdict : Verdict) :
    (cache.put now token verdict).IsPaced interval now := by
  have erased := paced.erase token
  obtain ⟨sweeper, member, same, soon, forEach⟩ := erased.sweeper
  constructor
  · have others : token ∉ (cache.erase token).entries.map Entry.token := by
      simp [Cache.erase]
    rw [Cache.put, List.map_append, List.map_singleton, ← List.concat_eq_append]
    exact erased.distinct.concat others
  · refine ⟨sweeper, member, same, soon, fun entry kept => ?_⟩
    rcases List.mem_append.mp kept with earlier | new
    · exact forEach entry earlier
    · rw [List.mem_singleton.mp new]
      exact Nat.le_trans soon (Nat.add_le_add_right (Nat.le_add_right now _) interval)

/-- A sweeper that has come by comes again soon enough for whatever has outlasted it. -/
theorem sweepUpTo (paced : cache.IsPaced interval now) :
    (cache.sweepUpTo now).IsPaced interval now := by
  obtain ⟨sweeper, member, rfl, soon, forEach⟩ := paced.sweeper
  rw [sweepUpTo_eq]
  refine ⟨(List.filter_sublist.map Entry.token).nodup paced.distinct, sweeper.wait now,
    List.mem_map_of_mem member, sweeper.interval_wait now, ?_⟩
  rcases Nat.lt_or_ge now sweeper.next with early | due
  · rw [Sweeper.wait_of_lt early]
    exact ⟨soon, fun entry kept => forEach entry (List.mem_of_mem_filter kept)⟩
  · rw [Sweeper.wait_of_le due]
    refine ⟨Nat.add_le_add_right (Sheds.last_le due) _, fun entry kept => ?_⟩
    have outlasts := List.all_eq_true.mp (List.mem_filter.mp kept).2 sweeper member
    have fresh : sweeper.last now - entry.storedAt < cache.ttl := by
      simpa [Cache.outlasts, Nat.not_lt_of_le due, isFresh] using outlasts
    show sweeper.last now + sweeper.interval ≤ entry.storedAt + cache.ttl + sweeper.interval
    omega

/-- Once the sweeps that are due have run, every entry is young. -/
theorem age_lt (paced : cache.IsPaced interval now) (positive : 0 < interval) {entry : Entry}
    (kept : entry ∈ (cache.sweepUpTo now).entries) :
    now - entry.storedAt < cache.ttl + interval := by
  obtain ⟨sweeper, member, same, -, forEach⟩ := paced.sweepUpTo.sweeper
  have bound := forEach entry kept
  rw [sweepUpTo_eq] at member bound
  obtain ⟨earlier, -, rfl⟩ := List.mem_map.mp member
  rw [Sweeper.interval_wait] at same
  have later := earlier.lt_next_wait (same ▸ positive) now
  simp only at bound
  omega

end IsPaced

/-! ## What a call does to a cache -/

/-- What a moment of a call can make of a cache: the sweeps that are due run, and after that a stale
entry may be removed or a verdict stored. -/
inductive Use (now : Nat) (cache : Cache) : Cache → Prop where
  | nothing : Use now cache cache
  | sweep : Use now cache (cache.sweepUpTo now)
  | miss (token : String) : Use now cache ((cache.sweepUpTo now).get now token).2
  | store (token : String) (verdict : Verdict) :
      Use now cache ((cache.sweepUpTo now).put now token verdict)

namespace Use

variable {cache later : Cache} {now : Nat}

theorem paced (use : cache.Use now later) {interval : Nat}
    (paced : cache.IsPaced interval now) : later.IsPaced interval now := by
  cases use with
  | nothing => exact paced
  | sweep => exact paced.sweepUpTo
  | miss token => exact paced.sweepUpTo.get token
  | store token verdict => exact paced.sweepUpTo.put token verdict

theorem ttl (use : cache.Use now later) : later.ttl = cache.ttl := by
  have swept := (Within.sweepUpTo cache now).ttl
  cases use with
  | nothing => rfl
  | sweep => exact swept
  | miss token => exact (Within.get (cache.sweepUpTo now) now token).ttl.trans swept
  | store token verdict => exact swept

/-- A call starts no sweeper. -/
theorem sweepers_eq_nil (use : cache.Use now later) (none : cache.sweepers = []) :
    later.sweepers = [] := by
  have swept : (cache.sweepUpTo now).sweepers = [] := by simp [Cache.sweepUpTo, none]
  cases use with
  | nothing => exact none
  | sweep => exact swept
  | miss token =>
      unfold Cache.get
      cases (cache.sweepUpTo now).stored? token with
      | none => exact swept
      | some entry => dsimp only; split <;> exact swept
  | store token verdict => exact swept

end Use

end Cache

namespace Chain

variable {chain : Chain} {cache : Cache} {now : Nat} {token : String}

theorem cache_sweepUpTo_of_some (present : chain.cache = some cache) (now : Nat) :
    (chain.sweepUpTo now).cache = some (cache.sweepUpTo now) := by
  simp [sweepUpTo, present]

/-- A call that comes to a place leaves the cache as it is, unless there is nobody left and somebody
has answered. -/
theorem cache_proceed (chain : Chain) (now : Nat) (token : String) (place : Nat)
    (isAnswered : Bool) :
    (chain.proceed now token place isAnswered).1.cache = chain.cache ∨
      isAnswered ∧ (chain.proceed now token place isAnswered).1.cache =
        chain.cache.map fun cache => cache.put now token .invalid := by
  cases found : chain.desks[place]? with
  | some desk =>
      rw [proceed_of_desk found]
      exact .inl rfl
  | none =>
      rw [proceed_of_no_desk found]
      cases isAnswered with
      | true => exact .inr ⟨rfl, rfl⟩
      | false => exact .inl rfl

theorem cache_start (present : chain.cache = some cache) :
    ∃ later, (chain.start now token).1.cache = some later ∧ cache.Use now later := by
  cases remembered : chain.remembered? now token with
  | some verdict =>
      rw [start_of_remembered remembered]
      exact ⟨_, by simp [count, sweepUpTo, present], .sweep⟩
  | none =>
      have missed : (chain.afterMiss now token).cache =
          some ((cache.sweepUpTo now).get now token).2 := by
        rw [Traffic.cache_afterMiss, present, Option.map_some]
      rw [start_of_not_remembered remembered]
      rcases (chain.afterMiss now token).cache_proceed now token 0 false with same | ⟨answered, -⟩
      · exact ⟨_, same.trans missed, .miss token⟩
      · cases answered

theorem cache_receive (present : chain.cache = some cache) (call : Call) :
    ∃ later, (chain.receive now call).1.cache = some later ∧ cache.Use now later := by
  have swept := cache_sweepUpTo_of_some present now
  rcases accepts_or_refuses call.result with ⟨verdict, answer, valid⟩ | refused
  · rw [receive_of_accepting answer valid]
    exact ⟨_, by simp [remember, swept], .store call.token verdict⟩
  · rw [receive_of_not_accepting refused]
    rcases (chain.sweepUpTo now).cache_proceed now call.token (call.place + 1)
      (call.isAnswered || call.result.isOk) with same | ⟨-, stored⟩
    · exact ⟨_, same.trans swept, .sweep⟩
    · exact ⟨_, stored.trans (by rw [swept]; rfl), .store call.token .invalid⟩

end Chain

/-! ## Runs of validations -/

/-- Whether a move belongs to the validation of tokens, in the course of which time passes. -/
def Move.isValidation : Move → Bool
  | .call _ | .hear _ | .wait _ => true
  | _ => false

namespace Traffic

variable {traffic : Traffic} {cache : Cache}

theorem chain_settle (traffic : Traffic) (number : Nat) (token : String) (origin : Origin)
    (standing : Standing) :
    (traffic.settle number token origin standing).chain = traffic.chain := by
  cases standing <;> rfl

theorem now_settle (traffic : Traffic) (number : Nat) (token : String) (origin : Origin)
    (standing : Standing) : (traffic.settle number token origin standing).now = traffic.now := by
  cases standing <;> rfl

/-- What a move does to the cache, and that no move turns back the clock. -/
theorem step_uses (present : traffic.chain.cache = some cache) {move : Move}
    (validates : move.isValidation) :
    traffic.now ≤ (traffic.step move).now ∧
      ∃ later, (traffic.step move).chain.cache = some later ∧ cache.Use traffic.now later := by
  cases move with
  | call token =>
      rw [step, begin, chain_settle, now_settle]
      exact ⟨Nat.le_refl _, Chain.cache_start present⟩
  | hear number =>
      rw [step]
      split
      · exact ⟨Nat.le_refl _, cache, present, .nothing⟩
      · next call _ =>
          split
          · rw [hear, chain_settle, now_settle]
            exact ⟨Nat.le_refl _, Chain.cache_receive present call⟩
          · exact ⟨Nat.le_refl _, cache, present, .nothing⟩
  | wait duration => exact ⟨Nat.le_add_right _ _, cache, present, .nothing⟩
  | evict => cases validates
  | sweep => cases validates
  | startSweeping interval => cases validates
  | stopSweeping number => cases validates

/-- What every use of a cache and the passing of time keep is kept by every run of validations. -/
theorem run_uses (traffic : Traffic) (holds : Nat → Cache → Prop)
    (used : ∀ now cache later, cache.Use now later → holds now cache → holds now later)
    (elapsed : ∀ now later cache, now ≤ later → holds now cache → holds later cache)
    (present : traffic.chain.cache = some cache) (atFirst : holds traffic.now cache)
    {moves : List Move} (validates : ∀ move ∈ moves, move.isValidation) :
    ∃ later, (traffic.run moves).chain.cache = some later ∧
      holds (traffic.run moves).now later := by
  induction moves generalizing traffic cache with
  | nil => exact ⟨cache, present, atFirst⟩
  | cons move moves inductionHypothesis =>
      obtain ⟨ordered, later, kept, use⟩ :=
        step_uses present (validates move List.mem_cons_self)
      exact inductionHypothesis _ kept
        (elapsed _ _ _ ordered (used _ _ _ use atFirst))
        fun other member => validates other (List.mem_cons_of_mem move member)

end Traffic

/-! ## What is kept -/

/-- The tokens on which an evaluation has been concluded less than a time ago. -/
def decidedWithin (window now : Nat) (history : List Occurrence) : List String :=
  ((history.filter fun occurrence =>
    occurrence.concludes occurrence.token && now - occurrence.time < window).map
      Occurrence.token).eraseDups

/-- Once the sweeps that are due have run, every entry is younger than a time, and there are no more
entries than tokens that have been decided on in that time. -/
structure Traffic.KeepsWithin (window : Nat) (traffic : Traffic) : Prop where
  young : ∀ cache ∈ (traffic.chain.sweepUpTo traffic.now).cache, ∀ entry ∈ cache.entries,
    traffic.now - entry.storedAt < window
  few : ∀ cache ∈ (traffic.chain.sweepUpTo traffic.now).cache,
    cache.size ≤ (decidedWithin window traffic.now traffic.history).length

/-- A cache without entries has none after the sweeps either. -/
theorem Traffic.KeepsWithin.of_empty {traffic : Traffic} {window : Nat}
    (empty : ∀ cache ∈ traffic.chain.cache, cache.entries = []) :
    traffic.KeepsWithin window := by
  have swept : ∀ cache ∈ (traffic.chain.sweepUpTo traffic.now).cache, cache.entries = [] := by
    intro cache present
    obtain ⟨earlier, earlierPresent, within⟩ :=
      (Chain.Within.sweepUpTo traffic.chain traffic.now).cache cache present
    rw [List.eq_nil_iff_forall_not_mem]
    intro entry kept
    have member := within.entries entry kept
    rw [empty earlier earlierPresent] at member
    cases member
  constructor
  · intro cache present entry kept
    rw [swept cache present] at kept
    cases kept
  · intro cache present
    rw [Cache.size, swept cache present]
    exact Nat.zero_le _

/-- A token with a young entry has been decided on not long ago. -/
theorem Backed.mem_decidedWithin {history : List Occurrence} {entry : Entry} {window now : Nat}
    (backed : Backed history entry) (young : now - entry.storedAt < window) :
    entry.token ∈ decidedWithin window now history := by
  obtain ⟨ended, last, stored, -⟩ := backed
  obtain ⟨same, prior, later, split⟩ := exists_split_of_lastConclusion? last
  have found := List.find?_some last
  have concludes : ended.concludes ended.token := by
    rw [same]
    exact found
  have member : ended ∈ history := by simp [split]
  rw [decidedWithin, List.mem_eraseDups, List.mem_map]
  refine ⟨ended, List.mem_filter.mpr ⟨member, ?_⟩, same⟩
  simp [concludes, stored, young]

/-- Of a cache with one entry for a token it is enough to know that its entries are young. -/
theorem Traced.keepsWithin {validators : List Validator} {ttl? : Option Nat} {traffic : Traffic}
    (traced : Traced validators ttl? traffic) {cache : Cache} {window : Nat}
    (swept : (traffic.chain.sweepUpTo traffic.now).cache = some cache)
    (distinct : (cache.entries.map Entry.token).Nodup)
    (young : ∀ entry ∈ cache.entries, traffic.now - entry.storedAt < window) :
    traffic.KeepsWithin window := by
  have backed := (traced.shrink (.sweepUpTo traffic.chain traffic.now)).stored cache swept
  have decided : cache.entries.map Entry.token ⊆
      decidedWithin window traffic.now traffic.history := by
    intro token member
    obtain ⟨entry, kept, rfl⟩ := List.mem_map.mp member
    exact (backed.2 entry kept).mem_decidedWithin (young entry kept)
  constructor
  · intro other present
    obtain rfl := Option.some.inj (swept.symm.trans present)
    exact young
  · intro other present
    obtain rfl := Option.some.inj (swept.symm.trans present)
    have atMost := (distinct.subperm decided).length_le
    rwa [List.length_map] at atMost

end GroupFederation.Token
