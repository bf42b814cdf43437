import GroupFederation.Proofs.Token.Recall
import Mathlib.Data.List.Basic

/-!
# Sweeps that come due

A cache is swept up to some time, then up to a later one, as calls come by. What it holds in the end
does not depend on the stops on the way: every entry is judged by each sweeper on its own, by the
last sweep of that sweeper that is due, and a later sweep removes whatever an earlier one would.
-/

namespace GroupFederation.Token

namespace Sweeper

variable {sweeper : Sweeper} {earlier later : Nat}

theorem last_le_last (sweeper : Sweeper) (ordered : earlier ≤ later) :
    sweeper.last earlier ≤ sweeper.last later :=
  Nat.add_le_add_left
    (Nat.mul_le_mul_right _ (Nat.div_le_div_right (Nat.sub_le_sub_right ordered _))) _

theorem wait_of_lt (early : earlier < sweeper.next) : sweeper.wait earlier = sweeper :=
  if_pos early

theorem wait_of_le (due : sweeper.next ≤ earlier) :
    sweeper.wait earlier = { sweeper with next := sweeper.last earlier + sweeper.interval } :=
  if_neg (Nat.not_lt_of_le due)

@[simp] theorem interval_wait (sweeper : Sweeper) (now : Nat) :
    (sweeper.wait now).interval = sweeper.interval := by
  unfold wait
  split <;> rfl

/-- Once the sweeps that are due have run, the next one is still to come. -/
theorem lt_next_wait (positive : 0 < sweeper.interval) (now : Nat) :
    now < (sweeper.wait now).next := by
  rcases Nat.lt_or_ge now sweeper.next with early | due
  · rw [wait_of_lt early]
    exact early
  · rw [wait_of_le due]
    have short := Nat.lt_div_mul_add (a := now - sweeper.next) positive
    simp only [last]
    omega

/-- Between two sweeps nothing is due. -/
theorem last_of_lt_next_wait (due : sweeper.next ≤ earlier) (ordered : earlier ≤ later)
    (early : later < (sweeper.wait earlier).next) : sweeper.last later = sweeper.last earlier := by
  rw [wait_of_le due] at early
  simp only [last] at early ⊢
  have positive : 0 < sweeper.interval := by
    apply Nat.pos_of_ne_zero
    intro none
    simp only [none, Nat.mul_zero, Nat.add_zero] at early
    omega
  have atMost : (later - sweeper.next) / sweeper.interval ≤
      (earlier - sweeper.next) / sweeper.interval := by
    rw [← Nat.lt_add_one_iff, Nat.div_lt_iff_lt_mul positive, Nat.succ_mul]
    omega
  have atLeast : (earlier - sweeper.next) / sweeper.interval ≤
      (later - sweeper.next) / sweeper.interval :=
    Nat.div_le_div_right (Nat.sub_le_sub_right ordered _)
  rw [Nat.le_antisymm atMost atLeast]

/-- Sweeps go on in the same rhythm after a stop. -/
theorem last_wait (due : sweeper.next ≤ earlier) (again : (sweeper.wait earlier).next ≤ later) :
    (sweeper.wait earlier).last later = sweeper.last later := by
  rw [wait_of_le due] at again ⊢
  simp only [last] at again ⊢
  generalize (earlier - sweeper.next) / sweeper.interval = rounds at again ⊢
  rcases Nat.eq_zero_or_pos sweeper.interval with none | positive
  · simp [none]
  · have passed : later - (sweeper.next + rounds * sweeper.interval + sweeper.interval) =
        (later - sweeper.next) - (rounds + 1) * sweeper.interval := by
      rw [Nat.succ_mul]
      omega
    have enough : rounds + 1 ≤ (later - sweeper.next) / sweeper.interval := by
      rw [Nat.le_div_iff_mul_le positive, Nat.succ_mul]
      omega
    have rest : (later - sweeper.next - (rounds + 1) * sweeper.interval) / sweeper.interval =
        (later - sweeper.next) / sweeper.interval - (rounds + 1) := by
      rw [Nat.mul_comm, Nat.sub_mul_div]
    rw [passed, rest, Nat.add_assoc sweeper.next, ← Nat.succ_mul, Nat.add_assoc, ← Nat.add_mul,
      Nat.succ_eq_add_one, Nat.add_sub_cancel' enough]

/-- It makes no difference to a sweeper at which times it is looked at on the way. -/
theorem wait_wait (sweeper : Sweeper) (ordered : earlier ≤ later) :
    (sweeper.wait earlier).wait later = sweeper.wait later := by
  rcases Nat.lt_or_ge earlier sweeper.next with early | due
  · rw [wait_of_lt early]
  · rw [wait_of_le (Nat.le_trans due ordered)]
    rcases Nat.lt_or_ge later (sweeper.wait earlier).next with between | again
    · rw [wait_of_lt between, wait_of_le due, last_of_lt_next_wait due ordered between]
    · rw [wait_of_le again, last_wait due again, wait_of_le due]

end Sweeper

namespace Cache

/-- Whether an entry outlasts the sweeps of one sweeper up to a time. -/
def outlasts (cache : Cache) (now : Nat) (entry : Entry) (sweeper : Sweeper) : Bool :=
  now < sweeper.next || cache.isFresh (sweeper.last now) entry

variable {cache : Cache} {earlier later now : Nat} {token : String}

/-- Whoever outlasts the sweeps up to a time has outlasted those up to an earlier one. -/
theorem outlasts_iff (entry : Entry) (sweeper : Sweeper) (ordered : earlier ≤ later) :
    cache.outlasts later entry sweeper ↔
      cache.outlasts earlier entry sweeper ∧
        cache.outlasts later entry (sweeper.wait earlier) := by
  unfold outlasts
  rcases Nat.lt_or_ge earlier sweeper.next with early | due
  · simp [early, Sweeper.wait_of_lt early]
  · have wasDue := Nat.not_lt_of_le due
    have isDue := Nat.not_lt_of_le (Nat.le_trans due ordered)
    rcases Nat.lt_or_ge later (sweeper.wait earlier).next with between | again
    · simp [wasDue, isDue, between, Sweeper.last_of_lt_next_wait due ordered between]
    · have kept : cache.isFresh (sweeper.last later) entry →
          cache.isFresh (sweeper.last earlier) entry :=
        isFresh_of_le (sweeper.last_le_last ordered)
      simpa [wasDue, isDue, Nat.not_lt_of_le again, Sweeper.last_wait due again] using kept

theorem runSweeper_eq (cache : Cache) (now : Nat) (sweeper : Sweeper) :
    runSweeper now cache sweeper =
      { cache with entries := cache.entries.filter (cache.outlasts now · sweeper) } := by
  unfold runSweeper outlasts sweep
  by_cases early : now < sweeper.next
  · simp only [early, if_true, decide_true, Bool.true_or, List.filter_true]
  · simp only [early, if_false, decide_false, Bool.false_or]

/-- What a cache is after the sweeps that are due: it has the entries that outlast all of them. -/
theorem sweepUpTo_eq (cache : Cache) (now : Nat) :
    cache.sweepUpTo now =
      { cache with
        entries := cache.entries.filter fun entry => cache.sweepers.all (cache.outlasts now entry)
        sweepers := cache.sweepers.map fun sweeper => sweeper.wait now } := by
  have swept (sweepers : List Sweeper) (entries : List Entry) :
      sweepers.foldl (runSweeper now) { cache with entries := entries } =
        { cache with
          entries := entries.filter fun entry => sweepers.all (cache.outlasts now entry) } := by
    induction sweepers generalizing entries with
    | nil => simp only [List.foldl_nil, List.all_nil, List.filter_true]
    | cons sweeper sweepers inductionHypothesis =>
        have step : runSweeper now { cache with entries := entries } sweeper =
            { cache with entries := entries.filter (cache.outlasts now · sweeper) } :=
          runSweeper_eq { cache with entries := entries } now sweeper
        rw [List.foldl_cons, step, inductionHypothesis]
        simp only [List.filter_filter, List.all_cons, Bool.and_comm]
  simp only [sweepUpTo, swept]

/-- It makes no difference to a cache at which times it is swept on the way. -/
theorem sweepUpTo_sweepUpTo (cache : Cache) (ordered : earlier ≤ later) :
    (cache.sweepUpTo earlier).sweepUpTo later = cache.sweepUpTo later := by
  have sweepers : (cache.sweepers.map fun sweeper => sweeper.wait earlier).map
      (fun sweeper => sweeper.wait later) =
        cache.sweepers.map fun sweeper => sweeper.wait later := by
    simp only [List.map_map, Function.comp_def, Sweeper.wait_wait _ ordered]
  have together (entry : Entry) :
      ((cache.sweepers.map fun sweeper => sweeper.wait earlier).all
          (cache.outlasts later entry) &&
        cache.sweepers.all (cache.outlasts earlier entry)) =
        cache.sweepers.all (cache.outlasts later entry) := by
    rw [Bool.eq_iff_iff, Bool.and_eq_true, List.all_map]
    simp only [List.all_eq_true, Function.comp_apply, ← forall_and]
    refine forall_congr' fun sweeper => forall_congr' fun _ => ?_
    rw [outlasts_iff entry sweeper ordered, and_comm]
  -- Which entries outlast a sweeper depends on the time to live of the cache alone.
  have entries : ((cache.entries.filter fun entry =>
        cache.sweepers.all (cache.outlasts earlier entry)).filter fun entry =>
          (cache.sweepers.map fun sweeper => sweeper.wait earlier).all
            (cache.outlasts later entry)) =
      cache.entries.filter fun entry => cache.sweepers.all (cache.outlasts later entry) := by
    simp only [List.filter_filter, together]
  rw [sweepUpTo_eq, sweepUpTo_eq, sweepUpTo_eq]
  simp only [sweepers]
  exact congrArg (fun kept : List Entry => ({ cache with
    entries := kept
    sweepers := cache.sweepers.map fun sweeper => sweeper.wait later } : Cache)) entries

/-! ## Sweeps beside the entry of one token -/

theorem erase_sweepUpTo (cache : Cache) (now : Nat) (token : String) :
    (cache.sweepUpTo now).erase token = (cache.erase token).sweepUpTo now := by
  simp only [sweepUpTo_eq, erase, List.filter_filter, Bool.and_comm]
  rfl

/-- Storing a verdict replaces what was erased. -/
theorem put_erase (cache : Cache) (now : Nat) (token : String) (verdict : Verdict) :
    (cache.erase token).put now token verdict = cache.put now token verdict := by
  simp [put, erase, List.filter_filter]

/-- A look-up that finds nothing leaves no entry of the token. -/
theorem get_of_miss (absent : (cache.get now token).1 = none) :
    (cache.get now token).2 = cache.erase token := by
  unfold get at absent ⊢
  cases found : cache.stored? token with
  | none =>
      have others : cache.entries.filter (fun entry => entry.token != token) = cache.entries := by
        simpa [stored?] using found
      simp [erase, others]
  | some entry =>
      rw [found] at absent
      by_cases fresh : cache.isFresh now entry
      · simp [fresh] at absent
      · simp [fresh]

end Cache

end GroupFederation.Token
