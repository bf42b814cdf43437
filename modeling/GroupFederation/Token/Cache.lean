import GroupFederation.Token.Verdict

/-!
# The decision cache

A verdict is kept for its token until a fixed time has passed. An entry that is as old as that reads
as absent, whether it is still stored or not; it is removed when its token is looked up, when the
cache is asked to evict, and by background sweeps, of which several may be under way. All times are
in milliseconds on one clock.
-/

namespace GroupFederation.Token

/-- A stored verdict. -/
structure Entry where
  token : String
  verdict : Verdict
  storedAt : Nat
  deriving DecidableEq, Repr

/-- A background sweep that is repeated: its number, when the next one is due, and the time from one
to the next. -/
structure Sweeper where
  number : Nat
  next : Nat
  interval : Nat
  deriving DecidableEq, Repr

namespace Sweeper

/-- When the last of the sweeps is due that are due up to a time. -/
def last (sweeper : Sweeper) (now : Nat) : Nat :=
  sweeper.next + (now - sweeper.next) / sweeper.interval * sweeper.interval

/-- A sweeper as it is when a time has come. -/
def wait (sweeper : Sweeper) (now : Nat) : Sweeper :=
  if now < sweeper.next then sweeper
  else { sweeper with next := sweeper.last now + sweeper.interval }

end Sweeper

/-- The cache, with at most one entry for a token. -/
structure Cache where
  ttl : Nat
  entries : List Entry := []
  sweepers : List Sweeper := []
  /-- How many background sweeps have been started; they are numbered in that order. -/
  started : Nat := 0
  deriving DecidableEq, Repr

namespace Cache

/-- Whether an entry is still good. -/
def isFresh (cache : Cache) (now : Nat) (entry : Entry) : Bool :=
  now - entry.storedAt < cache.ttl

/-- What is fresh has been fresh before. -/
theorem isFresh_of_le {cache : Cache} {entry : Entry} {earlier later : Nat}
    (ordered : earlier ≤ later) (fresh : cache.isFresh later entry) :
    cache.isFresh earlier entry := by
  simp only [isFresh, decide_eq_true_eq] at fresh ⊢
  omega

/-- The entry of a token, fresh or not. -/
def stored? (cache : Cache) (token : String) : Option Entry :=
  cache.entries.find? fun entry => entry.token == token

/-- The cache without a token. -/
def erase (cache : Cache) (token : String) : Cache :=
  { cache with entries := cache.entries.filter fun entry => entry.token != token }

/-- The verdict on a token, and the cache after looking: a stale entry is removed. -/
def get (cache : Cache) (now : Nat) (token : String) : Option Verdict × Cache :=
  match cache.stored? token with
  | none => (none, cache)
  | some entry =>
      if cache.isFresh now entry then (some entry.verdict, cache) else (none, cache.erase token)

/-- Store a verdict in place of an earlier one. -/
def put (cache : Cache) (now : Nat) (token : String) (verdict : Verdict) : Cache :=
  { cache with entries := (cache.erase token).entries ++ [⟨token, verdict, now⟩] }

/-- Remove every stale entry. -/
def sweep (cache : Cache) (now : Nat) : Cache :=
  { cache with entries := cache.entries.filter (cache.isFresh now) }

@[simp] theorem mem_entries_sweep {cache : Cache} {now : Nat} {entry : Entry} :
    entry ∈ (cache.sweep now).entries ↔ entry ∈ cache.entries ∧ cache.isFresh now entry := by
  simp [sweep]

@[simp] theorem mem_entries_erase {cache : Cache} {token : String} {entry : Entry} :
    entry ∈ (cache.erase token).entries ↔ entry ∈ cache.entries ∧ entry.token ≠ token := by
  simp [erase]

/-- What is stored after a verdict has been: the verdict, and what other tokens had before. -/
@[simp] theorem mem_entries_put {cache : Cache} {now : Nat} {token : String} {verdict : Verdict}
    {entry : Entry} :
    entry ∈ (cache.put now token verdict).entries ↔
      (entry ∈ cache.entries ∧ entry.token ≠ token) ∨ entry = ⟨token, verdict, now⟩ := by
  simp [put]

/-- How many entries are stored, stale ones included. -/
def size (cache : Cache) : Nat :=
  cache.entries.length

def isEmpty (cache : Cache) : Bool :=
  cache.entries.isEmpty

/-- Remove every stale entry and say how many there were. -/
def evict (cache : Cache) (now : Nat) : Nat × Cache :=
  let swept := cache.sweep now
  (cache.size - swept.size, swept)

/-! ## Background sweeps -/

/-- Sweep at once and from then on once in every interval; an interval of zero never sweeps. The
number is what stops it. -/
def startSweeping (cache : Cache) (now interval : Nat) : Nat × Cache :=
  let begun := { cache with started := cache.started + 1 }
  (cache.started,
    if interval = 0 then begun
    else
      { begun.sweep now with
        sweepers := cache.sweepers ++ [⟨cache.started, now + interval, interval⟩] })

/-- Stop the background sweep with a given number; the others go on. -/
def stopSweeping (cache : Cache) (number : Nat) : Cache :=
  { cache with sweepers := cache.sweepers.filter fun sweeper => sweeper.number != number }

/-- Run the sweeps of one sweeper that are due up to a time, that time included. The last of them
removes whatever the others would. -/
def runSweeper (now : Nat) (cache : Cache) (sweeper : Sweeper) : Cache :=
  if now < sweeper.next then cache else cache.sweep (sweeper.last now)

/-- Run the sweeps that are due up to a time, that time included. -/
def sweepUpTo (cache : Cache) (now : Nat) : Cache :=
  let swept := cache.sweepers.foldl (runSweeper now) cache
  { swept with sweepers := cache.sweepers.map fun sweeper => sweeper.wait now }

end Cache

end GroupFederation.Token
