import GroupFederation.Http.Canned
import GroupFederation.Proofs.Token.Retention
import GroupFederation.Startup

/-!
# How long a service keeps verdicts

A service with a decision cache starts a background sweep when it starts itself, so that what it
keeps is bounded by the time to live and the interval. A sweep with an interval of zero never runs,
and settings that ask for one are accepted.
-/

namespace GroupFederation.Service

open Token (Cache Move Traffic)

/-- The chain of a service whose settings have been accepted, as it is used from the start on. -/
def usage (service : Service) (moves : List Move) : Traffic :=
  ({ chain := service.chain } : Traffic).run moves

section Usage

variable {settings : Settings} {network : Http.Network} {service : Service}

/-- A service whose settings have been accepted is used like a chain that nobody has used before
and in which a sweeper is started. -/
theorem usage_of_accepted (accepted : ofSettings settings network = .ok service)
    (enabled : settings.decisionCache.isEnabled) :
    ∃ validators, ∀ moves, service.usage moves =
      (Traffic.ofValidators validators (some settings.decisionCache.ttl)).run
        (.startSweeping settings.decisionCache.evictionInterval :: moves) := by
  obtain ⟨configs, rfl⟩ := exists_eq_atStart accepted
  refine ⟨settings.tokenValidators.map fun entry => entry.validator network, fun moves => ?_⟩
  simp only [usage, atStart, Settings.DecisionCache.start?, enabled, if_true]
  rfl

/-- While a sweeper runs, everything that is kept is young. -/
theorem keepsWithin_of_interval (accepted : ofSettings settings network = .ok service)
    (enabled : settings.decisionCache.isEnabled)
    (positive : 0 < settings.decisionCache.evictionInterval) {moves : List Move}
    (validates : ∀ move ∈ moves, move.isValidation) :
    (service.usage moves).KeepsWithin
      (settings.decisionCache.ttl + settings.decisionCache.evictionInterval) := by
  obtain ⟨validators, same⟩ := usage_of_accepted accepted enabled
  let interval := settings.decisionCache.evictionInterval
  let begun := (Traffic.ofValidators validators (some settings.decisionCache.ttl)).step
    (.startSweeping interval)
  obtain ⟨cache, present, paced, ttl⟩ := begun.run_uses
    (fun now cache => cache.IsPaced interval now ∧ cache.ttl = settings.decisionCache.ttl)
    (fun _ _ _ use holds => ⟨use.paced holds.1, use.ttl.trans holds.2⟩)
    (fun _ _ _ ordered holds => ⟨holds.1.elapse ordered, holds.2⟩)
    rfl ⟨.startSweeping _ 0 positive, (Cache.Within.startSweeping _ 0 interval).ttl⟩ validates
  have traced := (Token.Traced.ofValidators validators (some settings.decisionCache.ttl)).run
    (.startSweeping interval :: moves)
  rw [same]
  refine traced.keepsWithin (Token.Chain.cache_sweepUpTo_of_some present _)
    paced.sweepUpTo.distinct fun entry kept => ?_
  have young := paced.age_lt positive kept
  rwa [ttl] at young

/-- Without a sweeper nothing that a run leaves behind is removed as time passes. -/
theorem eq_nil_of_keepsWithin (accepted : ofSettings settings network = .ok service)
    (enabled : settings.decisionCache.isEnabled)
    (never : settings.decisionCache.evictionInterval = 0) {window : Nat}
    (kept : ∀ moves, (∀ move ∈ moves, move.isValidation) →
      (service.usage moves).KeepsWithin window)
    {moves : List Move} (validates : ∀ move ∈ moves, move.isValidation) {cache : Cache}
    (present : (service.usage moves).chain.cache = some cache) : cache.entries = [] := by
  obtain ⟨validators, same⟩ := usage_of_accepted accepted enabled
  let begun := (Traffic.ofValidators validators (some settings.decisionCache.ttl)).step
    (.startSweeping settings.decisionCache.evictionInterval)
  obtain ⟨later, laterPresent, unswept⟩ := begun.run_uses (fun _ cache => cache.sweepers = [])
    (fun _ _ _ use none => use.sweepers_eq_nil none) (fun _ _ _ _ none => none) rfl
    (by simp [Cache.startSweeping, never]) validates
  have stopped : cache.sweepers = [] := by
    rw [same] at present
    exact Option.some.inj (present.symm.trans laterPresent) ▸ unswept
  apply List.eq_nil_iff_forall_not_mem.mpr
  intro entry member
  -- However old the entry is to become, it is enough to wait.
  let duration := window + entry.storedAt
  have validatesLater : ∀ move ∈ moves ++ [.wait duration], move.isValidation := by
    intro move listed
    rcases List.mem_append.mp listed with earlier | last
    · exact validates move earlier
    · rw [List.mem_singleton.mp last]
      rfl
  have waited : service.usage (moves ++ [.wait duration]) =
      { service.usage moves with now := (service.usage moves).now + duration } := by
    simp [usage, Traffic.run, Traffic.step]
  have young := (kept _ validatesLater).young
  rw [waited] at young
  have stays := young _ (Token.Chain.cache_sweepUpTo_of_some present _) entry
    (by simpa [Cache.sweepUpTo, stopped] using member)
  simp only [duration] at stays
  omega

end Usage

/-- Whatever settings are accepted and ask for a decision cache: that nothing older than the time to
live and the interval together is kept, in whatever way tokens are validated over time, holds when
the interval is not zero, and otherwise only if nothing is ever stored. -/
theorem verdicts_kept_within_iff {settings : Settings} {network : Http.Network} {service : Service}
    (accepted : ofSettings settings network = .ok service)
    (enabled : settings.decisionCache.isEnabled) :
    let interval := settings.decisionCache.evictionInterval
    (∀ moves, (∀ move ∈ moves, move.isValidation) →
        (service.usage moves).KeepsWithin (settings.decisionCache.ttl + interval)) ↔
      interval ≠ 0 ∨ ∀ moves, (∀ move ∈ moves, move.isValidation) →
        ∀ cache ∈ (service.usage moves).chain.cache, cache.entries = [] := by
  intro interval
  constructor
  · intro kept
    rw [or_iff_not_imp_left, not_not]
    intro never moves validates cache present
    exact eq_nil_of_keepsWithin accepted enabled never kept validates present
  · rintro (regular | nothing) moves validates
    · exact keepsWithin_of_interval accepted enabled (Nat.pos_of_ne_zero regular) validates
    · exact .of_empty (nothing moves validates)

/-- With the defaults no verdict is kept for two minutes, and verdicts are kept. -/
theorem verdicts_kept_within_iff_by_default :
    let settings : Settings :=
      { providers := [⟨"voot2", "http://partner.test", "user", "pass", 50, "partner.org", "partner",
          false⟩]
        tokenValidators := [⟨"issuer", "http://issuer.test", "service", "secret", 500⟩] }
    let network := Http.Canned.network
      [⟨"issuer", [{ body := Text.Utf8.ofText "\x7b\"active\": true\x7d" }]⟩]
    let held (service : Service) : Option Nat :=
      (service.usage [.call "t", .hear 0]).chain.cache.map Cache.size
    (ofSettings settings network).toOption.map held = some (some 1) ∧
      ∃ service, ofSettings settings network = .ok service ∧ settings.decisionCache.isEnabled ∧
        ∀ moves, (∀ move ∈ moves, move.isValidation) →
          (service.usage moves).KeepsWithin (60000 + 60000) := by
  intro settings network held
  have holds : (ofSettings settings network).toOption.map held = some (some 1) := by
    decide +kernel
  refine ⟨holds, ?_⟩
  cases accepted : ofSettings settings network with
  | error refusal =>
      rw [accepted] at holds
      cases holds
  | ok service =>
      exact ⟨service, rfl, rfl, (verdicts_kept_within_iff accepted rfl).mpr (.inl (by decide))⟩

/-- With an interval of zero a verdict that is good for ten milliseconds is still kept after
fifty. -/
theorem verdict_kept_without_interval :
    let settings : Settings :=
      { providers := [⟨"voot2", "http://partner.test", "user", "pass", 50, "partner.org", "partner",
          false⟩]
        tokenValidators := [⟨"issuer", "http://issuer.test", "service", "secret", 500⟩]
        decisionCache := { ttl := 10, evictionInterval := 0 } }
    let network := Http.Canned.network
      [⟨"issuer", [{ body := Text.Utf8.ofText "\x7b\"active\": true\x7d" }]⟩]
    ∃ service, ofSettings settings network = .ok service ∧ settings.decisionCache.isEnabled ∧
      ∃ moves, (∀ move ∈ moves, move.isValidation) ∧
        ¬(service.usage moves).KeepsWithin (10 + 0) := by
  intro settings network
  let moves : List Move := [.call "t", .hear 0, .wait 50]
  let ages (service : Service) : Option (List Nat) :=
    let traffic := service.usage moves
    (traffic.chain.sweepUpTo traffic.now).cache.map fun cache =>
      cache.entries.map fun entry => traffic.now - entry.storedAt
  have aged : (ofSettings settings network).toOption.map ages = some (some [50]) := by
    decide +kernel
  cases accepted : ofSettings settings network with
  | error refusal =>
      rw [accepted] at aged
      cases aged
  | ok service =>
      refine ⟨service, rfl, rfl, moves, by decide, fun kept => ?_⟩
      rw [accepted] at aged
      obtain ⟨cache, present, entries⟩ := Option.map_eq_some_iff.mp (Option.some.inj aged)
      have old : 50 ∈ cache.entries.map fun entry =>
          (service.usage moves).now - entry.storedAt := by
        rw [entries]
        exact List.mem_singleton_self 50
      obtain ⟨entry, member, age⟩ := List.mem_map.mp old
      have young := kept.young cache present entry member
      omega

end GroupFederation.Service
