import GroupFederation.Proofs.Aggregation.FanOut
import GroupFederation.Proofs.Aggregation.Inquiry

/-!
# How long a list takes

All providers that a question is for are asked at once, each within its own limit. So a list is
there when the slowest of them has replied or has run out of time, and not after the sum of all
these times. A provider that never replies keeps nobody waiting for longer than its own limit, and
takes away nothing but its own groups.
-/

namespace GroupFederation.Aggregation

variable {α : Type}

theorem lastTime_perm {left right : List (Arrival α)} (perm : left.Perm right) :
    lastTime left = lastTime right := by
  apply Nat.le_antisymm
  · exact lastTime_le_iff.mpr fun arrival member =>
      lastTime_le_iff.mp (Nat.le_refl _) arrival (perm.mem_iff.mp member)
  · exact lastTime_le_iff.mpr fun arrival member =>
      lastTime_le_iff.mp (Nat.le_refl _) arrival (perm.mem_iff.mpr member)

namespace Listing

/-- A partner contributes its list exactly when its call succeeds within its limit. -/
theorem answer?_eq_some_iff {listing : Listing} {partner : Partner} {groups : List Group} :
    listing.answer? partner = some groups ↔
      (listing.reply partner).outcome = .answered groups ∧
        (listing.reply partner).delay ≤ partner.provider.timeout :=
  Reply.value?_within_eq_some_iff

/-- A list is waited for until all tasks have ended. -/
def discipline (inTurn : Bool) : Discipline (List Group) :=
  ⟨fun _ => false, inTurn⟩

end Listing

namespace Engine

/-- A call ends when its reply comes or when its time is up. -/
theorem map_time_arrivals (engine : Engine) (isAsked : Provider → Bool)
    (reply : Partner → Reply α) :
    (engine.arrivals isAsked reply).map Arrival.time =
      (engine.eligible isAsked).map fun partner =>
        min (reply partner).delay partner.provider.timeout := by
  rw [← List.filterMap_eq_map, ← List.filterMap_eq_map]
  exact filterMap_arrivals fun _ partner =>
    congrArg some (Reply.delay_within partner.provider.timeout (reply partner))

/-- The last call to end is the one whose reply or limit comes last. -/
theorem lastTime_arrivals (engine : Engine) (isAsked : Provider → Bool)
    (reply : Partner → Reply α) :
    lastTime (engine.arrivals isAsked reply) =
      ((engine.eligible isAsked).map fun partner =>
        min (reply partner).delay partner.provider.timeout).max?.getD 0 := by
  rw [lastTime, map_time_arrivals, List.foldl_max, Nat.zero_max]

theorem lastTime_arrivals_le_iff {engine : Engine} {isAsked : Provider → Bool}
    {reply : Partner → Reply α} {bound : Nat} :
    lastTime (engine.arrivals isAsked reply) ≤ bound ↔
      ∀ partner ∈ engine.eligible isAsked,
        min (reply partner).delay partner.provider.timeout ≤ bound := by
  rw [lastTime_le_iff, ← List.forall_mem_map (f := Arrival.time) (P := fun time => time ≤ bound),
    map_time_arrivals, List.forall_mem_map]

/-- A list is there as soon as the last call has ended. -/
theorem list_elapsed (engine : Engine) (listing : Listing) :
    (engine.list listing).elapsed = lastTime (engine.arrivals listing.isAsked listing.reply) := by
  rw [list_eq_gather]
  exact lastTime_perm (List.mergeSort_perm _ _)

section Clock

variable {engine : Engine} {listing : Listing} {inTurn : Bool} {final : Inquiry (List Group)}

/-- Whoever asks for a list goes on only when all tasks have ended. -/
theorem waiting_eq_nil_of_concludes
    (concludes : engine.Concludes listing.isAsked listing.reply (Listing.discipline inTurn) final) :
    final.waiting = [] := by
  simpa [Inquiry.IsOver, Listing.discipline] using concludes.isOver

/-- Whenever the question is over, the clock shows the time that the engine gives, and what has
come in gives the list that the engine gives. -/
theorem list_of_concludes
    (concludes : engine.Concludes listing.isAsked listing.reply (Listing.discipline inTurn) final) :
    final.now = (engine.list listing).elapsed ∧
      merge (collect final.ended) = (engine.list listing).value := by
  obtain ⟨all, now⟩ := concludes.of_all_ended (waiting_eq_nil_of_concludes concludes)
  constructor
  · rw [now, list_elapsed, lastTime_perm all]
  · rw [list_value, engine.merge_collect_of_perm listing all]

end Clock

/-- Leaving out a partner leaves the others who are asked as they are. -/
theorem mem_eligible_without {engine : Engine} {before after : List Partner} {partner : Partner}
    (split : engine.partners = before ++ partner :: after) (isAsked : Provider → Bool)
    (other : Partner) :
    (other ∈ { engine with partners := before ++ after }.eligible isAsked →
      other ∈ engine.eligible isAsked) ∧
    (other ∈ engine.eligible isAsked →
      other = partner ∨ other ∈ { engine with partners := before ++ after }.eligible isAsked) := by
  simp only [eligible, split, List.mem_filter, List.mem_append, List.mem_cons]
  tauto

/-- Without one of the partners a list takes no longer, and with it no longer than that partner may
take. -/
theorem list_elapsed_without {engine : Engine} {before after : List Partner} {partner : Partner}
    (split : engine.partners = before ++ partner :: after) (listing : Listing) :
    ({ engine with partners := before ++ after }.list listing).elapsed ≤
        (engine.list listing).elapsed ∧
      (engine.list listing).elapsed ≤
        max ({ engine with partners := before ++ after }.list listing).elapsed
          partner.provider.timeout := by
  have without := mem_eligible_without split listing.isAsked
  simp only [list_elapsed]
  constructor
  · refine lastTime_arrivals_le_iff.mpr fun other member => ?_
    exact lastTime_arrivals_le_iff.mp (Nat.le_refl _) other ((without other).1 member)
  · refine lastTime_arrivals_le_iff.mpr fun other member => ?_
    rcases (without other).2 member with rfl | member
    · exact Nat.le_trans (Nat.min_le_right _ _) (Nat.le_max_right _ _)
    · exact Nat.le_trans (lastTime_arrivals_le_iff.mp (Nat.le_refl _) other member)
        (Nat.le_max_left _ _)

/-- A question for a list of groups is over, in whatever order its tasks end, after the time that
the slowest call takes, where no call takes longer than its limit; without anybody to ask it is over
at once. The list is made of those lists whose calls succeed within their limits. A provider that
does not reply in time takes away only its own groups, and holds up the others no longer than its
limit. -/
theorem list_takes_slowest_call (engine : Engine) (listing : Listing) :
    let asked := engine.eligible listing.isAsked
    let delay (partner : Partner) := (listing.reply partner).delay
    let timeout (partner : Partner) := partner.provider.timeout
    let result := engine.list listing
    result.elapsed = (asked.map fun partner => min (delay partner) (timeout partner)).max?.getD 0 ∧
    result.value = firstRecords (asked.filterMap listing.answer?).flatten ∧
    (∀ partner groups, listing.answer? partner = some groups ↔
      (listing.reply partner).outcome = .answered groups ∧ delay partner ≤ timeout partner) ∧
    (∀ inTurn,
      (∃ final, engine.Concludes listing.isAsked listing.reply (Listing.discipline inTurn) final) ∧
      ∀ final, engine.Concludes listing.isAsked listing.reply (Listing.discipline inTurn) final →
        final.now = result.elapsed ∧ merge (collect final.ended) = result.value) ∧
    ∀ before hanging after, engine.partners = before ++ hanging :: after →
      timeout hanging < delay hanging →
        let others := { engine with partners := before ++ after }.list listing
        result.value = others.value ∧ others.elapsed ≤ result.elapsed ∧
          result.elapsed ≤ max others.elapsed (timeout hanging) := by
  intro asked delay timeout result
  refine ⟨?_, engine.list_value listing, ?_, ?_, ?_⟩
  · exact (engine.list_elapsed listing).trans (engine.lastTime_arrivals _ _)
  · intro partner groups
    exact Listing.answer?_eq_some_iff
  · intro inTurn
    exact ⟨engine.exists_concludes _ _ _, fun final concludes => list_of_concludes concludes⟩
  · intro before hanging after split hangs others
    have fails : listing.answer? hanging = none := by
      rw [Option.eq_none_iff_forall_ne_some]
      intro groups answers
      exact Nat.not_le_of_lt hangs (Listing.answer?_eq_some_iff.mp answers).2
    refine ⟨?_, engine.list_elapsed_without split listing⟩
    rw [show others.value = _ from list_value _ listing, answers_without split fails]
    exact engine.list_value listing

/-- Two partners never reply. They are given up after half a second and after eight tenths of a
second, and the registry's group is there by then. -/
example :
    let group : Group := ⟨"urn:collab:group:example.org:lab", "Lab", none, "example.org", ⟨.member⟩⟩
    let home := Provider.Fake.simulated ⟨"home", "example.org", false, 500, [group], none⟩ .success
    let slow := Provider.Fake.simulated ⟨"slow", "example.org", true, 500, [], none⟩ .timeout
    let slower := Provider.Fake.simulated ⟨"slower", "example.org", true, 800, [], none⟩ .timeout
    let result := (ofRegistry (.ofList [slow, slower, home])).list
      (.memberships "urn:collab:person:example.org:jane" "example.org")
    result.elapsed = 800 ∧ result.value = [group] := by
  intro group home slow slower result
  rw [list_elapsed, list_value]
  decide

end Engine

end GroupFederation.Aggregation
