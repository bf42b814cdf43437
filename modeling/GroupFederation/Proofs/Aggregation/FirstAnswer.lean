import GroupFederation.Proofs.Aggregation.Duration
import GroupFederation.Proofs.Aggregation.GroupLookup

/-!
# The first group that arrives

A look-up is put to all providers that may know the group, at once. The first of them whose reply
is a group answers it, and of several whose groups come at the same time the first one in the
registry. Whatever else arrives before is passed over: failures, timeouts, tasks that break down and
the word that the person is not in the group. Only when all calls have ended without a group does
the look-up end without one.
-/

namespace GroupFederation.Aggregation

/-- What a partner replies to a look-up. -/
def Partner.lookUp (partner : Partner) (person group : String) : Reply (Option Group) :=
  partner.provider.membership partner.asked person group

/-- The partner replies with a group, within its limit. -/
structure Partner.Brings (partner : Partner) (person group : String) (found : Group) : Prop where
  answered : (partner.lookUp person group).outcome = .answered (some found)
  inTime : (partner.lookUp person group).delay ≤ partner.provider.timeout

/-- A look-up is waited for until a group arrives, or until all tasks have ended. -/
def lookUpDiscipline (inTurn : Bool) : Discipline (Option Group) :=
  ⟨Arrival.isPresent, inTurn⟩

/-! ## First arrivals -/

/-- Of tasks that ended one after the other, the first present arrival precedes all present ones. -/
theorem precedes_of_find? {arrivals : List (Arrival (Option Group))}
    (ordered : arrivals.Pairwise fun left right => left.precedes right)
    {first other : Arrival (Option Group)} (found : arrivals.find? Arrival.isPresent = some first)
    (member : other ∈ arrivals) (present : other.isPresent) : first.precedes other := by
  obtain ⟨-, before, after, split, earlier⟩ := List.find?_eq_some_iff_append.mp found
  rw [split, List.pairwise_append, List.pairwise_cons] at ordered
  rw [split, List.mem_append, List.mem_cons] at member
  rcases member with early | rfl | late
  · have absent := earlier other early
    simp [present] at absent
  · exact Arrival.precedes_iff.mpr (.inr ⟨rfl, Nat.le_refl _⟩)
  · exact ordered.2.1.1 other late

namespace Engine

/-- The arrivals of a look-up. -/
def lookUps (engine : Engine) (person group : String) : List (Arrival (Option Group)) :=
  engine.arrivals (fun provider => provider.takesGroup group) fun partner =>
    partner.lookUp person group

/-- The first arrival that brings a group precedes all that bring one, and there is no other such
arrival. -/
theorem firstArrival?_eq_some_iff {engine : Engine} {person group : String}
    {first : Arrival (Option Group)} :
    engine.firstArrival? person group = some first ↔
      first ∈ engine.lookUps person group ∧ first.isPresent ∧
        ∀ other ∈ engine.lookUps person group, other.isPresent → first.precedes other := by
  have forwards (arrival : Arrival (Option Group))
      (found : engine.firstArrival? person group = some arrival) :
      arrival ∈ engine.lookUps person group ∧ arrival.isPresent ∧
        ∀ other ∈ engine.lookUps person group, other.isPresent → arrival.precedes other := by
    refine ⟨List.mem_mergeSort.mp (List.mem_of_find?_eq_some found), List.find?_some found, ?_⟩
    intro other member present
    exact precedes_of_find? (pairwise_inOrder _) found (List.mem_mergeSort.mpr member) present
  constructor
  · exact forwards first
  · rintro ⟨member, present, precedes⟩
    cases found : engine.firstArrival? person group with
    | none =>
        have absent := List.find?_eq_none.mp found first (List.mem_mergeSort.mpr member)
        exact absurd present absent
    | some arrival =>
        obtain ⟨arrivalMember, arrivalPresent, arrivalPrecedes⟩ := forwards arrival found
        have below := Arrival.precedes_iff.mp (arrivalPrecedes first member present)
        have above := Arrival.precedes_iff.mp (precedes arrival arrivalMember arrivalPresent)
        have distinct : ((engine.lookUps person group).map Arrival.place).Nodup := by
          rw [lookUps, map_place_arrivals]
          exact List.nodup_range
        rw [List.inj_on_of_nodup_map distinct arrivalMember member (by omega)]

theorem firstArrival?_eq_none_iff {engine : Engine} {person group : String} :
    engine.firstArrival? person group = none ↔
      ∀ arrival ∈ engine.lookUps person group, arrival.isPresent = false := by
  simp [firstArrival?, inOrder, lookUps, Partner.lookUp]

theorem firstPresent?_lookUps (engine : Engine) (person group : String) :
    firstPresent? (inOrder (engine.lookUps person group)) =
      (engine.firstArrival? person group).bind fun arrival =>
        arrival.outcome.value?.join.map fun found => (arrival.time, found) :=
  firstPresent?_eq_find?_bind _

theorem groupById_elapsed (engine : Engine) (person group : String) :
    (engine.groupById person group).elapsed =
      match firstPresent? (inOrder (engine.lookUps person group)) with
      | some (time, _) => time
      | none => lastTime (inOrder (engine.lookUps person group)) :=
  rfl

/-- A look-up takes until the first group arrives. -/
theorem groupById_elapsed_of_some {engine : Engine} {person group : String}
    {first : Arrival (Option Group)} (found : engine.firstArrival? person group = some first) :
    (engine.groupById person group).elapsed = first.time := by
  have present : first.isPresent := List.find?_some found
  obtain ⟨brought, same⟩ := Option.isSome_iff_exists.mp present
  rw [groupById_elapsed, firstPresent?_lookUps, found, Option.bind_some, same, Option.map_some]

/-- Without a group it takes until all calls have ended. -/
theorem groupById_elapsed_of_none {engine : Engine} {person group : String}
    (absent : engine.firstArrival? person group = none) :
    (engine.groupById person group).elapsed = lastTime (engine.lookUps person group) := by
  rw [groupById_elapsed, firstPresent?_lookUps, absent, Option.bind_none]
  exact lastTime_perm (List.mergeSort_perm _ _)

/-! ## Who answers -/

/-- An arrival brings a group exactly when its partner does. -/
theorem isPresent_ofReply_iff {partner : Partner} {person group : String} {place : Nat} :
    (Arrival.ofReply place partner.provider (partner.lookUp person group)).isPresent ↔
      ∃ found, partner.Brings person group found := by
  simp only [Arrival.isPresent, Arrival.ofReply, Option.isSome_iff_exists, Option.join_eq_some_iff,
    Reply.value?_within_eq_some_iff]
  apply exists_congr
  intro found
  constructor
  · intro answer
    exact ⟨answer.1, answer.2⟩
  · intro brings
    exact ⟨brings.answered, brings.inTime⟩

/-- The partner at a place among those that are asked answers the look-up: it brings a group before
all others that bring one, where those that come later in the registry are behind those whose
groups come at the same time. -/
structure Wins (engine : Engine) (person group : String) (place : Nat) (partner : Partner)
    (found : Group) : Prop where
  located : (engine.eligible fun provider => provider.takesGroup group)[place]? = some partner
  brings : partner.Brings person group found
  first : ∀ otherPlace other otherFound,
    (engine.eligible fun provider => provider.takesGroup group)[otherPlace]? = some other →
      other.Brings person group otherFound →
        (partner.lookUp person group).delay < (other.lookUp person group).delay ∨
          (partner.lookUp person group).delay = (other.lookUp person group).delay ∧
            place ≤ otherPlace

variable {engine : Engine} {person group : String}

/-- The call of a partner that brings a group ends when its reply comes. -/
theorem time_ofReply_of_brings {partner : Partner} {found : Group} {place : Nat}
    (brings : partner.Brings person group found) :
    (Arrival.ofReply place partner.provider (partner.lookUp person group)).time =
      (partner.lookUp person group).delay :=
  (Reply.delay_within partner.provider.timeout _).trans (Nat.min_eq_left brings.inTime)

/-- The first arrival that brings a group is the end of the call to the partner that answers. -/
theorem firstArrival?_eq_some_iff_exists_wins {first : Arrival (Option Group)} :
    engine.firstArrival? person group = some first ↔
      ∃ place partner found, engine.Wins person group place partner found ∧
        Arrival.ofReply place partner.provider (partner.lookUp person group) = first := by
  rw [firstArrival?_eq_some_iff]
  constructor
  · rintro ⟨member, present, precedes⟩
    obtain ⟨place, partner, located, rfl⟩ := mem_arrivals_iff.mp member
    obtain ⟨found, brings⟩ := isPresent_ofReply_iff.mp present
    refine ⟨place, partner, found, ⟨located, brings, ?_⟩, rfl⟩
    intro otherPlace other otherFound otherLocated otherBrings
    have behind := precedes _ (mem_arrivals_iff.mpr ⟨otherPlace, other, otherLocated, rfl⟩)
      (isPresent_ofReply_iff.mpr ⟨otherFound, otherBrings⟩)
    rw [Arrival.precedes_iff, time_ofReply_of_brings brings,
      time_ofReply_of_brings otherBrings] at behind
    exact behind
  · rintro ⟨place, partner, found, wins, rfl⟩
    refine ⟨mem_arrivals_iff.mpr ⟨place, partner, wins.located, rfl⟩,
      isPresent_ofReply_iff.mpr ⟨found, wins.brings⟩, ?_⟩
    intro arrival member present
    obtain ⟨otherPlace, other, otherLocated, rfl⟩ := mem_arrivals_iff.mp member
    obtain ⟨otherFound, otherBrings⟩ := isPresent_ofReply_iff.mp present
    rw [Arrival.precedes_iff, time_ofReply_of_brings wins.brings,
      time_ofReply_of_brings otherBrings]
    exact wins.first otherPlace other otherFound otherLocated otherBrings

/-- The look-up gives the group of the partner that answers, when that partner replies. -/
theorem Wins.groupById {place : Nat} {partner : Partner} {found : Group}
    (wins : engine.Wins person group place partner found) :
    (engine.groupById person group).value = some found ∧
      (engine.groupById person group).elapsed = (partner.lookUp person group).delay := by
  have first := firstArrival?_eq_some_iff_exists_wins.mpr ⟨place, partner, found, wins, rfl⟩
  constructor
  · rw [groupById_value, first, Option.bind_some, Option.join_eq_some_iff]
    exact Reply.value?_within_eq_some_iff.mpr ⟨wins.brings.answered, wins.brings.inTime⟩
  · rw [groupById_elapsed_of_some first, time_ofReply_of_brings wins.brings]

/-- Somebody answers, or nobody has brought a group and the look-up gives none. -/
theorem exists_wins_or_value_eq_none (engine : Engine) (person group : String) :
    (∃ place partner found, engine.Wins person group place partner found) ∨
      engine.firstArrival? person group = none ∧ (engine.groupById person group).value = none := by
  cases first : engine.firstArrival? person group with
  | some arrival =>
      obtain ⟨place, partner, found, wins, -⟩ := firstArrival?_eq_some_iff_exists_wins.mp first
      exact .inl ⟨place, partner, found, wins⟩
  | none => exact .inr ⟨rfl, by rw [groupById_value, first]; rfl⟩

theorem groupById_value_eq_some_iff_exists_wins {found : Group} :
    (engine.groupById person group).value = some found ↔
      ∃ place partner, engine.Wins person group place partner found := by
  constructor
  · intro value
    rcases engine.exists_wins_or_value_eq_none person group with
      ⟨place, partner, other, wins⟩ | ⟨-, nothing⟩
    · obtain rfl : other = found := Option.some.inj (wins.groupById.1.symm.trans value)
      exact ⟨place, partner, wins⟩
    · rw [nothing] at value
      cases value
  · rintro ⟨place, partner, wins⟩
    exact wins.groupById.1

/-- There is no answer exactly when nobody who is asked brings a group. -/
theorem groupById_value_eq_none_iff :
    (engine.groupById person group).value = none ↔
      ∀ partner ∈ engine.eligible fun provider => provider.takesGroup group,
        ∀ found, ¬partner.Brings person group found := by
  have absent_iff : engine.firstArrival? person group = none ↔
      ∀ partner ∈ engine.eligible fun provider => provider.takesGroup group,
        ∀ found, ¬partner.Brings person group found := by
    rw [firstArrival?_eq_none_iff]
    constructor
    · intro absent partner member found brings
      obtain ⟨place, located⟩ := List.mem_iff_getElem?.mp member
      have missing := absent _ (mem_arrivals_iff.mpr ⟨place, partner, located, rfl⟩)
      rw [isPresent_ofReply_iff.mpr ⟨found, brings⟩] at missing
      cases missing
    · intro nobody arrival member
      obtain ⟨place, partner, located, rfl⟩ := mem_arrivals_iff.mp member
      rw [← Bool.not_eq_true, isPresent_ofReply_iff]
      rintro ⟨found, brings⟩
      exact nobody partner (List.mem_of_getElem? located) found brings
  rw [← absent_iff]
  rcases engine.exists_wins_or_value_eq_none person group with
    ⟨place, partner, found, wins⟩ | ⟨absent, nothing⟩
  · have first := firstArrival?_eq_some_iff_exists_wins.mpr ⟨place, partner, found, wins, rfl⟩
    simp [wins.groupById.1, first]
  · simp [absent, nothing]

/-! ## Look-ups on the clock -/

section Clock

variable {inTurn : Bool} {final : Inquiry (Option Group)}

/-- Whoever looks up a group goes on when a group has come, or when all calls have ended and none
has brought one. -/
theorem exists_present_or_absent
    (concludes : engine.Concludes (fun provider => provider.takesGroup group)
      (fun partner => partner.lookUp person group) (lookUpDiscipline inTurn) final) :
    (∃ arrival ∈ final.ended, arrival.isPresent) ∨
      engine.firstArrival? person group = none ∧ final.waiting = [] := by
  rcases concludes.isOver with done | enough
  · by_cases arrived : ∃ arrival ∈ final.ended, arrival.isPresent
    · exact .inl arrived
    · refine .inr ⟨firstArrival?_eq_none_iff.mpr fun arrival member => ?_, done⟩
      have ended := (concludes.mem_arrivals_iff.mp member).resolve_right (by simp [done])
      exact Bool.eq_false_iff.mpr fun present => arrived ⟨arrival, ended, present⟩
  · exact .inl enough

/-- Whenever the look-up is over, the clock shows the time that the engine gives. -/
theorem now_of_concludes
    (concludes : engine.Concludes (fun provider => provider.takesGroup group)
      (fun partner => partner.lookUp person group) (lookUpDiscipline inTurn) final) :
    final.now = (engine.groupById person group).elapsed := by
  have course := concludes.course
  rcases exists_present_or_absent concludes with
    ⟨enough, enoughMember, enoughPresent⟩ | ⟨absent, done⟩
  · have known : enough ∈ engine.lookUps person group :=
      concludes.mem_arrivals_iff.mpr (.inl enoughMember)
    cases found : engine.firstArrival? person group with
    | none =>
        have missing := firstArrival?_eq_none_iff.mp found enough known
        simp [enoughPresent] at missing
    | some first =>
        -- The first group cannot come later than one that is there, nor has the clock gone on
        -- since it came.
        obtain ⟨member, present, precedes⟩ := firstArrival?_eq_some_iff.mp found
        have now := course.still enough enoughMember enoughPresent
        have below := Arrival.precedes_iff.mp (precedes enough known enoughPresent)
        rw [groupById_elapsed_of_some found]
        rcases concludes.mem_arrivals_iff.mp member with ended | ⟨task, waits, rfl⟩
        · exact (course.still first ended present).symm
        · have due := course.punctual task waits
          rw [Task.time_arrival] at below ⊢
          omega
  · obtain ⟨all, now⟩ := concludes.of_all_ended done
    rw [now, lastTime_perm all, groupById_elapsed_of_none absent]
    rfl

/-- If tasks that can end at the same moment end in turn, the first group that has come is the first
one that arrives. -/
theorem find?_of_concludes
    (concludes : engine.Concludes (fun provider => provider.takesGroup group)
      (fun partner => partner.lookUp person group) (lookUpDiscipline true) final) :
    final.ended.find? Arrival.isPresent = engine.firstArrival? person group := by
  have course := concludes.course
  cases found : final.ended.find? Arrival.isPresent with
  | none =>
      have nobody := List.find?_eq_none.mp found
      rcases exists_present_or_absent concludes with ⟨arrival, member, present⟩ | ⟨absent, -⟩
      · exact absurd present (nobody arrival member)
      · exact absent.symm
  | some first =>
      have member := List.mem_of_find?_eq_some found
      have known : first ∈ engine.lookUps person group :=
        concludes.mem_arrivals_iff.mpr (.inl member)
      refine (firstArrival?_eq_some_iff.mpr ⟨known, List.find?_some found, ?_⟩).symm
      intro other otherMember otherPresent
      rcases concludes.mem_arrivals_iff.mp otherMember with ended | ⟨task, waits, rfl⟩
      · exact precedes_of_find? (course.ordered rfl) found ended otherPresent
      · exact course.ahead rfl first member task waits

/-- Then it is the one that the engine gives. -/
theorem firstPresent?_of_concludes
    (concludes : engine.Concludes (fun provider => provider.takesGroup group)
      (fun partner => partner.lookUp person group) (lookUpDiscipline true) final) :
    (firstPresent? final.ended).map Prod.snd = (engine.groupById person group).value := by
  rw [firstPresent?_eq_bind, groupById_value, find?_of_concludes concludes]

end Clock

end Engine

/-! ## Providers that bring nothing -/

section Insertion

variable {β : Type}

/-- Where an element stands after another one has been inserted behind some others. -/
def placeBeside (before : List β) (place : Nat) : Nat :=
  if place < before.length then place else place + 1

theorem getElem?_placeBeside (before after : List β) (inserted : β) (place : Nat) :
    (before ++ inserted :: after)[placeBeside before place]? = (before ++ after)[place]? := by
  unfold placeBeside
  grind

theorem placeBeside_le {before : List β} {first second : Nat} (le : first ≤ second) :
    placeBeside before first ≤ placeBeside before second := by
  unfold placeBeside
  split <;> split <;> omega

/-- Whoever stands in the longer list was inserted, or stands in the shorter one already. -/
theorem eq_or_exists_placeBeside {before after : List β} {inserted other : β} {place : Nat}
    (located : (before ++ inserted :: after)[place]? = some other) :
    other = inserted ∨
      ∃ old, (before ++ after)[old]? = some other ∧ place = placeBeside before old := by
  rcases Nat.lt_trichotomy place before.length with early | same | late
  · refine .inr ⟨place, ?_, by simp [placeBeside, early]⟩
    simpa [List.getElem?_append_left early] using located
  · left
    simpa [same] using located.symm
  · obtain ⟨old, rfl⟩ : ∃ old, place = old + 1 := ⟨place - 1, by omega⟩
    have beyond : ¬old < before.length := by omega
    have same : placeBeside before old = old + 1 := if_neg beyond
    refine .inr ⟨old, ?_, same.symm⟩
    rw [← located, ← same, getElem?_placeBeside]

end Insertion

namespace Engine

variable {engine : Engine} {person group : String}

/-- A partner that is left out stood between the others who are asked, or was not asked. -/
theorem exists_eligible_split {engine : Engine} {before after : List Partner} {partner : Partner}
    (split : engine.partners = before ++ partner :: after) (isAsked : Provider → Bool) :
    ∃ front back,
      { engine with partners := before ++ after }.eligible isAsked = front ++ back ∧
        (engine.eligible isAsked = front ++ partner :: back ∨
          engine.eligible isAsked = front ++ back) := by
  refine ⟨before.filter fun other => isAsked other.provider,
    after.filter fun other => isAsked other.provider, List.filter_append .., ?_⟩
  rw [eligible, split, List.filter_append, List.filter_cons]
  by_cases asked : isAsked partner.provider <;> simp [asked]

/-- Whoever answers without a partner that brings nothing answers with it as well. -/
theorem Wins.beside {others : Engine} {before after : List Partner} {silent : Partner}
    (without : (others.eligible fun provider => provider.takesGroup group) = before ++ after)
    (all : (engine.eligible fun provider => provider.takesGroup group) =
      before ++ silent :: after)
    (silence : ∀ found, ¬silent.Brings person group found) {place : Nat} {partner : Partner}
    {found : Group} (wins : others.Wins person group place partner found) :
    engine.Wins person group (placeBeside before place) partner found := by
  refine ⟨?_, wins.brings, ?_⟩
  · rw [all, getElem?_placeBeside, ← without]
    exact wins.located
  · intro otherPlace other otherFound otherLocated otherBrings
    rw [all] at otherLocated
    rcases eq_or_exists_placeBeside otherLocated with rfl | ⟨old, oldLocated, rfl⟩
    · exact absurd otherBrings (silence otherFound)
    · rw [← without] at oldLocated
      exact (wins.first old other otherFound oldLocated otherBrings).imp_right fun same =>
        ⟨same.1, placeBeside_le same.2⟩

/-- A partner that brings nothing hides nobody's group and holds up nobody's answer. -/
theorem groupById_without {before after : List Partner} {silent : Partner}
    (split : engine.partners = before ++ silent :: after)
    (silence : ∀ found, ¬silent.Brings person group found) :
    let others := { engine with partners := before ++ after }
    (others.groupById person group).value = (engine.groupById person group).value ∧
      ((engine.groupById person group).value ≠ none →
        (others.groupById person group).elapsed = (engine.groupById person group).elapsed) := by
  intro others
  obtain ⟨front, back, without, all⟩ :=
    exists_eligible_split split fun provider => provider.takesGroup group
  rcases others.exists_wins_or_value_eq_none person group with
    ⟨place, partner, found, wins⟩ | ⟨-, nothing⟩
  · have answers : ∃ place, engine.Wins person group place partner found := by
      rcases all with longer | same
      · exact ⟨_, wins.beside without longer silence⟩
      · have sameAsked := without.trans same.symm
        exact ⟨place, sameAsked ▸ wins.located, wins.brings, sameAsked ▸ wins.first⟩
    obtain ⟨place, answers⟩ := answers
    refine ⟨wins.groupById.1.trans answers.groupById.1.symm, fun _ => ?_⟩
    exact wins.groupById.2.trans answers.groupById.2.symm
  · have nobody := groupById_value_eq_none_iff.mp nothing
    have absent : (engine.groupById person group).value = none := by
      refine groupById_value_eq_none_iff.mpr fun partner member found brings => ?_
      rcases (mem_eligible_without split _ partner).2 member with rfl | listed
      · exact silence found brings
      · exact nobody partner listed found brings
    exact ⟨nothing.trans absent.symm, fun present => absurd absent present⟩

/-- A look-up gives no group exactly when none of the providers that may know the group brings one
within its limit. Otherwise it gives the group that comes first in time, of several that come at the
same time the one of the provider that is first in the registry, and it takes exactly as long as
that provider does. What others fail with or deny beforehand changes nothing; without them the
look-up would give the same. When no group is found it takes as long as the slowest call, where no
call takes longer than its limit. All this is so however the tasks are interleaved, if those that
can end at the same moment end in turn; the time is the same even if they do not. -/
theorem lookup_first_present_answer_wins (engine : Engine) (person group : String) :
    let takes (provider : Provider) := provider.takesGroup group
    let reply (partner : Partner) := partner.lookUp person group
    let asked := engine.eligible takes
    let result := engine.groupById person group
    asked.map Partner.provider = engine.registry.forGroup group ∧
    (result.value = none ↔ ∀ partner ∈ asked, ∀ found, ¬partner.Brings person group found) ∧
    (∀ found, result.value = some found ↔
      ∃ place partner, engine.Wins person group place partner found) ∧
    (∀ place partner found, engine.Wins person group place partner found →
      result.elapsed = (reply partner).delay) ∧
    (result.value = none → result.elapsed =
      (asked.map fun partner =>
        min (reply partner).delay partner.provider.timeout).max?.getD 0) ∧
    (∀ before silent after, engine.partners = before ++ silent :: after →
      (∀ found, ¬silent.Brings person group found) →
        let others := { engine with partners := before ++ after }.groupById person group
        others.value = result.value ∧ (result.value ≠ none → others.elapsed = result.elapsed)) ∧
    ∀ inTurn,
      (∃ final, engine.Concludes takes reply (lookUpDiscipline inTurn) final) ∧
      ∀ final, engine.Concludes takes reply (lookUpDiscipline inTurn) final →
        final.now = result.elapsed ∧
          (inTurn → (firstPresent? final.ended).map Prod.snd = result.value) := by
  intro takes reply asked result
  refine ⟨?_, groupById_value_eq_none_iff, fun found => groupById_value_eq_some_iff_exists_wins,
    ?_, ?_, ?_, ?_⟩
  · rw [Registry.forGroup, registry, List.filter_map]
    rfl
  · intro place partner found wins
    exact wins.groupById.2
  · intro nothing
    rcases engine.exists_wins_or_value_eq_none person group with
      ⟨place, partner, found, wins⟩ | ⟨absent, -⟩
    · rw [show result.value = _ from wins.groupById.1] at nothing
      cases nothing
    · exact (groupById_elapsed_of_none absent).trans (engine.lastTime_arrivals takes reply)
  · intro before silent after split silence
    exact groupById_without split silence
  · intro inTurn
    refine ⟨engine.exists_concludes takes reply _, fun final concludes => ?_⟩
    refine ⟨now_of_concludes concludes, ?_⟩
    rintro rfl
    exact firstPresent?_of_concludes concludes

end Engine

end GroupFederation.Aggregation
