import GroupFederation.Aggregation.Engine
import Mathlib.Data.List.Nodup

/-!
# Questions for lists of groups

Three questions gather lists of groups: the groups of a person, the groups of a person at external
partners, and all groups. They differ in who is asked and what, and in nothing else. The tasks that
a question starts may end in any order; putting them back into the order of the registry undoes
whatever that order was.
-/

namespace GroupFederation.Aggregation

/-- A question whose answer is a list of groups. -/
inductive Listing where
  | memberships (person organization : String)
  | externalMemberships (person organization : String)
  | allGroups
  deriving DecidableEq, Repr

namespace Listing

/-- Whether the question is put to a provider. -/
def isAsked : Listing → Provider → Bool
  | .memberships _ organization, provider => provider.takesMemberships organization
  | .externalMemberships _ organization, provider =>
      provider.takesMemberships organization && provider.isExternal
  | .allGroups, provider => !provider.isExternal

/-- What each of them is asked. -/
def query : Listing → Query
  | .memberships person _ => .memberships person
  | .externalMemberships person _ => .memberships person
  | .allGroups => .allGroups

/-- What a partner replies. -/
def reply : Listing → Partner → Reply (List Group)
  | .memberships person _, partner => partner.provider.memberships partner.asked person
  | .externalMemberships person _, partner => partner.provider.memberships partner.asked person
  | .allGroups, partner => partner.provider.allGroups partner.asked

/-- The list of a partner, if its call succeeds in time. -/
def answer? (listing : Listing) (partner : Partner) : Option (List Group) :=
  ((listing.reply partner).within partner.provider.timeout).outcome.value?

end Listing

namespace Engine

/-- Put a question for a list of groups. -/
def list (engine : Engine) : Listing → Result (List Group)
  | .memberships person organization => engine.myGroups person organization
  | .externalMemberships person organization => engine.myExternalGroups person organization
  | .allGroups => engine.allGroups

/-- The lists that come in time, in the order of the registry. -/
def answers (engine : Engine) (listing : Listing) : List (List Group) :=
  (engine.eligible listing.isAsked).filterMap listing.answer?

theorem list_eq_gather (engine : Engine) (listing : Listing) :
    engine.list listing = engine.gather listing.isAsked listing.query listing.reply := by
  cases listing <;> rfl

/-! ## The order in which tasks end -/

variable {α : Type}

/-- The tasks are numbered along the registry. -/
theorem map_place_arrivals (engine : Engine) (isAsked : Provider → Bool)
    (reply : Partner → Reply α) :
    (engine.arrivals isAsked reply).map Arrival.place =
      List.range (engine.eligible isAsked).length := by
  have places : (Arrival.place ∘ fun entry : Partner × Nat =>
      Arrival.ofReply entry.2 entry.1.provider (reply entry.1)) = Prod.snd := rfl
  rw [arrivals, List.map_map, places, List.zipIdx_map_snd, List.range_eq_range']

/-- What is read off the ends of the calls without regard to their places is read off the partners
that are asked. -/
theorem filterMap_arrivals {β : Type} {engine : Engine} {isAsked : Provider → Bool}
    {reply : Partner → Reply α} {read : Arrival α → Option β} {result : Partner → Option β}
    (same : ∀ place partner,
      read (.ofReply place partner.provider (reply partner)) = result partner) :
    (engine.arrivals isAsked reply).filterMap read =
      (engine.eligible isAsked).filterMap result := by
  conv => right; rw [← List.zipIdx_map_fst 0 (engine.eligible isAsked), List.filterMap_map]
  rw [arrivals, List.filterMap_map]
  exact List.filterMap_congr fun entry _ => same entry.2 entry.1

/-- In whatever order the tasks end, sorting them by their places gives the order of the
registry. -/
theorem mergeSort_of_perm_arrivals (engine : Engine) (isAsked : Provider → Bool)
    (reply : Partner → Reply α) {ended : List (Arrival α)}
    (perm : ended.Perm (engine.arrivals isAsked reply)) :
    (ended.mergeSort fun left right => left.place ≤ right.place) =
      engine.arrivals isAsked reply := by
  have places := engine.map_place_arrivals isAsked reply
  have sorted : (ended.mergeSort fun left right => left.place ≤ right.place).Pairwise
      fun left right => left.place ≤ right.place := by
    have result : (ended.mergeSort fun left right => left.place ≤ right.place).Pairwise
        fun left right => decide (left.place ≤ right.place) = true := by
      apply List.pairwise_mergeSort
      · intro first second third
        simpa using Nat.le_trans
      · intro left right
        simpa using Nat.le_total left.place right.place
    simpa using result
  have ordered : (engine.arrivals isAsked reply).Pairwise
      fun left right => left.place ≤ right.place := by
    rw [← List.pairwise_map (f := Arrival.place) (R := fun left right => left ≤ right), places]
    exact List.pairwise_le_range
  -- Both lists are sorted, and no two tasks share a place, so there is only one such list.
  refine List.Perm.eq_of_pairwise ?_ sorted ordered ((List.mergeSort_perm ended _).trans perm)
  intro left right leftMember rightMember below above
  have distinct : ((engine.arrivals isAsked reply).map Arrival.place).Nodup := by
    rw [places]
    exact List.nodup_range
  exact List.inj_on_of_nodup_map distinct
    (perm.mem_iff.mp (List.mem_mergeSort.mp leftMember)) rightMember
    (Nat.le_antisymm below above)

/-- In whatever order the tasks end, the values that are collected stand in the order of the
registry. -/
theorem collect_of_perm_arrivals (engine : Engine) (isAsked : Provider → Bool)
    (reply : Partner → Reply α) {ended : List (Arrival α)}
    (perm : ended.Perm (engine.arrivals isAsked reply)) :
    collect ended = (engine.eligible isAsked).filterMap fun partner =>
      ((reply partner).within partner.provider.timeout).outcome.value? := by
  rw [collect, engine.mergeSort_of_perm_arrivals isAsked reply perm]
  exact filterMap_arrivals fun _ _ => rfl

end Engine

end GroupFederation.Aggregation
