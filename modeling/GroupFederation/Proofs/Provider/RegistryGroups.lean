import GroupFederation.Proofs.Provider.Lookup
import Mathlib.Data.List.Forall2
import Mathlib.Data.List.Nodup

/-!
# The groups of the authoritative registry

An answer of the registry holds group records and, beside them, membership records that refer to
groups by name; both may repeat themselves and come in any order. The groups made of it are those
that are named, each once and where it is first named, each described by its first record and held
in the most privileged role that any membership record of its name stands for. In which order the
membership records come, and how often, makes no difference.
-/

namespace GroupFederation.Provider.Grouper

open Soap (GroupRecord MembershipRecord Results)

/-! ## Every name once -/

section FirstOfEach

variable {α : Type} {name : α → String} {seen : List String} {records : List α}

/-- The names that are kept are the names that are there, where they first occur. -/
theorem map_firstOfEach :
    (firstOfEach name seen records).map name =
      (((records.map name).filter (· != "")).filter fun text => !seen.contains text).eraseDups := by
  induction records generalizing seen with
  | nil => rfl
  | cons record records inductionHypothesis =>
      by_cases unnamed : name record = ""
      · simp [firstOfEach, unnamed, inductionHypothesis]
      · by_cases known : name record ∈ seen
        · simp [firstOfEach, unnamed, known, inductionHypothesis]
        · have taken : firstOfEach name seen (record :: records) =
              record :: firstOfEach name (name record :: seen) records := by
            simp [firstOfEach, unnamed, known]
          rw [taken, List.map_cons, inductionHypothesis, List.map_cons,
            List.filter_cons_of_pos (by simpa using unnamed),
            List.filter_cons_of_pos (by simpa using known), List.eraseDups_cons,
            List.filter_filter (l := (records.map name).filter (· != ""))]
          congr 2
          apply List.filter_congr
          intro text _
          rw [List.contains_cons, Bool.not_or]

/-- What is kept under a name is the first record that has it. -/
theorem find?_of_mem_firstOfEach {record : α} (member : record ∈ firstOfEach name seen records) :
    name record ∉ seen ∧ (records.find? fun other => name other == name record) = some record := by
  induction records generalizing seen with
  | nil => cases member
  | cons first records inductionHypothesis =>
      have filled := name_ne_empty_of_mem_firstOfEach member
      rw [firstOfEach] at member
      split at member
      · next passed =>
          obtain ⟨unseen, found⟩ := inductionHypothesis member
          have other : name first ≠ name record := by
            intro same
            simp [same, filled, unseen] at passed
          exact ⟨unseen, by simp [other, found]⟩
      · next taken =>
          rcases List.mem_cons.mp member with rfl | later
          · exact ⟨by simpa [filled] using taken, by simp⟩
          · obtain ⟨unseen, found⟩ := inductionHypothesis later
            rw [List.mem_cons, not_or] at unseen
            exact ⟨unseen.2, by simp [Ne.symm unseen.1, found]⟩

/-- No name is kept twice. -/
theorem nodup_firstOfEach : ((firstOfEach name seen records).map name).Nodup := by
  induction records generalizing seen with
  | nil => exact .nil
  | cons record records inductionHypothesis =>
      rw [firstOfEach]
      split
      · exact inductionHypothesis
      · rw [List.map_cons, List.nodup_cons]
        refine ⟨fun member => ?_, inductionHypothesis⟩
        obtain ⟨other, later, same⟩ := List.mem_map.mp member
        exact (find?_of_mem_firstOfEach later).1 (same ▸ List.mem_cons_self)

end FirstOfEach

/-! ## The role in a group -/

/-- A role is the highest one in a group: no membership record of the group stands for a higher one,
and some record stands for that very role, unless there is none for the group and the role is that
of a plain member. -/
structure IsHighest (memberships : List MembershipRecord) (name : String) (role : Role) :
    Prop where
  bound : ∀ record ∈ memberships, record.groupName = name → (roleOf record).rank ≤ role.rank
  reached : (∃ record ∈ memberships, record.groupName = name ∧ roleOf record = role) ∨
    (∀ record ∈ memberships, record.groupName ≠ name) ∧ role = .member

namespace IsHighest

variable {memberships : List MembershipRecord} {name : String}

/-- There is only one highest role in a group. -/
theorem unique {left right : Role} (isLeft : IsHighest memberships name left)
    (isRight : IsHighest memberships name right) : left = right := by
  rcases isLeft.reached with ⟨record, member, named, rfl⟩ | ⟨unnamed, rfl⟩
  · rcases isRight.reached with ⟨other, otherMember, otherNamed, rfl⟩ | ⟨unnamed, -⟩
    · exact Role.rank_injective (Nat.le_antisymm (isRight.bound record member named)
        (isLeft.bound other otherMember otherNamed))
    · exact absurd named (unnamed record member)
  · rcases isRight.reached with ⟨other, otherMember, otherNamed, -⟩ | ⟨-, rfl⟩
    · exact absurd otherNamed (unnamed other otherMember)
    · rfl

theorem roleIn (memberships : List MembershipRecord) (name : String) :
    IsHighest memberships name (roleIn memberships name) := by
  have stands {role : Role} :
      role ∈ (memberships.filter fun record => record.groupName == name).map roleOf ↔
        ∃ record ∈ memberships, record.groupName = name ∧ roleOf record = role := by
    simp [and_assoc]
  unfold Grouper.roleIn
  cases highest : Role.highest?
      ((memberships.filter fun record => record.groupName == name).map roleOf) with
  | none =>
      have unnamed := Role.highest?_eq_none_iff.mp highest
      rw [List.map_eq_nil_iff, List.filter_eq_nil_iff] at unnamed
      have others : ∀ record ∈ memberships, record.groupName ≠ name := by simpa using unnamed
      exact ⟨fun record member named => absurd named (others record member), .inr ⟨others, rfl⟩⟩
  | some role =>
      obtain ⟨member, greatest⟩ := Role.highest?_eq_some_iff.mp highest
      exact ⟨fun record present named => greatest _ (stands.mpr ⟨record, present, named, rfl⟩),
        .inl (stands.mp member)⟩

/-- The highest role depends only on which membership records there are. -/
theorem congr {others : List MembershipRecord} {role : Role}
    (same : ∀ record, record ∈ others ↔ record ∈ memberships)
    (highest : IsHighest memberships name role) : IsHighest others name role :=
  ⟨by simpa only [same] using highest.bound, by simpa only [same] using highest.reached⟩

end IsHighest

/-! ## The groups -/

/-- A group is what an answer says of a name: its identifier is the name behind the leader of the
organization, its texts are those of the first record with that name, and its role is the highest
one in the membership records of that name. -/
structure Describes (organization : String) (results : Results) (name : String) (group : Group) :
    Prop where
  id : group.id = Urn.leader .group organization ++ name
  texts : ∃ record, (results.groups.find? fun record => record.name == name) = some record ∧
    group.displayName = (record.displayExtension.or record.displayName).getD name ∧
    group.description = record.description
  organization : group.organization = organization
  role : IsHighest results.memberships name group.membership.basic

/-- What becomes of a record describes its name. -/
theorem describes_toGroup {organization : String} {results : Results} {record : GroupRecord}
    (taken : record ∈ firstOfEach GroupRecord.name [] results.groups) :
    Describes organization results record.name
      (toGroup organization (roleIn results.memberships record.name) record) where
  id := rfl
  texts := ⟨record, (find?_of_mem_firstOfEach taken).2, rfl, rfl⟩
  organization := rfl
  role := .roleIn results.memberships record.name

/-- Whatever records the registry answers with: its groups are described by the names in the group
records, every non-empty name once and in the order in which names first occur, and no two of them
have the same identifier. With the same membership records in another order, or some of them more
or less often, the groups are the same. -/
theorem groups_from_records (organization : String) (results : Results) :
    let names := ((results.groups.map GroupRecord.name).filter (· != "")).eraseDups
    let groups := groupsOf organization results
    List.Forall₂ (Describes organization results) names groups ∧
      (groups.map Group.id).Nodup ∧
      ∀ memberships, (∀ record, record ∈ memberships ↔ record ∈ results.memberships) →
        groupsOf organization { results with memberships := memberships } = groups := by
  intro names groups
  have kept : (firstOfEach GroupRecord.name [] results.groups).map GroupRecord.name = names := by
    simp [map_firstOfEach, names]
  have described : List.Forall₂ (Describes organization results) names groups := by
    simp only [← kept, groups, groupsOf, List.forall₂_map_left_iff, List.forall₂_map_right_iff,
      List.forall₂_same]
    exact fun record taken => describes_toGroup taken
  have ids : groups.map Group.id =
      ((firstOfEach GroupRecord.name [] results.groups).map GroupRecord.name).map
        fun name => Urn.leader .group organization ++ name := by
    simp only [groups, groupsOf, List.map_map]
    rfl
  refine ⟨described, ?_, fun memberships same => ?_⟩
  · rw [ids]
    exact List.Nodup.map (fun left right equal => (String.append_right_inj _).mp equal)
      nodup_firstOfEach
  · apply List.map_congr_left
    intro record _
    have highest := IsHighest.roleIn results.memberships record.name
    rw [(highest.congr same).unique (.roleIn memberships record.name)]

-- The second record of a name and the record without a name are passed over, an administrator who
-- is also listed as a member is an administrator, and whoever is in no list is a member.
example :
    groupsOf "example.org"
      { groups :=
          [{ name := "lab", displayName := some "Laboratory" }, {},
            { name := "lab", displayExtension := some "Other" }, { name := "pub" }]
        memberships :=
          [{ groupName := "lab", listName := some " Admins" },
            { groupName := "lab", listName := some "members" }] } =
      [⟨"urn:collab:group:example.org:lab", "Laboratory", none, "example.org", ⟨.admin⟩⟩,
        ⟨"urn:collab:group:example.org:pub", "pub", none, "example.org", ⟨.member⟩⟩] := by
  decide +kernel

end GroupFederation.Provider.Grouper
