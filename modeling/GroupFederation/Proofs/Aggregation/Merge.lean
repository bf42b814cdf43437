import GroupFederation.Aggregation.Arrival

/-!
# What merging keeps

Merging walks through the records once and remembers the identifiers it has seen. Described without
that walk: it keeps those records of the concatenation that no earlier record of the same group
precedes. So every group that somebody reported is there exactly once, with its first record.
-/

namespace GroupFederation.Aggregation

/-- The records of a list that no earlier record of the same group precedes, in their order. -/
def firstRecords (groups : List Group) : List Group :=
  (groups.zipIdx.filter fun (group, place) =>
    (groups.take place).all fun earlier => earlier.id != group.id).map Prod.fst

/-- The head is a first record, and it rules out every other record of its group. -/
theorem firstRecords_cons (group : Group) (groups : List Group) :
    firstRecords (group :: groups) =
      group :: (firstRecords groups).filter fun other => other.id != group.id := by
  have later : ((groups.zipIdx 1).filter fun (other, place) =>
      ((group :: groups).take place).all fun earlier => earlier.id != other.id).map Prod.fst =
      (firstRecords groups).filter fun other => other.id != group.id := by
    rw [firstRecords, List.zipIdx_succ, List.filter_map, List.map_map, List.filter_map,
      List.filter_filter]
    have shifted : (Prod.fst ∘ fun entry : Group × Nat => (entry.1, entry.2 + 1)) = Prod.fst := rfl
    rw [shifted]
    congr 1
    apply List.filter_congr
    intro entry _
    simp only [Function.comp_apply, List.take_succ_cons, List.all_cons]
    rw [bne_comm]
  rw [← later, firstRecords, List.zipIdx_cons, List.filter_cons_of_pos (by simp), List.map_cons]

/-- Identifiers seen before only take records away. -/
theorem dropSeen_eq_filter (seen : List String) (groups : List Group) :
    dropSeen seen groups = (dropSeen [] groups).filter fun group => !seen.contains group.id := by
  induction groups generalizing seen with
  | nil => rfl
  | cons group groups inductionHypothesis =>
      have alone : dropSeen [] (group :: groups) =
          group :: (dropSeen [] groups).filter fun other => !List.contains [group.id] other.id := by
        rw [dropSeen, if_neg (by simp), inductionHypothesis [group.id]]
      rw [alone]
      by_cases known : group.id ∈ seen
      · rw [dropSeen, if_pos (by simpa using known), inductionHypothesis seen,
          List.filter_cons_of_neg (by simpa using known), List.filter_filter]
        apply List.filter_congr
        intro other _
        by_cases same : other.id = group.id
        · simp [same, known]
        · simp [same]
      · rw [dropSeen, if_neg (by simpa using known), inductionHypothesis (group.id :: seen),
          List.filter_cons_of_pos (by simpa using known), List.filter_filter]
        congr 1
        apply List.filter_congr
        intro other _
        simp [Bool.and_comm]

/-- The walk and its description agree. -/
theorem merge_eq_firstRecords (lists : List (List Group)) :
    merge lists = firstRecords lists.flatten := by
  unfold merge
  induction lists.flatten with
  | nil => rfl
  | cons group groups inductionHypothesis =>
      rw [firstRecords_cons, ← inductionHypothesis, dropSeen, if_neg (by simp),
        dropSeen_eq_filter [group.id]]
      congr 1
      apply List.filter_congr
      intro other _
      by_cases same : other.id = group.id <;> simp [same]

/-- Of the second list of a concatenation, the first records of those groups stay that the first
list does not have. -/
theorem firstRecords_append (former latter : List Group) :
    firstRecords (former ++ latter) =
      firstRecords former ++ (firstRecords latter).filter fun group =>
        !(former.map Group.id).contains group.id := by
  induction former with
  | nil =>
      have all : ((firstRecords latter).filter fun group =>
          !(([] : List Group).map Group.id).contains group.id) = firstRecords latter :=
        List.filter_eq_self.mpr fun _ _ => rfl
      rw [all]
      rfl
  | cons group former inductionHypothesis =>
      rw [List.cons_append, firstRecords_cons, firstRecords_cons, inductionHypothesis,
        List.filter_append, List.filter_filter, List.cons_append]
      congr 2
      apply List.filter_congr
      intro other _
      by_cases same : other.id = group.id <;> simp [same]

/-- For every group, the first record is what is found. -/
theorem find?_firstRecords (groups : List Group) (id : String) :
    ((firstRecords groups).find? fun group => group.id == id) =
      groups.find? fun group => group.id == id := by
  induction groups with
  | nil => rfl
  | cons group groups inductionHypothesis =>
      rw [firstRecords_cons]
      by_cases same : group.id = id
      · simp [same]
      · have other : (group.id == id) = false := by simpa using same
        rw [List.find?_cons, List.find?_cons, other, List.find?_filter, ← inductionHypothesis]
        refine congrArg (fun accepts => (firstRecords groups).find? accepts) (funext fun found => ?_)
        by_cases wanted : found.id = id
        · simp [wanted, Ne.symm same]
        · simp [wanted]

/-- No two first records are of the same group. -/
theorem nodup_firstRecords (groups : List Group) : ((firstRecords groups).map Group.id).Nodup := by
  induction groups with
  | nil => exact .nil
  | cons group groups inductionHypothesis =>
      rw [firstRecords_cons, List.map_cons, List.nodup_cons]
      constructor
      · intro member
        obtain ⟨other, kept, same⟩ := List.mem_map.mp member
        have differ := (List.mem_filter.mp kept).2
        simp [same] at differ
      · exact inductionHypothesis.sublist (List.filter_sublist.map Group.id)

/-- The first record of a group is kept. -/
theorem mem_firstRecords_of_find? {groups : List Group} {id : String} {record : Group}
    (found : (groups.find? fun group => group.id == id) = some record) :
    record ∈ firstRecords groups := by
  rw [← find?_firstRecords] at found
  exact List.mem_of_find?_eq_some found

/-- No group is lost, and none is made up. -/
theorem mem_ids_firstRecords {groups : List Group} {id : String} :
    id ∈ (firstRecords groups).map Group.id ↔ id ∈ groups.map Group.id := by
  have present (records : List Group) :
      id ∈ records.map Group.id ↔ (records.find? fun group => group.id == id).isSome := by
    simp
  rw [present, present, find?_firstRecords]

end GroupFederation.Aggregation
