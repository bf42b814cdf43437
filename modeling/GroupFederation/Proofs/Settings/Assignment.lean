import GroupFederation.Settings.Environment
import Mathlib.Data.List.Basic

/-!
# Values put at paths

What is put below a step is put into the value that is found there, whatever is put elsewhere. Where
no path leads to another one or through it, a place therefore keeps its former value, or has the one
that was put there, or is a list or a table because something was put further inside.
-/

namespace GroupFederation.Settings

/-! ## Paths -/

namespace Step

/-- Neither path leads to the other one or through it. -/
def Apart (left right : List Step) : Prop :=
  ¬left <+: right ∧ ¬right <+: left

theorem Apart.of_append {front left right : List Step}
    (apart : Apart (front ++ left) (front ++ right)) : Apart left right :=
  ⟨fun leads => apart.1 ((List.prefix_append_right_inj front).mpr leads),
    fun leads => apart.2 ((List.prefix_append_right_inj front).mpr leads)⟩

instance (left right : List Step) : Decidable (Apart left right) :=
  inferInstanceAs (Decidable (¬left <+: right ∧ ¬right <+: left))

/-- A name stands for a path that begins at an entry. -/
theorem exists_ofName_eq (name : String) : ∃ first rest, ofName name = .entry first :: rest := by
  unfold ofName read?
  dsimp only
  split
  · exact ⟨_, _, rfl⟩
  · cases readMore? (name.toList.dropWhile isNameChar) with
    | none => exact ⟨_, _, rfl⟩
    | some rest => exact ⟨_, rest, rfl⟩

end Step

namespace Value

/-- A value that can have others inside. -/
inductive IsGroup : Value → Prop where
  | table (entries : List (String × Value)) : IsGroup (.table entries)
  | list (items : List Value) : IsGroup (.list items)

/-! ## What is put below a step -/

/-- Values and the paths that they are put at, in order. -/
abbrev Placings := List (List Step × Value)

namespace Placings

/-- What is put at the end of a path or below it, seen from there. -/
def below (path : List Step) (placings : Placings) : Placings :=
  placings.filterMap fun placing => (placing.1.dropPrefix? path).map (·, placing.2)

/-- No place is put into twice, and no value into another one. -/
def AreApart (placings : Placings) : Prop :=
  placings.Pairwise fun left right => Step.Apart left.1 right.1

instance (placings : Placings) : Decidable placings.AreApart :=
  inferInstanceAs (Decidable (placings.Pairwise fun left right => Step.Apart left.1 right.1))

/-- All paths begin at entries. -/
def AreNamed (placings : Placings) : Prop :=
  ∀ placing ∈ placings, ∃ name rest, placing.1 = .entry name :: rest

/-- All paths lead further. -/
def AreInside (placings : Placings) : Prop :=
  placings ≠ [] ∧ ∀ placing ∈ placings, placing.1 ≠ []

section

variable {placings : Placings} {path tail rest : List Step} {value : Value}

theorem dropPrefix?_eq_some_iff : rest.dropPrefix? path = some tail ↔ rest = path ++ tail := by
  rw [List.dropPrefix?_eq_some_iff]
  simp

theorem mem_below : (rest, value) ∈ placings.below path ↔ (path ++ rest, value) ∈ placings := by
  simp only [below, List.mem_filterMap, Option.map_eq_some_iff, dropPrefix?_eq_some_iff,
    Prod.mk.injEq]
  constructor
  · rintro ⟨_, member, _, leads, rfl, rfl⟩
    rwa [← leads]
  · exact fun member => ⟨_, member, rest, rfl, rfl, rfl⟩

theorem below_below (placings : Placings) (first rest : List Step) :
    (placings.below first).below rest = placings.below (first ++ rest) := by
  rw [below, below, List.filterMap_filterMap, below]
  refine congrArg (List.filterMap · placings) (funext fun placing => Option.ext fun found => ?_)
  simp only [Option.bind_eq_some_iff, Option.map_eq_some_iff, dropPrefix?_eq_some_iff]
  constructor
  · rintro ⟨_, ⟨_, leads, rfl⟩, tail, rfl, rfl⟩
    exact ⟨tail, by rw [leads, List.append_assoc], rfl⟩
  · rintro ⟨tail, leads, rfl⟩
    exact ⟨_, ⟨rest ++ tail, by rw [leads, List.append_assoc], rfl⟩, tail, rfl, rfl⟩

theorem lookup_below (placings : Placings) (path rest : List Step) :
    (placings.below path).lookup rest = placings.lookup (path ++ rest) := by
  induction placings with
  | nil => rfl
  | cons placing placings inductionHypothesis =>
      obtain ⟨target, value⟩ := placing
      rw [List.lookup_cons, ← inductionHypothesis]
      cases leads : target.dropPrefix? path with
      | none =>
          have elsewhere : (path ++ rest == target) = false := by
            rw [beq_eq_false_iff_ne]
            rintro rfl
            rw [dropPrefix?_eq_some_iff.mpr rfl] at leads
            cases leads
          simp [below, leads, elsewhere]
      | some tail =>
          obtain rfl := dropPrefix?_eq_some_iff.mp leads
          have same : (path ++ rest == path ++ tail) = (rest == tail) := by
            rw [Bool.eq_iff_iff, beq_iff_eq, beq_iff_eq, List.append_cancel_left_eq]
          simp [below, leads, same, List.lookup_cons]

/-- What is put elsewhere does not count. -/
theorem below_filter {keep : List Step → Bool} (placings : Placings)
    (kept : ∀ tail, keep (path ++ tail) = true) :
    below path (placings.filter fun placing => keep placing.1) = placings.below path := by
  rw [below, below, List.filterMap_filter]
  refine congrArg (List.filterMap · placings) (funext fun placing => ?_)
  by_cases isKept : keep placing.1 = true
  · rw [if_pos isKept]
  · rw [if_neg isKept]
    cases leads : placing.1.dropPrefix? path with
    | none => rfl
    | some tail =>
        rw [dropPrefix?_eq_some_iff.mp leads] at isKept
        exact absurd (kept tail) isKept

theorem AreApart.below (apart : placings.AreApart) (path : List Step) :
    (placings.below path).AreApart := by
  refine List.Pairwise.filterMap _ (fun left right apart leftFound isLeft rightFound isRight => ?_)
    apart
  obtain ⟨leftTail, leftLeads, rfl⟩ := Option.map_eq_some_iff.mp isLeft
  obtain ⟨rightTail, rightLeads, rfl⟩ := Option.map_eq_some_iff.mp isRight
  rw [dropPrefix?_eq_some_iff.mp leftLeads, dropPrefix?_eq_some_iff.mp rightLeads] at apart
  exact apart.of_append

/-- Beside a value for the place itself there is nothing. -/
theorem AreApart.eq_singleton (apart : placings.AreApart) (member : ([], value) ∈ placings) :
    placings = [([], value)] := by
  obtain ⟨front, back, rfl⟩ := List.mem_iff_append.mp member
  have apart := List.pairwise_append.mp apart
  have noFront : front = [] := List.eq_nil_iff_forall_not_mem.mpr fun placing isFront =>
    (apart.2.2 placing isFront _ List.mem_cons_self).2 List.nil_prefix
  have noBack : back = [] := List.eq_nil_iff_forall_not_mem.mpr fun placing isBack =>
    ((List.pairwise_cons.mp apart.2.1).1 placing isBack).1 List.nil_prefix
  rw [noFront, noBack, List.nil_append]

/-- At a place there is nothing new, or one value, or what is put further inside. -/
theorem AreApart.eq_nil_or_eq_singleton_or_areInside (apart : placings.AreApart) :
    placings = [] ∨ (∃ value, placings = [([], value)]) ∨ placings.AreInside := by
  by_cases here : ∃ value, ([], value) ∈ placings
  · obtain ⟨value, member⟩ := here
    exact .inr (.inl ⟨value, apart.eq_singleton member⟩)
  · by_cases empty : placings = []
    · exact .inl empty
    · refine .inr (.inr ⟨empty, fun placing member isHere => here ⟨placing.2, ?_⟩⟩)
      rwa [← isHere]

theorem AreApart.areInside (apart : placings.AreApart) {step : Step}
    (member : (step :: rest, value) ∈ placings) : placings.AreInside := by
  rcases apart.eq_nil_or_eq_singleton_or_areInside with nothing | ⟨given, single⟩ | inside
  · rw [nothing] at member
    cases member
  · rw [single] at member
    cases List.mem_singleton.mp member
  · exact inside

end

end Placings

/-! ## Putting -/

/-- Put values one after the other. -/
def putAll (placings : Placings) (former : Option Value) : Option Value :=
  placings.foldl (fun former placing => some (put placing.2 placing.1 former)) former

variable {placings : Placings} {former : Option Value}

@[simp] theorem putAll_nil (former : Option Value) : putAll [] former = former := rfl

@[simp] theorem putAll_cons (path : List Step) (value : Value) (placings : Placings)
    (former : Option Value) :
    putAll ((path, value) :: placings) former = putAll placings (some (put value path former)) :=
  rfl

/-- To assign values is to put them at the paths that their names stand for. -/
theorem some_assign_eq_putAll (root : Value) (assignments : List (String × Value)) :
    some (assign root assignments) =
      putAll (assignments.map fun assignment => (Step.ofName assignment.1, assignment.2))
        (some root) := by
  unfold assign
  induction assignments generalizing root with
  | nil => rfl
  | cons assignment assignments inductionHypothesis => exact inductionHypothesis _

/-- An entry has what is put below it. -/
theorem get?_putAll (named : placings.AreNamed) (name : String) (former : Option Value) :
    (putAll placings former).bind (·.get? name) =
      putAll (placings.below [.entry name]) (former.bind (·.get? name)) := by
  induction placings generalizing former with
  | nil => rfl
  | cons placing placings inductionHypothesis =>
      obtain ⟨_, value⟩ := placing
      obtain ⟨⟨first, rest, rfl⟩, others⟩ := List.forall_mem_cons.mp named
      have entries : (former.getD .null).entries.lookup name = former.bind (·.get? name) := by
        cases former <;> rfl
      rw [putAll_cons, inductionHypothesis others, Option.bind_some, put, get?, entries_table]
      by_cases same : name = first
      · subst same
        rw [lookup_alterEntry_self, entries]
        simp [Placings.below, List.dropPrefix?]
      · have different : (first == name) = false := beq_eq_false_iff_ne.mpr (Ne.symm same)
        rw [lookup_alterEntry_of_ne same, entries]
        simp [Placings.below, List.dropPrefix?, Ne.symm same]

/-- A table stays a table. -/
theorem exists_assign_eq_table (entries : List (String × Value))
    (assignments : List (String × Value)) :
    ∃ others, assign (.table entries) assignments = .table others := by
  induction assignments generalizing entries with
  | nil => exact ⟨entries, rfl⟩
  | cons assignment assignments inductionHypothesis =>
      obtain ⟨name, rest, path⟩ := Step.exists_ofName_eq assignment.1
      have first : assign (.table entries) (assignment :: assignments) =
          assign (put assignment.2 (Step.ofName assignment.1) (some (.table entries)))
            assignments := rfl
      rw [first, path, put]
      exact inductionHypothesis _

/-- What was put last decides what there is. -/
theorem exists_putAll_eq_some_put (notEmpty : placings ≠ []) (former : Option Value) :
    ∃ placing ∈ placings, ∃ before,
      putAll placings former = some (put placing.2 placing.1 before) := by
  obtain ⟨front, last, rfl⟩ := List.eq_nil_or_concat placings |>.resolve_left notEmpty
  exact ⟨last, by simp, putAll front former, by simp [putAll]⟩

/-- Values for entries make a table. -/
theorem exists_putAll_eq_table (named : placings.AreNamed) (notEmpty : placings ≠ [])
    (former : Option Value) : ∃ entries, putAll placings former = some (.table entries) := by
  obtain ⟨⟨_, value⟩, member, before, last⟩ := exists_putAll_eq_some_put notEmpty former
  obtain ⟨name, rest, rfl⟩ := named _ member
  exact ⟨_, by rw [last, put]⟩

/-- Values for what is further inside make a table or a list. -/
theorem exists_putAll_eq_isGroup (inside : placings.AreInside) (former : Option Value) :
    ∃ value, putAll placings former = some value ∧ value.IsGroup := by
  obtain ⟨⟨path, value⟩, member, before, last⟩ := exists_putAll_eq_some_put inside.1 former
  refine ⟨_, last, ?_⟩
  cases path with
  | nil => exact absurd rfl (inside.2 _ member)
  | cons step rest =>
      cases step with
      | entry name =>
          rw [put]
          exact .table _
      | item index =>
          cases rest with
          | nil =>
              rw [put]
              exact .list _
          | cons next rest =>
              rw [put.eq_4 _ _ _ _ (List.cons_ne_nil next rest)]
              exact .list _

end Value

end GroupFederation.Settings
