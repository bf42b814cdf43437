/-!
# Tallies

A tally counts how often each label has occurred. Labels that never occurred are not in it, so that
what is shown grows only with what has happened. Counting one label leaves every other count alone.
-/

namespace GroupFederation

/-- Labels with their counts, in the order of their first occurrence. -/
structure Tally (κ : Type) where
  counts : List (κ × Nat)
  deriving DecidableEq, Repr

namespace Tally

variable {κ : Type}

/-- The labels that have occurred. -/
def labels (tally : Tally κ) : List κ :=
  tally.counts.map Prod.fst

/-- How many occurrences have been counted of all labels together. -/
def total (tally : Tally κ) : Nat :=
  tally.counts.foldr (fun (_, times) sum => times + sum) 0

variable [DecidableEq κ]

def empty : Tally κ := ⟨[]⟩

/-- How often a label has occurred. -/
def count (tally : Tally κ) (label : κ) : Nat :=
  ((tally.counts.find? fun entry => entry.1 = label).map Prod.snd).getD 0

/-- Add one occurrence to a list of counts. -/
def increment (label : κ) : List (κ × Nat) → List (κ × Nat)
  | [] => [(label, 1)]
  | (other, times) :: counts =>
      if other = label then (other, times + 1) :: counts
      else (other, times) :: increment label counts

/-- Count one occurrence of a label. -/
def add (tally : Tally κ) (label : κ) : Tally κ :=
  ⟨increment label tally.counts⟩

/-- Count the labels of a list, one after the other. -/
def addAll (tally : Tally κ) (labels : List κ) : Tally κ :=
  labels.foldl add tally

@[simp] theorem count_empty (label : κ) : (empty : Tally κ).count label = 0 := rfl

theorem count_add (tally : Tally κ) (label other : κ) :
    (tally.add label).count other = tally.count other + if label = other then 1 else 0 := by
  obtain ⟨counts⟩ := tally
  simp only [add, count]
  induction counts with
  | nil => by_cases same : label = other <;> simp [increment, same]
  | cons entry counts inductionHypothesis =>
      obtain ⟨name, times⟩ := entry
      by_cases found : name = label
      · subst found
        by_cases same : name = other <;> simp [increment, same]
      · by_cases same : name = other
        · subst same
          simp [increment, found, Ne.symm found]
        · simpa [increment, found, same] using inductionHypothesis

theorem mem_labels_add {tally : Tally κ} {label other : κ} :
    other ∈ (tally.add label).labels ↔ other ∈ tally.labels ∨ other = label := by
  obtain ⟨counts⟩ := tally
  simp only [add, labels]
  induction counts with
  | nil => simp [increment]
  | cons entry counts inductionHypothesis =>
      obtain ⟨name, times⟩ := entry
      by_cases found : name = label
      · subst found
        simp [increment, or_right_comm]
      · simp [increment, found, inductionHypothesis, or_assoc]

/-- Each occurrence is counted once. -/
theorem total_add (tally : Tally κ) (label : κ) : (tally.add label).total = tally.total + 1 := by
  obtain ⟨counts⟩ := tally
  simp only [add, total]
  induction counts with
  | nil => rfl
  | cons entry counts inductionHypothesis =>
      obtain ⟨name, times⟩ := entry
      by_cases found : name = label
      · simp [increment, found, Nat.add_right_comm]
      · simp [increment, found, inductionHypothesis, Nat.add_assoc]

theorem count_addAll (tally : Tally κ) (labels : List κ) (other : κ) :
    (tally.addAll labels).count other = tally.count other + labels.count other := by
  induction labels generalizing tally with
  | nil => rfl
  | cons label labels inductionHypothesis =>
      rw [addAll, List.foldl_cons, ← addAll, inductionHypothesis, count_add, List.count_cons]
      by_cases same : label = other
      · simp only [same, beq_self_eq_true, if_true]
        omega
      · simp [same]

theorem total_addAll (tally : Tally κ) (labels : List κ) :
    (tally.addAll labels).total = tally.total + labels.length := by
  induction labels generalizing tally with
  | nil => rfl
  | cons label labels inductionHypothesis =>
      rw [addAll, List.foldl_cons, ← addAll, inductionHypothesis, total_add, List.length_cons]
      omega

theorem mem_labels_addAll {tally : Tally κ} {labels : List κ} {other : κ} :
    other ∈ (tally.addAll labels).labels ↔ other ∈ tally.labels ∨ other ∈ labels := by
  induction labels generalizing tally with
  | nil => simp [addAll]
  | cons label labels inductionHypothesis =>
      rw [addAll, List.foldl_cons, ← addAll, inductionHypothesis, mem_labels_add, List.mem_cons,
        or_assoc]

end Tally

end GroupFederation
