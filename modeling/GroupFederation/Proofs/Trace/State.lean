import GroupFederation.Trace.Context
import GroupFederation.Trace.State

/-!
# Reading trace states

The header `tracestate` is read as entries between commas, each cut at its first equals sign. The
grammar of keys and values keeps these signs where they separate, so that the entries of a trace
state are found again in the header that is written for them.
-/

namespace GroupFederation

namespace Text

/-- Where there is no separator, the cut leaves everything in front. -/
theorem eq_front_of_cutAt {separator : Char} {characters front : List Char}
    (cut : cutAt separator characters = (front, none)) : characters = front := by
  obtain ⟨taken, dropped⟩ := Prod.mk.inj cut
  have whole := List.takeWhile_append_dropWhile (p := (· != separator)) (l := characters)
  cases remains : characters.dropWhile (· != separator) with
  | nil => rw [← whole, taken, remains, List.append_nil]
  | cons first rest => simp [remains] at dropped

/-- Pieces without the separator are found again between separators. -/
theorem splitOn_intercalate {separator : Char} {pieces : List (List Char)} (present : pieces ≠ [])
    (absent : ∀ piece ∈ pieces, separator ∉ piece) :
    splitOn separator ([separator].intercalate pieces) = pieces := by
  induction pieces with
  | nil => exact absurd rfl present
  | cons piece pieces inductionHypothesis =>
      rw [List.forall_mem_cons] at absent
      cases pieces with
      | nil => rw [List.intercalate_singleton, splitOn_of_not_mem absent.1]
      | cons next others =>
          rw [List.intercalate_cons_cons, List.append_assoc, List.singleton_append,
            splitOn_append absent.1, inductionHypothesis (List.cons_ne_nil _ _) absent.2]

end Text

namespace Trace.State

/-- The entry that a piece of the header tells. -/
def entryOf? (piece : List Char) : Option (String × String) :=
  match Text.cutAt '=' piece with
  | (key, some value) => some (String.ofList key, String.ofList value)
  | (_, none) => none

/-- The entries that the header tells. -/
def read? (text : String) : Option (List (String × String)) :=
  (Text.splitOn ',' text.toList).mapM entryOf?

/-- An entry of the right form. -/
structure IsEntry (entry : String × String) : Prop where
  key : isKey entry.1 = true
  value : isValue entry.2 = true

/-- The characters of an entry as it is written. -/
def written (entry : String × String) : List Char :=
  entry.1.toList ++ '=' :: entry.2.toList

theorem toList_tracestate (context : SpanContext) :
    context.tracestate.toList = [','].intercalate (context.state.map written) := by
  rw [SpanContext.tracestate, String.toList_intercalate, List.map_map]
  refine congrArg _ (List.map_congr_left fun entry _ => ?_)
  simp [written]

/-- A written entry has at least its equals sign. -/
theorem tracestate_eq_empty_iff {context : SpanContext} :
    context.tracestate = "" ↔ context.state = [] := by
  rw [← String.toList_eq_nil_iff, toList_tracestate]
  cases context.state with
  | nil => simp
  | cons entry entries =>
      cases entries with
      | nil => simp [written]
      | cons next others => simp [List.intercalate_cons_cons]

/-! ## Keys -/

theorem isKeyChar_of_mem_part {part : List Char} (isPart : isKeyPart part = true) {character : Char}
    (member : character ∈ part) : isKeyChar character = true := by
  rw [isKeyPart, Bool.and_eq_true] at isPart
  exact List.all_eq_true.mp isPart.2 character member

/-- A key has no other characters than those of its parts, and the at sign. -/
theorem isKeyChar_of_mem {key : String} (isKey : State.isKey key = true) {character : Char}
    (member : character ∈ key.toList) : isKeyChar character = true ∨ character = '@' := by
  rw [State.isKey, Bool.and_eq_true] at isKey
  have parts := isKey.2
  split at parts
  · rename_i part cut
    rw [Text.eq_front_of_cutAt cut] at member
    exact .inl (isKeyChar_of_mem_part parts member)
  · rename_i part system cut
    simp only [Bool.and_eq_true] at parts
    rw [(Text.cutAt_eq_some_iff.mp cut).1, List.mem_append, List.mem_cons] at member
    rcases member with front | rfl | back
    · exact .inl (isKeyChar_of_mem_part parts.1.1.2 front)
    · exact .inr rfl
    · exact .inl (isKeyChar_of_mem_part parts.1.2 back)

namespace IsEntry

variable {entry : String × String}

theorem separators_not_mem_key (isEntry : IsEntry entry) :
    '=' ∉ entry.1.toList ∧ ',' ∉ entry.1.toList := by
  constructor <;>
  · intro member
    exact absurd (isKeyChar_of_mem isEntry.key member) (by decide)

theorem comma_not_mem_value (isEntry : IsEntry entry) : ',' ∉ entry.2.toList := by
  intro member
  have isValue := isEntry.value
  simp only [State.isValue, Bool.and_eq_true, List.all_eq_true] at isValue
  exact absurd (isValue.2 ',' member) (by decide)

theorem comma_not_mem_written (isEntry : IsEntry entry) : ',' ∉ written entry := by
  simp [written, isEntry.separators_not_mem_key.2, isEntry.comma_not_mem_value]

/-- A written entry is read as itself. -/
theorem entryOf?_written (isEntry : IsEntry entry) :
    entryOf? (written entry) = some entry := by
  have cut : Text.cutAt '=' (written entry) = (entry.1.toList, some entry.2.toList) :=
    Text.cutAt_eq_some_iff.mpr ⟨rfl, isEntry.separators_not_mem_key.1⟩
  simp only [entryOf?, cut, String.ofList_toList]

end IsEntry

theorem mapM_entryOf?_written {entries : List (String × String)}
    (areEntries : ∀ entry ∈ entries, IsEntry entry) :
    (entries.map written).mapM entryOf? = some entries := by
  induction entries with
  | nil => rfl
  | cons entry entries inductionHypothesis =>
      rw [List.forall_mem_cons] at areEntries
      simp [areEntries.1.entryOf?_written, inductionHypothesis areEntries.2]

/-- The state of a span is found in what is written for it. -/
theorem read?_tracestate {context : SpanContext} (present : context.state ≠ [])
    (areEntries : ∀ entry ∈ context.state, IsEntry entry) :
    read? context.tracestate = some context.state := by
  have absent : ∀ piece ∈ context.state.map written, ',' ∉ piece := by
    intro piece member
    obtain ⟨entry, among, rfl⟩ := List.mem_map.mp member
    exact (areEntries entry among).comma_not_mem_written
  rw [read?, toList_tracestate, Text.splitOn_intercalate (by simpa using present) absent,
    mapM_entryOf?_written areEntries]

end Trace.State

end GroupFederation
