import GroupFederation.Text.Blank
import Mathlib.Data.List.TakeWhile

/-!
# What trimming leaves

Dropping characters from an end leaves what does not end in such a character, and it drops nothing
but these. Both facts together say what is left: it is known as soon as the text is split into a
part that keeps its ends and parts of what is dropped. So the trimmed text is the part between two
blank ones that neither begins nor ends in a blank character.
-/

namespace GroupFederation.Text

/-- The characters do not end in one that is dropped. -/
def KeepsEnd (drop : Char → Bool) (characters : List Char) : Prop :=
  ∀ last, characters.getLast? = some last → drop last = false

/-- The characters do not begin in one that is dropped. -/
def KeepsStart (drop : Char → Bool) (characters : List Char) : Prop :=
  ∀ first, characters.head? = some first → drop first = false

section Dropping

variable {drop : Char → Bool} {characters kept : List Char}

theorem dropWhile_eq_iff :
    characters.dropWhile drop = kept ↔ KeepsStart drop kept ∧
      ∃ front, (∀ character ∈ front, drop character = true) ∧ characters = front ++ kept := by
  constructor
  · rintro rfl
    refine ⟨fun first begins => ?_, characters.takeWhile drop,
      fun character => List.mem_takeWhile_imp, List.takeWhile_append_dropWhile.symm⟩
    have stops := List.head?_dropWhile_not drop characters
    rw [begins] at stops
    simpa using stops
  · rintro ⟨starts, front, dropped, rfl⟩
    rw [List.dropWhile_append_of_pos dropped]
    cases kept with
    | nil => rfl
    | cons first rest => exact List.dropWhile_cons_of_neg (by simp [starts first rfl])

theorem dropEndWhile_eq_iff :
    dropEndWhile drop characters = kept ↔ KeepsEnd drop kept ∧
      ∃ back, (∀ character ∈ back, drop character = true) ∧ characters = kept ++ back := by
  rw [dropEndWhile, List.reverse_eq_iff, dropWhile_eq_iff]
  simp only [KeepsStart, KeepsEnd, List.head?_reverse]
  refine and_congr_right fun _ => ?_
  constructor
  · rintro ⟨front, dropped, split⟩
    refine ⟨front.reverse, by simpa using dropped, ?_⟩
    rw [← List.reverse_inj]
    simpa using split
  · rintro ⟨back, dropped, rfl⟩
    exact ⟨back.reverse, by simpa using dropped, List.reverse_append⟩

/-- What is not dropped at the end of characters that keep their start keeps its start. -/
theorem KeepsStart.of_append {back : List Char} (starts : KeepsStart drop (kept ++ back)) :
    KeepsStart drop kept := by
  intro first begins
  exact starts first (by rw [List.head?_append, begins]; rfl)

end Dropping

/-- Nothing but blank characters. -/
def IsBlank (characters : List Char) : Prop :=
  ∀ character ∈ characters, isBlank character = true

theorem isBlankText_iff {text : String} : isBlankText text = true ↔ IsBlank text.toList :=
  List.all_eq_true

/-- Blank characters are of neither case. -/
theorem toLower_of_isBlank {character : Char} (blank : isBlank character = true) :
    character.toLower = character := by
  refine dif_neg fun upper => ?_
  have first : 'A'.val.toNat = 65 := rfl
  have last : 'Z'.val.toNat = 90 := rfl
  simp only [ge_iff_le, UInt32.le_iff_toNat_le] at upper
  simp only [isBlank, Char.toNat, Bool.or_eq_true, Bool.and_eq_true, decide_eq_true_eq,
    beq_iff_eq] at blank
  omega

/-- A text without blank characters at its ends. -/
structure IsTrimmed (text : String) : Prop where
  keepsStart : KeepsStart isBlank text.toList
  keepsEnd : KeepsEnd isBlank text.toList

/-- The trimmed text is what is between two blank parts and has none at its ends. -/
theorem trim_eq_iff {text core : String} :
    trim text = core ↔ IsTrimmed core ∧
      ∃ front back, IsBlank front ∧ IsBlank back ∧ text.toList = front ++ core.toList ++ back := by
  rw [trim, ← String.toList_inj, String.toList_ofList, dropEndWhile_eq_iff]
  constructor
  · rintro ⟨ends, back, backBlank, split⟩
    obtain ⟨starts, front, frontBlank, whole⟩ := dropWhile_eq_iff.mp split
    exact ⟨⟨starts.of_append, ends⟩, front, back, frontBlank, backBlank,
      by rw [whole, List.append_assoc]⟩
  · rintro ⟨⟨starts, ends⟩, front, back, frontBlank, backBlank, whole⟩
    cases rest : core.toList with
    | nil =>
        refine ⟨by simp [KeepsEnd], [], by simp, ?_⟩
        rw [whole, rest, List.append_nil, List.nil_append, List.dropWhile_eq_nil_iff]
        exact List.forall_mem_append.mpr ⟨frontBlank, backBlank⟩
    | cons first others =>
        refine ⟨rest ▸ ends, back, backBlank, dropWhile_eq_iff.mpr ⟨?_, front, frontBlank, ?_⟩⟩
        · intro begins same
          obtain rfl : first = begins := Option.some.inj same
          exact starts first (by rw [rest]; rfl)
        · rw [whole, rest, List.append_assoc]

theorem trim_eq_empty_iff {text : String} : trim text = "" ↔ isBlankText text = true := by
  rw [trim_eq_iff, isBlankText_iff]
  constructor
  · rintro ⟨-, front, back, frontBlank, backBlank, whole⟩
    rw [whole, String.toList_empty, List.append_nil]
    exact List.forall_mem_append.mpr ⟨frontBlank, backBlank⟩
  · intro blank
    exact ⟨⟨by simp [KeepsStart], by simp [KeepsEnd]⟩, text.toList, [], blank, by simp [IsBlank],
      by simp⟩

/-- A text has no blank characters if it has none in lower case. -/
theorem isBlank_of_mem_lower {text : String} (visible : ∀ character ∈ (lower text).toList,
    isBlank character = false) {character : Char} (member : character ∈ text.toList) :
    isBlank character = false := by
  by_contra blank
  rw [Bool.not_eq_false] at blank
  have kept : character ∈ (lower text).toList := by
    rw [lower, String.toList_ofList, List.mem_map]
    exact ⟨character, member, toLower_of_isBlank blank⟩
  rw [visible character kept] at blank
  cases blank

/-- A text without blank characters is trimmed. -/
theorem IsTrimmed.of_visible {text : String}
    (visible : ∀ character ∈ text.toList, isBlank character = false) : IsTrimmed text :=
  ⟨fun first begins => visible first (List.mem_of_head? begins),
    fun last ends => visible last (List.mem_of_getLast? ends)⟩

end GroupFederation.Text
