import GroupFederation.Proofs.Xml.Tree

/-!
# Texts in several parts

The text of an element may be written in parts: characters and references, and sections of literal
text, with comments and instructions between them. What it says is what its parts say one after the
other. The space around a text does not count, so that parts of nothing but space make no difference
at either end of it.
-/

namespace GroupFederation.Xml

/-! ## Space at the ends -/

theorem trimmed_eq_nil_iff {text : List Char} : trimmed text = [] ↔ text.all isSpace = true := by
  have noneLeft (text : List Char) : text.dropWhile isSpace = [] ↔ text.all isSpace = true := by
    rw [List.dropWhile_eq_nil_iff, List.all_eq_true]
  rw [trimmed, Text.dropEndWhile, List.reverse_eq_nil_iff, noneLeft, List.all_reverse]
  constructor
  · intro rest
    rw [← noneLeft]
    by_contra left
    -- what is left in front begins with a character that is no space
    have begins := List.head_dropWhile_not isSpace left
    rw [List.all_eq_true.mp rest _ (List.head_mem left)] at begins
    cases begins
  · intro blank
    rw [(noneLeft text).mpr blank, List.all_nil]

/-- Space in front of a text does not count. -/
theorem trimmed_append_of_blank_front {space : List Char} (blank : space.all isSpace = true)
    (text : List Char) : trimmed (space ++ text) = trimmed text := by
  rw [trimmed, trimmed, List.dropWhile_append_of_pos (List.all_eq_true.mp blank)]

/-- Space behind a text does not count. -/
theorem trimmed_append_of_blank_end {space : List Char} (blank : space.all isSpace = true)
    (text : List Char) : trimmed (text ++ space) = trimmed text := by
  have dropped (front : List Char) :
      Text.dropEndWhile isSpace (front ++ space) = Text.dropEndWhile isSpace front := by
    rw [Text.dropEndWhile, Text.dropEndWhile, List.reverse_append, List.dropWhile_append_of_pos]
    intro character member
    exact List.all_eq_true.mp blank character (List.mem_reverse.mp member)
  cases left : text.dropWhile isSpace with
  | nil =>
      have blankText : text.all isSpace = true :=
        List.all_eq_true.mpr (List.dropWhile_eq_nil_iff.mp left)
      rw [trimmed_append_of_blank_front blankText, trimmed_eq_nil_iff.mpr blank,
        trimmed_eq_nil_iff.mpr blankText]
  | cons first rest =>
      rw [trimmed, trimmed, List.dropWhile_append, left, if_neg (by simp), dropped]

/-- Whether the space around a text does not count however it is written: no space stands at the
ends of it that is written as a reference. -/
def CharacterData.TrimsAlike (data : CharacterData) : Prop :=
  data.trimmed.meaning = Xml.trimmed data.meaning

instance (data : CharacterData) : Decidable data.TrimsAlike :=
  inferInstanceAs (Decidable (_ = _))

/-! ## Parts -/

/-- A part of a text. -/
inductive Part where
  | text (data : CharacterData)
  /-- A section of literal text. -/
  | literal (text : List Char)

namespace Part

/-- What a part says. -/
def meaning : Part → List Char
  | .text data => data.meaning
  | .literal characters => characters

/-- Whether there is nothing but space. -/
def isBlank (part : Part) : Bool :=
  part.meaning.all isSpace

/-- Literal text has no references. -/
def TrimsAlike : Part → Prop
  | .text data => data.TrimsAlike
  | .literal _ => True

instance (part : Part) : Decidable part.TrimsAlike :=
  match part with
  | .text data => inferInstanceAs (Decidable data.TrimsAlike)
  | .literal _ => .isTrue trivial

end Part

/-- A text in parts. -/
abbrev Passage := List Part

namespace Passage

/-- What the parts say together. -/
def meaning (passage : Passage) : List Char :=
  passage.flatMap Part.meaning

@[simp] theorem meaning_nil : meaning [] = [] := rfl

@[simp] theorem meaning_cons (part : Part) (passage : Passage) :
    meaning (part :: passage) = part.meaning ++ meaning passage := rfl

@[simp] theorem meaning_append (former latter : Passage) :
    meaning (former ++ latter) = meaning former ++ meaning latter :=
  List.flatMap_append

/-- The parts that are more than space. -/
def filled (passage : Passage) : Passage :=
  passage.filter (!·.isBlank)

/-- Whether there is one part at most, and no literal text. -/
def isSingle : Passage → Bool
  | [] | [.text _] => true
  | _ => false

theorem isSingle_cons_iff {part : Part} {passage : Passage} :
    isSingle (part :: passage) = true ↔ passage = [] ∧ ∃ data, part = .text data := by
  cases part <;> cases passage <;> simp [isSingle]

/-- Whether a text is written in one part that is no literal text, as far as it is more than
space. -/
structure IsWhole (passage : Passage) : Prop where
  trimsAlike : ∀ part ∈ passage, part.TrimsAlike
  single : passage.filled.isSingle = true

instance (passage : Passage) : Decidable passage.IsWhole :=
  decidable_of_iff ((∀ part ∈ passage, part.TrimsAlike) ∧ passage.filled.isSingle = true)
    ⟨fun both => ⟨both.1, both.2⟩, fun whole => ⟨whole.trimsAlike, whole.single⟩⟩

/-- Nothing but space is said exactly by parts that are nothing but space. -/
theorem filled_eq_nil_iff {passage : Passage} :
    passage.filled = [] ↔ passage.meaning.all isSpace = true := by
  rw [filled, List.filter_eq_nil_iff, meaning, List.all_flatMap, List.all_eq_true]
  exact forall₂_congr fun part _ => by simp [Part.isBlank]

end Passage

end GroupFederation.Xml
