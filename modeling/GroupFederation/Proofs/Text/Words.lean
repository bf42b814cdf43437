import GroupFederation.Proofs.Text.Trimming

/-!
# The words of a text

A text is made of words and of gaps before, between and behind them. A gap is blank, a word is not
empty and nowhere blank, and between two words there is a gap that is not empty. There is only one
way to see a text so, and the words of this way are the words of the text.
-/

namespace GroupFederation.Text

/-- A text that is one word. -/
structure IsWord (text : String) : Prop where
  notEmpty : text ≠ ""
  visible : ∀ character ∈ text.toList, isBlank character = false

/-- The characters are these words in their order, with blank characters around them; behind a word
is the end or a blank character. -/
inductive AreWordsOf : List String → List Char → Prop where
  | nil {gap : List Char} (blank : IsBlank gap) : AreWordsOf [] gap
  | cons {gap rest : List Char} {word : String} {words : List String} (blank : IsBlank gap)
      (isWord : IsWord word) (apart : KeepsStart (fun character => !isBlank character) rest)
      (behind : AreWordsOf words rest) : AreWordsOf (word :: words) (gap ++ word.toList ++ rest)

namespace AreWordsOf

variable {words : List String} {characters gap : List Char}

/-- Blank characters at the start are part of the first gap. -/
theorem append_left (blank : IsBlank gap) (areWords : AreWordsOf words characters) :
    AreWordsOf words (gap ++ characters) := by
  cases areWords with
  | nil restBlank => exact .nil (List.forall_mem_append.mpr ⟨blank, restBlank⟩)
  | cons restBlank isWord apart behind =>
      rw [← List.append_assoc, ← List.append_assoc]
      exact .cons (List.forall_mem_append.mpr ⟨blank, restBlank⟩) isWord apart behind

end AreWordsOf

/-- Words found so far, and the characters of a word in front of them. -/
abbrev Partition := List Char × List String

namespace Partition

/-- The words when nothing more is in front. -/
def finish (partition : Partition) : List String :=
  if partition.1.isEmpty then partition.2 else String.ofList partition.1 :: partition.2

/-- One more character in front. -/
def extend (character : Char) (partition : Partition) : Partition :=
  if isBlank character then ([], partition.finish) else (character :: partition.1, partition.2)

/-- The partition of characters. -/
def ofList (characters : List Char) : Partition :=
  characters.foldr extend ([], [])

theorem ofList_cons (character : Char) (characters : List Char) :
    ofList (character :: characters) = (ofList characters).extend character := by
  rw [ofList, ofList, List.foldr_cons]

end Partition

theorem words_eq_finish (text : String) : words text = (Partition.ofList text.toList).finish := rfl

namespace Partition

variable {words : List String} {characters : List Char}

/-- No word is begun where no visible character is. -/
theorem fst_ofList_of_keepsStart
    (apart : KeepsStart (fun character => !isBlank character) characters) :
    (ofList characters).1 = [] := by
  cases characters with
  | nil => rfl
  | cons first rest =>
      have blank := apart first rfl
      rw [Bool.not_eq_false'] at blank
      rw [ofList_cons, extend, if_pos blank]

theorem ofList_append_visible {word : List Char}
    (visible : ∀ character ∈ word, isBlank character = false) :
    ofList (word ++ characters) = (word ++ (ofList characters).1, (ofList characters).2) := by
  induction word with
  | nil => rfl
  | cons first rest inductionHypothesis =>
      obtain ⟨firstVisible, restVisible⟩ := List.forall_mem_cons.mp visible
      rw [List.cons_append, ofList_cons, inductionHypothesis restVisible, extend,
        if_neg (by simp [firstVisible]), List.cons_append]

theorem finish_ofList_append_blank {gap : List Char} (blank : IsBlank gap) :
    (ofList (gap ++ characters)).finish = (ofList characters).finish := by
  induction gap with
  | nil => rfl
  | cons first rest inductionHypothesis =>
      obtain ⟨firstBlank, restBlank⟩ := List.forall_mem_cons.mp blank
      rw [List.cons_append, ofList_cons, extend, if_pos firstBlank]
      exact inductionHypothesis restBlank

theorem finish_ofList_of_areWordsOf (areWords : AreWordsOf words characters) :
    (ofList characters).finish = words := by
  induction areWords with
  | @nil gap blank =>
      rw [← List.append_nil gap, finish_ofList_append_blank blank]
      rfl
  | @cons gap rest word words blank isWord apart behind inductionHypothesis =>
      have begun : ofList rest = ([], words) := by
        have none := fst_ofList_of_keepsStart apart
        rw [finish, none] at inductionHypothesis
        exact Prod.ext none inductionHypothesis
      have filled : word.toList.isEmpty = false := by
        simpa using isWord.notEmpty
      rw [List.append_assoc, finish_ofList_append_blank blank,
        ofList_append_visible isWord.visible, begun, finish]
      simp [filled]

/-- The characters are a word that is begun, and the words behind it. -/
structure Divides (partition : Partition) (characters rest : List Char) : Prop where
  whole : characters = partition.1 ++ rest
  visible : ∀ character ∈ partition.1, isBlank character = false
  apart : KeepsStart (fun character => !isBlank character) rest
  behind : AreWordsOf partition.2 rest

variable {partition : Partition} {rest : List Char}

theorem Divides.finish (divides : partition.Divides characters rest) :
    AreWordsOf partition.finish characters := by
  rw [Partition.finish, divides.whole]
  split_ifs with none
  · rw [List.isEmpty_iff.mp none]
    exact divides.behind
  · have isWord : IsWord (String.ofList partition.1) :=
      ⟨by simpa using none, by simpa using divides.visible⟩
    have areWords : AreWordsOf (String.ofList partition.1 :: partition.2)
        ([] ++ (String.ofList partition.1).toList ++ rest) :=
      .cons (by simp [IsBlank]) isWord divides.apart divides.behind
    simpa using areWords

theorem Divides.extend (divides : partition.Divides characters rest) (character : Char) :
    ∃ rest, (partition.extend character).Divides (character :: characters) rest := by
  rw [Partition.extend]
  split_ifs with blank
  · have gap : IsBlank [character] := by simpa [IsBlank] using blank
    exact ⟨character :: characters, rfl, by simp, by simp [KeepsStart, blank],
      divides.finish.append_left gap⟩
  · rw [Bool.not_eq_true] at blank
    exact ⟨rest, by rw [divides.whole, List.cons_append],
      List.forall_mem_cons.mpr ⟨blank, divides.visible⟩, divides.apart, divides.behind⟩

theorem exists_divides (characters : List Char) :
    ∃ rest, (ofList characters).Divides characters rest := by
  induction characters with
  | nil => exact ⟨[], rfl, by simp [ofList], by simp [KeepsStart], .nil (by simp [IsBlank])⟩
  | cons character characters inductionHypothesis =>
      obtain ⟨rest, divides⟩ := inductionHypothesis
      exact divides.extend character

end Partition

/-- The words of a text are those that it is made of. -/
theorem words_eq_iff {text : String} {found : List String} :
    words text = found ↔ AreWordsOf found text.toList := by
  rw [words_eq_finish]
  constructor
  · rintro rfl
    obtain ⟨rest, divides⟩ := Partition.exists_divides text.toList
    exact divides.finish
  · exact Partition.finish_ofList_of_areWordsOf

end GroupFederation.Text
