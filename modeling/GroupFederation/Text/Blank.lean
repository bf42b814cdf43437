/-!
# Blank characters and trimming

Names, roles, addresses and scopes arrive with stray space around them. What counts as space is the
Unicode property `White_Space`; letter case is folded for the letters `A` to `Z` only. Trimming
removes a longest run of blank characters at each end, and the words of a text are its maximal
runs of other characters.
-/

namespace GroupFederation.Text

/-- The characters with the Unicode property `White_Space`. -/
def isBlank (character : Char) : Bool :=
  let code := character.toNat
  (0x09 ≤ code && code ≤ 0x0D) || code == 0x20 || code == 0x85 || code == 0xA0 ||
    code == 0x1680 || (0x2000 ≤ code && code ≤ 0x200A) || code == 0x2028 || code == 0x2029 ||
    code == 0x202F || code == 0x205F || code == 0x3000

/-- Drop the longest run at the end whose characters all satisfy `drop`. -/
def dropEndWhile (drop : Char → Bool) (characters : List Char) : List Char :=
  (characters.reverse.dropWhile drop).reverse

@[simp] theorem dropEndWhile_nil (drop : Char → Bool) : dropEndWhile drop [] = [] := rfl

theorem dropEndWhile_append_singleton (drop : Char → Bool) (characters : List Char)
    (last : Char) :
    dropEndWhile drop (characters ++ [last]) =
      if drop last then dropEndWhile drop characters else characters ++ [last] := by
  simp only [dropEndWhile, List.reverse_append, List.reverse_cons, List.reverse_nil,
    List.nil_append, List.singleton_append, List.dropWhile_cons]
  split <;> simp

/-- What is dropped at the end. -/
theorem exists_append_dropEndWhile (drop : Char → Bool) (characters : List Char) :
    ∃ dropped, (∀ character ∈ dropped, drop character = true) ∧
      characters = dropEndWhile drop characters ++ dropped := by
  refine ⟨(characters.reverse.takeWhile drop).reverse, fun character member => ?_, ?_⟩
  · exact List.all_eq_true.mp List.all_takeWhile character (List.mem_reverse.mp member)
  · rw [dropEndWhile, ← List.reverse_append, List.takeWhile_append_dropWhile,
      List.reverse_reverse]

/-- Drop blank characters from the front. -/
def trimStart (text : String) : String :=
  String.ofList (text.toList.dropWhile isBlank)

/-- Drop blank characters from both ends. -/
def trim (text : String) : String :=
  String.ofList (dropEndWhile isBlank (text.toList.dropWhile isBlank))

/-- Whether nothing but blank characters is there. -/
def isBlankText (text : String) : Bool :=
  text.toList.all isBlank

/-- Fold the letters `A` to `Z` to lower case and leave every other character alone. -/
def lower (text : String) : String :=
  String.ofList (text.toList.map Char.toLower)

/-- Cut after the longest run of characters that differ from `separator`; the second part starts
behind that separator and is missing when there is none. -/
def cutAt (separator : Char) (characters : List Char) : List Char × Option (List Char) :=
  (characters.takeWhile (· != separator),
    match characters.dropWhile (· != separator) with
    | [] => none
    | _ :: rest => some rest)

/-- A cut is made at the first separator. -/
theorem cutAt_eq_some_iff {separator : Char} {characters front back : List Char} :
    cutAt separator characters = (front, some back) ↔
      characters = front ++ separator :: back ∧ separator ∉ front := by
  constructor
  · intro cut
    obtain ⟨taken, dropped⟩ := Prod.mk.inj cut
    have whole := List.takeWhile_append_dropWhile (p := (· != separator)) (l := characters)
    cases remains : characters.dropWhile (· != separator) with
    | nil => simp [remains] at dropped
    | cons first rest =>
        have stops : first = separator := by
          have head := List.head?_dropWhile_not (· != separator) characters
          simpa [remains] using head
        simp only [remains, Option.some.injEq] at dropped
        refine ⟨?_, ?_⟩
        · rw [← whole, taken, remains, stops, dropped]
        · intro member
          have differ := List.all_eq_true.mp (List.all_takeWhile (p := (· != separator))) separator
            (taken ▸ member)
          simp at differ
  · rintro ⟨rfl, absent⟩
    have passes : ∀ character ∈ front, (character != separator) = true := by
      intro character member
      simpa using fun same : character = separator => absent (same ▸ member)
    simp [cutAt, List.takeWhile_append_of_pos passes, List.dropWhile_append_of_pos passes]

/-- The maximal runs of non-blank characters, in order. -/
def words (text : String) : List String :=
  let finish (word : List Char) (found : List String) : List String :=
    if word.isEmpty then found else String.ofList word :: found
  let (word, found) := text.toList.foldr
    (fun character (word, found) =>
      if isBlank character then ([], finish word found) else (character :: word, found))
    ([], [])
  finish word found

/-- The pieces between occurrences of `separator`: always at least one, each possibly empty. -/
def splitOn (separator : Char) : List Char → List (List Char)
  | [] => [[]]
  | character :: rest =>
      if character = separator then [] :: splitOn separator rest
      else match splitOn separator rest with
        | [] => [[character]]
        | piece :: pieces => (character :: piece) :: pieces

theorem splitOn_ne_nil (separator : Char) (characters : List Char) :
    splitOn separator characters ≠ [] := by
  cases characters with
  | nil => simp [splitOn]
  | cons character rest =>
      simp only [splitOn]
      split
      · simp
      · split <;> simp

/-- Nothing but the separators is lost between the pieces. -/
theorem intercalate_splitOn (separator : Char) (characters : List Char) :
    [separator].intercalate (splitOn separator characters) = characters := by
  induction characters with
  | nil => rfl
  | cons character rest inductionHypothesis =>
      simp only [splitOn]
      cases pieces : splitOn separator rest with
      | nil => exact absurd pieces (splitOn_ne_nil separator rest)
      | cons piece others =>
          rw [pieces] at inductionHypothesis
          split
          · rename_i same
            simp [List.intercalate_cons_cons, inductionHypothesis, same]
          · cases others with
            | nil => simpa using inductionHypothesis
            | cons other others =>
                rw [List.intercalate_cons_cons] at inductionHypothesis ⊢
                simp [← inductionHypothesis]

theorem splitOn_of_not_mem {separator : Char} {piece : List Char} (absent : separator ∉ piece) :
    splitOn separator piece = [piece] := by
  induction piece with
  | nil => rfl
  | cons character rest inductionHypothesis =>
      rw [List.mem_cons, not_or] at absent
      rw [splitOn, if_neg (Ne.symm absent.1), inductionHypothesis absent.2]

/-- The first piece ends at the first separator. -/
theorem splitOn_append {separator : Char} {piece : List Char} (absent : separator ∉ piece)
    (rest : List Char) :
    splitOn separator (piece ++ separator :: rest) = piece :: splitOn separator rest := by
  induction piece with
  | nil => simp [splitOn]
  | cons character piece inductionHypothesis =>
      rw [List.mem_cons, not_or] at absent
      rw [List.cons_append, splitOn, if_neg (Ne.symm absent.1), inductionHypothesis absent.2]

/-- Whether `part` occurs in `characters`. -/
def occursIn (part : List Char) : List Char → Bool
  | [] => part.isEmpty
  | character :: rest => part.isPrefixOf (character :: rest) || occursIn part rest

end GroupFederation.Text
