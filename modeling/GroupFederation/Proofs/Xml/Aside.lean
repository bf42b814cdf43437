import GroupFederation.Proofs.Xml.Tag

/-!
# Markup that is passed over

Reading passes over comments, sections of literal text, instructions, such as the declaration in
front of a document, and elements that are closed in the tag that opens them. Each of them ends
where its closing mark occurs for the first time, so that everything but this mark may stand in it.
-/

namespace GroupFederation.Xml

/-- A text behind which a mark is found where it was put, and not before. -/
def EndsAt (mark text : List Char) : Prop :=
  ∀ count < text.length, ¬ mark <+: (text ++ mark).drop count

instance (mark text : List Char) : Decidable (EndsAt mark text) :=
  inferInstanceAs (Decidable (∀ count < text.length, ¬ mark <+: (text ++ mark).drop count))

namespace EndsAt

variable {mark : List Char} {character : Char} {text : List Char}

/-- The mark does not begin in front of its place, whatever follows. -/
theorem not_isPrefixOf (ends : EndsAt mark (character :: text)) (rest : List Char) :
    mark.isPrefixOf (character :: (text ++ (mark ++ rest))) = false := by
  apply Bool.eq_false_iff.mpr
  intro begins
  apply ends 0 (Nat.zero_lt_succ _)
  apply List.prefix_of_prefix_length_le (List.isPrefixOf_iff_prefix.mp begins)
  · exact ⟨rest, by simp⟩
  · simp only [List.drop_zero, List.length_append]
    omega

theorem tail (ends : EndsAt mark (character :: text)) : EndsAt mark text := by
  intro count inside
  exact ends (count + 1) (Nat.succ_lt_succ inside)

/-- What follows the mark is found. -/
theorem skipPast_eq (ends : EndsAt mark text) (filled : mark ≠ []) (rest : List Char) :
    skipPast mark (text ++ (mark ++ rest)) = some rest := by
  induction text with
  | nil =>
      obtain ⟨first, others, rfl⟩ := List.exists_cons_of_ne_nil filled
      simp [skipPast]
  | cons character text inductionHypothesis =>
      rw [List.cons_append, skipPast, ends.not_isPrefixOf, if_neg Bool.false_ne_true]
      exact inductionHypothesis ends.tail

end EndsAt

/-- Markup that gives no event. -/
inductive Aside where
  | comment (text : List Char) (ends : EndsAt ['-', '-', '>'] text)
  /-- A section of literal text. -/
  | literal (text : List Char) (ends : EndsAt [']', ']', '>'] text)
  | instruction (text : List Char) (begins : text.head? ≠ some '>') (ends : EndsAt ['?', '>'] text)
  /-- An element without content, in one tag. -/
  | empty (tag : Tag)

namespace Aside

/-- What stands behind the opening bracket. -/
def written : Aside → List Char
  | .comment text _ => '!' :: '-' :: '-' :: (text ++ ['-', '-', '>'])
  | .literal text _ => '!' :: '[' :: ("CDATA[".toList ++ (text ++ [']', ']', '>']))
  | .instruction text _ _ => '?' :: (text ++ ['?', '>'])
  | .empty tag => tag.opening ++ ['/', '>']

/-- Each kind of such markup is read up to its end. -/
theorem readMarkup_written (aside : Aside) (rest : List Char) :
    readMarkup (aside.written ++ rest) = some (.skipped, rest) := by
  cases aside with
  | comment text ends =>
      have skipped := ends.skipPast_eq (by decide) rest
      simpa [written, readMarkup, skipDeclaration] using skipped
  | literal text ends =>
      have skipped := ends.skipPast_eq (by decide) rest
      simpa [written, readMarkup, skipDeclaration, beginsWith] using skipped
  | instruction text begins ends =>
      have skipped := ends.skipPast_eq (by decide) rest
      have instruction : skipInstruction (text ++ ['?', '>'] ++ rest) = some rest := by
        unfold skipInstruction
        split
        · next same =>
          cases text with
          | nil => cases same
          | cons character text => exact absurd (congrArg some (List.cons.inj same).1) begins
        · rw [List.append_assoc]
          exact skipped
      simp only [written, List.cons_append, readMarkup, instruction, Option.map_some]
  | empty tag =>
      rw [written, List.append_assoc]
      exact tag.readMarkup_empty rest

end Aside

end GroupFederation.Xml
