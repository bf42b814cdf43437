import GroupFederation.Proofs.Soap.Stage
import GroupFederation.Proofs.Xml.Passage

/-!
# Texts that count

A text counts in a field of a record or of what is known about the call, and as the reason of a
fault. If it is written in several parts, each part is heard on its own: literal text is passed
over, and of several other parts the last one is kept. So a text that is written in one part that is
no literal text is heard as it is.
-/

namespace GroupFederation.Soap

open Xml (CharacterData Part Passage)

/-- Whether a text within these open elements may count. -/
def counts : List String → Bool
  | field :: parent :: _ =>
      match RecordKind.ofName? parent with
      | some kind => (BlockKind.record kind).fieldNames.contains field
      | none =>
          field == "faultstring" ||
            (parent == "resultMetadata" && BlockKind.metadata.fieldNames.contains field)
  | _ => false

namespace Reading

/-- A text that does not count leaves everything as it is. -/
theorem text_of_not_counts {reading : Reading} (silent : counts reading.path = false)
    (text : String) : reading.text text = reading := by
  unfold Reading.text
  split
  · next field parent path same =>
    rw [same, counts] at silent
    cases ofName : RecordKind.ofName? parent with
    | some kind =>
        rw [ofName] at silent
        have unknown : field ∉ (BlockKind.record kind).fieldNames := by
          simpa using silent
        cases kind with
        | group =>
            have stays (record : GroupRecord) : record.set field text = record :=
              Record.group.inj (@Record.set_of_not_mem (.group record) field unknown text)
            simp [stays]
        | membership =>
            have stays (record : MembershipRecord) : record.set field text = record :=
              Record.membership.inj (@Record.set_of_not_mem (.membership record) field unknown text)
            simp [stays]
        | person =>
            have stays (record : PersonRecord) : record.set field text = record :=
              Record.person.inj (@Record.set_of_not_mem (.person record) field unknown text)
            simp [stays]
    | none =>
        rw [ofName] at silent
        obtain ⟨noFault, noMetadata⟩ := Bool.or_eq_false_iff.mp silent
        dsimp only
        split
        · next isMetadata =>
          simp only [Bool.and_eq_true] at isMetadata
          simp only [isMetadata.1.1, BlockKind.fieldNames, Bool.true_and] at noMetadata
          split <;> simp_all
        · simp [noFault]
  · rfl

/-! ## Hearing a text part by part -/

/-- Note a text as a whole, unless there is nothing but space in it. -/
def note (reading : Reading) (text : List Char) : Reading :=
  if (Xml.trimmed text).isEmpty then reading
  else reading.text (String.ofList (Xml.trimmed text))

/-- Hear one part of a text. -/
def hearPart (reading : Reading) : Part → Reading
  | .text data => reading.hear data
  | .literal _ => reading

/-- Hear the parts of a text. -/
def hearAll (reading : Reading) (passage : Passage) : Reading :=
  passage.foldl hearPart reading

theorem hearAll_append (reading : Reading) (former latter : Passage) :
    reading.hearAll (former ++ latter) = (reading.hearAll former).hearAll latter :=
  List.foldl_append

theorem note_of_blank (reading : Reading) {text : List Char} (blank : text.all Xml.isSpace = true) :
    reading.note text = reading := by
  rw [note, Xml.trimmed_eq_nil_iff.mpr blank]
  rfl

theorem path_note (reading : Reading) (text : List Char) :
    (reading.note text).path = reading.path := by
  unfold note
  split
  · rfl
  · exact reading.path_text _

theorem hear_of_trimsAlike {data : CharacterData} (alike : data.TrimsAlike) (reading : Reading) :
    reading.hear data = reading.note data.meaning := by
  have written : data.trimmed.written.isEmpty = data.trimmed.meaning.isEmpty := by
    rw [Bool.eq_iff_iff, List.isEmpty_iff, List.isEmpty_iff, CharacterData.written_eq_nil_iff,
      CharacterData.meaning, List.map_eq_nil_iff]
  rw [hear, note, written, ← show data.trimmed.meaning = _ from alike]

theorem hearPart_of_blank {part : Part} (alike : part.TrimsAlike) (blank : part.isBlank = true)
    (reading : Reading) : reading.hearPart part = reading := by
  cases part with
  | text data => exact (hear_of_trimsAlike alike reading).trans (note_of_blank _ blank)
  | literal characters => rfl

variable {passage : Passage}

theorem hearAll_of_blank (alike : ∀ part ∈ passage, part.TrimsAlike)
    (blank : passage.filled = []) (reading : Reading) : reading.hearAll passage = reading := by
  have parts := List.filter_eq_nil_iff.mp blank
  clear blank
  induction passage with
  | nil => rfl
  | cons part passage inductionHypothesis =>
      have first : reading.hearPart part = reading :=
        hearPart_of_blank (alike part (.head _)) (by simpa using parts part (.head _)) reading
      rw [hearAll, List.foldl_cons, first]
      apply inductionHypothesis
      · exact fun other member => alike other (.tail _ member)
      · exact fun other member => parts other (.tail _ member)

/-- A text in one part is heard as it is. -/
theorem hearAll_eq_note (whole : passage.IsWhole) (reading : Reading) :
    reading.hearAll passage = reading.note passage.meaning := by
  obtain ⟨alike, single⟩ := whole
  induction passage with
  | nil => rfl
  | cons part passage inductionHypothesis =>
      obtain ⟨alikeFirst, alikeRest⟩ := List.forall_mem_cons.mp alike
      rw [hearAll, List.foldl_cons, Passage.meaning_cons]
      cases blank : part.isBlank with
      | true =>
          have rest : Passage.filled (part :: passage) = Passage.filled passage :=
            List.filter_cons_of_neg (by simp [blank])
          have same : reading.note (part.meaning ++ Passage.meaning passage) =
              reading.note (Passage.meaning passage) := by
            simp only [note, Xml.trimmed_append_of_blank_front blank]
          rw [rest] at single
          rw [same, hearPart_of_blank alikeFirst blank]
          exact inductionHypothesis alikeRest single
      | false =>
          have rest : Passage.filled (part :: passage) = part :: Passage.filled passage :=
            List.filter_cons_of_pos (by simp [blank])
          rw [rest, Passage.isSingle_cons_iff] at single
          obtain ⟨blankRest, data, rfl⟩ := single
          have same : reading.note (data.meaning ++ Passage.meaning passage) =
              reading.note data.meaning := by
            simp only [note,
              Xml.trimmed_append_of_blank_end (Passage.filled_eq_nil_iff.mp blankRest)]
          exact (hearAll_of_blank alikeRest blankRest _).trans
            ((hear_of_trimsAlike alikeFirst reading).trans same.symm)

end Reading

end GroupFederation.Soap
