import GroupFederation.Proofs.Xml.Document
import GroupFederation.Soap.Results

/-!
# Reading as a walk

An answer is read event by event. For a document this is a walk through its tree, which always comes
to its end, so that what an answer holds can be said by recursion on the tree.
-/

namespace GroupFederation.Soap

open Xml (Content CharacterData)

namespace Reading

/-- Hear a text, unless there is nothing but space in it. -/
def hear (reading : Reading) (data : CharacterData) : Reading :=
  if data.trimmed.written.isEmpty then reading
  else reading.text (String.ofList data.trimmed.meaning)

/-- Walk through content. -/
def walk (reading : Reading) : Content → Reading
  | .text data => reading.hear data
  | .element before tag inner after =>
      ((((reading.hear before).opening tag.localName).walk inner).closing).walk after
  | .skipped before _ after => (reading.hear before).walk after

theorem foldlM_counted (reading : Reading) (data : CharacterData) :
    ((Content.counted data).map Xml.Event.text).foldlM step reading =
      some (reading.hear data) := by
  rw [Content.counted, hear]
  split
  · rfl
  · simp [step, data.trimmed.unescape?_written]

/-- The events of content lead where the walk does. -/
theorem foldlM_events (content : Content) (reading : Reading) :
    content.events.foldlM step reading = some (reading.walk content) := by
  induction content generalizing reading with
  | text data => exact foldlM_counted reading data
  | element before tag inner after inInner inAfter =>
      simp only [Content.events, List.foldlM_append, List.foldlM_cons, foldlM_counted, step,
        inInner, inAfter, Option.bind_eq_bind, Option.bind_some]
      rfl
  | skipped before aside after inAfter =>
      simp only [Content.events, List.foldlM_append, foldlM_counted, inAfter, Option.bind_eq_bind,
        Option.bind_some]
      rfl

/-- A value is heard as it is, however it is written. -/
theorem hear_of_writes {data : CharacterData} {value : String} (writes : data.Writes value)
    (reading : Reading) : reading.hear data = reading.text value := by
  rw [hear, writes.trimmed_eq, writes.meaning_eq, String.ofList_toList, if_neg]
  intro isEmpty
  apply writes.ne_nil
  exact data.written_eq_nil_iff.mp (List.isEmpty_iff.mp isEmpty)

/-! ### The open elements -/

theorem path_opening (reading : Reading) (name : String) :
    (reading.opening name).path = name :: reading.path := by
  unfold opening
  split <;> rfl

theorem path_closing (reading : Reading) : reading.closing.path = reading.path.tail := by
  unfold closing
  split
  · next same => rw [same]; rfl
  · next name path same =>
    rw [same]
    dsimp only
    split <;> rfl

theorem path_text (reading : Reading) (text : String) :
    (reading.text text).path = reading.path := by
  unfold Reading.text
  split
  · split
    · rfl
    · rfl
    · rfl
    · split
      · split <;> rfl
      · split <;> rfl
  · rfl

theorem path_hear (reading : Reading) (data : CharacterData) :
    (reading.hear data).path = reading.path := by
  unfold hear
  split
  · rfl
  · exact reading.path_text _

/-- Behind some content the same elements are open as in front of it. -/
theorem path_walk (content : Content) (reading : Reading) :
    (reading.walk content).path = reading.path := by
  induction content generalizing reading with
  | text data => exact reading.path_hear data
  | element before tag inner after inInner inAfter =>
      rw [walk, inAfter, path_closing, inInner, path_opening, List.tail_cons, path_hear]
  | skipped before aside after inAfter => rw [walk, inAfter, path_hear]

/-- No text counts outside of all elements. -/
theorem hear_of_path_eq_nil {reading : Reading} (top : reading.path = []) (data : CharacterData) :
    reading.hear data = reading := by
  unfold hear
  split
  · rfl
  · unfold Reading.text
    rw [top]

/-- The walk through a document goes through its element. -/
theorem walk_document {reading : Reading} (top : reading.path = []) (document : Xml.Document) :
    reading.walk document.content =
      ((reading.opening document.root.localName).walk document.inner).closing := by
  unfold Xml.Document.content
  induction document.front with
  | nil =>
      have closed : (((reading.opening document.root.localName).walk document.inner).closing).path =
          [] := by
        rw [path_closing, path_walk, path_opening, List.tail_cons, top]
      rw [List.foldr_nil, walk, hear_of_path_eq_nil top, walk, hear_of_path_eq_nil closed]
  | cons entry front inductionHypothesis =>
      rw [List.foldr_cons, walk, hear_of_path_eq_nil top, inductionHypothesis]

end Reading

namespace Results

/-- Content holds what the walk through it finds. -/
theorem read_content (content : Content)
    (whole : Text.Utf8.withoutMark content.written = content.written) :
    read (String.ofList content.written) = .ok (({} : Reading).walk content).results := by
  rw [read, content.readEvents?_written whole, Option.bind_some, ofEvents?, Reading.foldlM_events]
  rfl

/-- Every document is read, and holds what the walk through it finds. -/
theorem read_written (document : Xml.Document) :
    read document.written = .ok (({} : Reading).walk document.content).results :=
  read_content document.content document.withoutMark_written

end Results

end GroupFederation.Soap
