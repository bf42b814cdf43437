import GroupFederation.Proofs.Xml.Aside
import GroupFederation.Proofs.Xml.CharacterData

/-!
# Documents and their events

A document is an element, with a declaration and comments in front of it or without them. The
content of an element is text with further elements in it, so that a document is a tree, and its
events are a walk through that tree. What is written of the tree is read as this walk, whatever the
names, attributes, texts and spaces in it are.
-/

namespace GroupFederation.Xml

/-- What stands in an element: a text, behind which there may be an element and more content. -/
inductive Content where
  | text (data : CharacterData)
  | element (before : CharacterData) (tag : Tag) (inner after : Content)
  | skipped (before : CharacterData) (aside : Aside) (after : Content)

namespace Content

def written : Content → List Char
  | .text data => data.written
  | .element before tag inner after =>
      before.written ++ '<' :: (tag.opening ++ '>' :: (inner.written ++
        '<' :: '/' :: (tag.closing ++ '>' :: after.written)))
  | .skipped before aside after => before.written ++ '<' :: (aside.written ++ after.written)

/-- A text as it counts, without the space around it; space alone does not count. -/
def counted (data : CharacterData) : List (List Char) :=
  if data.trimmed.written.isEmpty then [] else [data.trimmed.written]

def pieces : Content → List Piece
  | .text data => (counted data).map .text
  | .element before tag inner after =>
      (counted before).map .text ++
        .opening tag.opening :: (inner.pieces ++ .closing tag.closing :: after.pieces)
  | .skipped before _ after => (counted before).map .text ++ .skipped :: after.pieces

/-- The walk through the content. -/
def events : Content → List Event
  | .text data => (counted data).map .text
  | .element before tag inner after =>
      (counted before).map .text ++
        .opened tag.localName :: (inner.events ++ .closed :: after.events)
  | .skipped before _ after => (counted before).map .text ++ after.events

/-- The number of tags, and of all other markup. -/
def tags : Content → Nat
  | .text _ => 0
  | .element _ _ inner after => inner.tags + after.tags + 2
  | .skipped _ _ after => after.tags + 1

theorem tags_le_length (content : Content) : content.tags ≤ content.written.length := by
  induction content with
  | text data => exact Nat.zero_le _
  | element before tag inner after inInner inAfter =>
      simp only [tags, written, List.length_append, List.length_cons]
      omega
  | skipped before aside after inAfter =>
      simp only [tags, written, List.length_append, List.length_cons]
      omega

end Content

/-! ## Reading pieces -/

/-- A text ends where markup begins or where the document ends. -/
def EndsText (rest : List Char) : Prop :=
  ∀ character ∈ rest.head?, character = '<'

theorem endsText_nil : EndsText [] := by
  simp [EndsText]

theorem endsText_markup (rest : List Char) : EndsText ('<' :: rest) := by
  simp [EndsText]

/-- A text in front of markup. -/
theorem readPieces_text (data : CharacterData) {rest : List Char} (ends : EndsText rest)
    (bound : Nat) :
    readPieces (bound + 1) (data.written ++ rest) =
      (readPieces (bound + 1) rest).map ((Content.counted data).map .text ++ ·) := by
  have inText : ∀ character ∈ data.written, (character != '<') = true := by
    intro character member
    simpa using fun same : character = '<' => data.bracket_not_mem_written (same ▸ member)
  have front : rest.takeWhile (· != '<') = [] := by
    cases rest with
    | nil => rfl
    | cons first rest => exact List.takeWhile_cons_of_neg (by simp [ends first rfl])
  have back : rest.dropWhile (· != '<') = rest := by
    cases rest with
    | nil => rfl
    | cons first rest => exact List.dropWhile_cons_of_neg (by simp [ends first rfl])
  have pieces : (if data.trimmed.written.isEmpty then [] else [Piece.text data.trimmed.written]) =
      (Content.counted data).map .text := by
    rw [Content.counted]
    split <;> rfl
  rw [readPieces, readPieces, List.takeWhile_append_of_pos inText,
    List.dropWhile_append_of_pos inText, front, back, List.append_nil, data.trimmed_written]
  simp only [pieces]
  cases rest with
  | nil => simp [trimmed]
  | cons first rest =>
      cases markup : readMarkup rest with
      | none => simp [markup]
      | some found => simp [markup, trimmed, Function.comp_def]

/-- Markup and what follows it. -/
theorem readPieces_markup {source rest : List Char} {piece : Piece}
    (markup : readMarkup source = some (piece, rest)) (bound : Nat) :
    readPieces (bound + 1) ('<' :: source) = (readPieces bound rest).map (piece :: ·) := by
  rw [readPieces]
  simp [markup, trimmed]

/-- The content of an element is read as its pieces, up to where it ends. -/
theorem readPieces_written (content : Content) {rest : List Char} (ends : EndsText rest)
    (bound : Nat) :
    readPieces (content.tags + (bound + 1)) (content.written ++ rest) =
      (readPieces (bound + 1) rest).map (content.pieces ++ ·) := by
  induction content generalizing rest bound with
  | text data =>
      rw [Content.tags, Nat.zero_add]
      exact readPieces_text data ends bound
  | element before tag inner after inInner inAfter =>
      have enough : (Content.element before tag inner after).tags + (bound + 1) =
          inner.tags + (after.tags + (bound + 1) + 1) + 1 := by
        simp only [Content.tags]
        omega
      rw [enough, Content.written]
      simp only [List.append_assoc, List.cons_append]
      rw [readPieces_text before (endsText_markup _),
        readPieces_markup (tag.readMarkup_opening _), inInner (endsText_markup _),
        readPieces_markup (tag.readMarkup_closing _), inAfter ends]
      simp [Content.pieces, Function.comp_def]
  | skipped before aside after inAfter =>
      have enough : (Content.skipped before aside after).tags + (bound + 1) =
          after.tags + (bound + 1) + 1 := by
        simp only [Content.tags]
        omega
      rw [enough, Content.written]
      simp only [List.append_assoc, List.cons_append]
      rw [readPieces_text before (endsText_markup _),
        readPieces_markup (aside.readMarkup_written _), inAfter ends]
      simp [Content.pieces, Function.comp_def]

/-! ## Events of pieces -/

/-- The pieces of the content of an element give its events, whatever is open around it. -/
theorem eventsOf_pieces (content : Content) (opened : List (List Char)) (behind : List Piece) :
    eventsOf opened (content.pieces ++ behind) =
      (eventsOf opened behind).map (content.events ++ ·) := by
  have texts (data : CharacterData) (opened : List (List Char)) (behind : List Piece) :
      eventsOf opened ((Content.counted data).map .text ++ behind) =
        (eventsOf opened behind).map ((Content.counted data).map .text ++ ·) := by
    rw [Content.counted]
    split
    · simp
    · rfl
  induction content generalizing opened behind with
  | text data => exact texts data opened behind
  | element before tag inner after inInner inAfter =>
      rw [Content.pieces, List.append_assoc, texts, List.cons_append, eventsOf, tag.tagName_opening,
        List.append_assoc, inInner, List.cons_append, eventsOf, tag.dropEndWhile_closing,
        if_pos rfl, inAfter, QualifiedName.localName_written]
      simp [Content.events, Tag.localName, Function.comp_def]
  | skipped before aside after inAfter =>
      rw [Content.pieces, List.append_assoc, texts, List.cons_append, eventsOf, inAfter]
      simp [Content.events, Function.comp_def]

/-! ## Content on its own -/

/-- A text that does not begin with a byte order mark is read from its beginning. -/
theorem withoutMark_of_head? {source : List Char} (unmarked : source.head? ≠ some '\ufeff') :
    Text.Utf8.withoutMark source = source := by
  unfold Text.Utf8.withoutMark
  split
  · exact absurd rfl unmarked
  · rfl

/-- Whatever content consists of, reading it is the walk through it. -/
theorem Content.readEvents?_written (content : Content)
    (whole : Text.Utf8.withoutMark content.written = content.written) :
    readEvents? (String.ofList content.written) = some content.events := by
  obtain ⟨bound, enough⟩ := Nat.exists_eq_add_of_le content.tags_le_length
  have pieces : readPieces (content.written.length + 1) content.written = some content.pieces := by
    have read := readPieces_written content endsText_nil bound
    rw [List.append_nil] at read
    rw [enough, Nat.add_assoc, read, readPieces]
    simp [trimmed]
  have events : eventsOf [] content.pieces = some content.events := by
    have read := eventsOf_pieces content [] []
    rw [List.append_nil] at read
    rw [read, eventsOf]
    simp
  rw [readEvents?, String.toList_ofList, whole]
  simp only [pieces, Option.bind_some, events]

/-! ## Documents -/

/-- Space as the text that it is. -/
def Blank.letters (space : Blank) : CharacterData :=
  space.characters.pmap Letter.plain fun character member => by
    have isSpace := space.all_isSpace character member
    constructor
    · rintro rfl
      exact absurd isSpace (by decide)
    · rintro rfl
      exact absurd isSpace (by decide)

theorem Blank.written_letters (space : Blank) : space.letters.written = space.characters := by
  have general {characters : List Char} (plain : ∀ character ∈ characters,
      character ≠ '<' ∧ character ≠ '&') :
      CharacterData.written (characters.pmap Letter.plain plain) = characters := by
    induction characters with
    | nil => rfl
    | cons character characters inductionHypothesis =>
        exact congrArg (character :: ·)
          (inductionHypothesis fun other member => plain other (List.mem_cons_of_mem _ member))
  exact general _

/-- An element, with space around it and markup that is passed over in front of it. -/
structure Document where
  front : List (Blank × Aside) := []
  before : Blank := .none
  root : Tag
  inner : Content
  behind : Blank := .none

namespace Document

/-- A document as content. -/
def content (document : Document) : Content :=
  document.front.foldr (fun (space, aside) content => .skipped space.letters aside content)
    (.element document.before.letters document.root document.inner (.text document.behind.letters))

/-- The text of a document. -/
def written (document : Document) : String :=
  String.ofList document.content.written

/-- A document does not begin with a byte order mark. -/
theorem withoutMark_written (document : Document) :
    Text.Utf8.withoutMark document.content.written = document.content.written := by
  have keeps (space : Blank) (rest : List Char) :
      Text.Utf8.withoutMark (space.letters.written ++ '<' :: rest) =
        space.letters.written ++ '<' :: rest := by
    rw [space.written_letters]
    unfold Text.Utf8.withoutMark
    split
    · next same =>
      cases written : space.characters with
      | nil =>
          rw [written] at same
          exact absurd (List.cons.inj same).1 (by decide)
      | cons character characters =>
          have isSpace := space.all_isSpace character (by rw [written]; exact .head _)
          rw [written] at same
          rw [(List.cons.inj same).1] at isSpace
          exact absurd isSpace (by decide)
    · rfl
  unfold content
  cases document.front with
  | nil => exact keeps document.before _
  | cons entry entries => exact keeps entry.1 _

/-- Whatever a document consists of, reading it is the walk through its tree. -/
theorem readEvents?_written (document : Document) :
    readEvents? document.written = some document.content.events :=
  document.content.readEvents?_written document.withoutMark_written

end Document

end GroupFederation.Xml
