import GroupFederation.Proofs.Soap.Rendering
import GroupFederation.Proofs.Soap.Walk
import GroupFederation.Proofs.Xml.Beginning

/-!
# Answers that are cut off

Reading an answer stops where the text stops, and takes what has been found up to there. Whether it
can be read depends on its markup, its references and the ends of its elements, but not on what is
left open: records whose elements have been closed are taken for all there are, and a text without
an element for an answer without records. Only if the text is cut off within markup or within a
reference, this is an error.
-/

namespace GroupFederation.Soap

open Xml (Aside Beginning CharacterData Content EndsText Fragment Tag)

namespace Reading

/-! ## Reading on -/

/-- Read the rest of an answer, within elements that are open. -/
def readOn (bound : Nat) (opened : List (List Char)) (reading : Reading) (source : List Char) :
    Option Reading :=
  ((Xml.readPieces bound source).bind (Xml.eventsOf opened)).bind (·.foldlM step reading)

/-- Content in front of the rest. -/
theorem readOn_content (content : Content) {rest : List Char} (ends : EndsText rest) (bound : Nat)
    (opened : List (List Char)) (reading : Reading) :
    readOn (content.tags + (bound + 1)) opened reading (content.written ++ rest) =
      readOn (bound + 1) opened (reading.walk content) rest := by
  rw [readOn, readOn, Xml.readPieces_written content ends]
  cases Xml.readPieces (bound + 1) rest with
  | none => rfl
  | some pieces =>
      rw [Option.map_some, Option.bind_some, Option.bind_some, Xml.eventsOf_pieces]
      cases Xml.eventsOf opened pieces with
      | none => rfl
      | some events =>
          rw [Option.map_some, Option.bind_some, Option.bind_some, List.foldlM_append,
            foldlM_events]
          rfl

theorem readOn_text (data : CharacterData) {rest : List Char} (ends : EndsText rest) (bound : Nat)
    (opened : List (List Char)) (reading : Reading) :
    readOn (bound + 1) opened reading (data.written ++ rest) =
      readOn (bound + 1) opened (reading.hear data) rest := by
  have read := readOn_content (.text data) ends bound opened reading
  rw [Content.tags, Nat.zero_add] at read
  exact read

theorem readOn_opening (tag : Tag) (rest : List Char) (bound : Nat) (opened : List (List Char))
    (reading : Reading) :
    readOn (bound + 1) opened reading ('<' :: (tag.opening ++ '>' :: rest)) =
      readOn bound (tag.name.written :: opened) (reading.opening tag.localName) rest := by
  rw [readOn, readOn, Xml.readPieces_markup (tag.readMarkup_opening rest)]
  cases Xml.readPieces bound rest with
  | none => rfl
  | some pieces =>
      rw [Option.map_some, Option.bind_some, Option.bind_some, Xml.eventsOf, tag.tagName_opening,
        Xml.QualifiedName.localName_written]
      cases Xml.eventsOf (tag.name.written :: opened) pieces with
      | none => rfl
      | some events => rfl

theorem readOn_closing (tag : Tag) (rest : List Char) (bound : Nat) (opened : List (List Char))
    (reading : Reading) :
    readOn (bound + 1) (tag.name.written :: opened) reading
        ('<' :: '/' :: (tag.closing ++ '>' :: rest)) =
      readOn bound opened reading.closing rest := by
  rw [readOn, readOn, Xml.readPieces_markup (tag.readMarkup_closing rest)]
  cases Xml.readPieces bound rest with
  | none => rfl
  | some pieces =>
      rw [Option.map_some, Option.bind_some, Option.bind_some, Xml.eventsOf,
        tag.dropEndWhile_closing, if_pos rfl]
      cases Xml.eventsOf opened pieces with
      | none => rfl
      | some events => rfl

theorem readOn_aside (aside : Aside) (rest : List Char) (bound : Nat) (opened : List (List Char))
    (reading : Reading) :
    readOn (bound + 1) opened reading ('<' :: (aside.written ++ rest)) =
      readOn bound opened reading rest := by
  rw [readOn, readOn, Xml.readPieces_markup (aside.readMarkup_written rest)]
  cases Xml.readPieces bound rest with
  | none => rfl
  | some pieces => rfl

/-- Nothing is read if a fragment is left. -/
theorem readOn_fragment (data : CharacterData) (fragment : Fragment) (bound : Nat)
    (opened : List (List Char)) (reading : Reading) :
    readOn (bound + 1) opened reading (data.written ++ fragment.written) = none := by
  cases fragment with
  | reference name unended =>
      have noMarkup := Xml.takeWhile_of_not_mem (Xml.bracket_not_mem_of_isClosed data unended)
      have broken := Xml.unescape?_trimmed_of_isClosed data unended
      have filled : (Xml.trimmed (data.written ++ '&' :: name)).isEmpty = false := by
        rw [Bool.eq_false_iff]
        intro nothing
        rw [List.isEmpty_iff.mp nothing] at broken
        cases broken
      rw [Fragment.written, readOn, Xml.readPieces, noMarkup.1, noMarkup.2]
      simp [filled, Xml.eventsOf, step, broken]
  | markup text unended =>
      rw [Fragment.written, readOn_text data (Xml.endsText_markup _), readOn, Xml.readPieces]
      simp [unended]

/-- The events of pieces can be taken in exactly if the pieces are well nested. -/
theorem isSome_bind_eventsOf (pieces : List Xml.Piece) (opened : List (List Char))
    (reading : Reading) :
    ((Xml.eventsOf opened pieces).bind (·.foldlM step reading)).isSome =
      (pieces.foldlM Xml.Piece.nest opened).isSome := by
  induction pieces generalizing opened reading with
  | nil => rfl
  | cons piece pieces inductionHypothesis =>
      cases piece with
      | text content =>
          have inside := inductionHypothesis opened
          simp only [Xml.eventsOf, Option.bind_map, Function.comp_def, List.foldlM_cons, step,
            Xml.Piece.nest]
          cases Xml.unescape? content with
          | none => simp
          | some characters => exact inside _
      | opening content =>
          have inside := inductionHypothesis (Xml.tagName content :: opened)
          simp only [Xml.eventsOf, Option.bind_map, Function.comp_def, List.foldlM_cons, step,
            Xml.Piece.nest]
          exact inside _
      | closing content =>
          simp only [Xml.eventsOf, List.foldlM_cons, Xml.Piece.nest, Xml.Sign.nest]
          cases opened with
          | nil => rfl
          | cons last outer =>
              have inside := inductionHypothesis outer
              dsimp only
              split
              · simp only [Option.bind_map, Function.comp_def, List.foldlM_cons, step]
                exact inside _
              · rfl
      | skipped => exact inductionHypothesis opened reading

/-! ## Beginnings -/

/-- Walk through the beginning of an answer, unless a fragment is left at its end. -/
def follow (reading : Reading) : Beginning → Option Reading
  | .text data none => some (reading.hear data)
  | .text _ (some _) => none
  | .element before tag inner after =>
      ((((reading.hear before).opening tag.localName).walk inner).closing).follow after
  | .skipped before _ after => (reading.hear before).follow after
  | .inside before tag inner => ((reading.hear before).opening tag.localName).follow inner

theorem readOn_written (beginning : Beginning) (bound : Nat) (opened : List (List Char))
    (reading : Reading) :
    readOn (beginning.tags + (bound + 1)) opened reading beginning.written =
      reading.follow beginning := by
  induction beginning generalizing bound opened reading with
  | text data fragment =>
      rw [Beginning.tags, Nat.zero_add, Beginning.written]
      cases fragment with
      | none =>
          rw [Option.elim_none, readOn_text data Xml.endsText_nil, readOn, Xml.readPieces]
          rfl
      | some fragment => exact readOn_fragment data fragment bound opened reading
  | element before tag inner after inAfter =>
      have enough : (Beginning.element before tag inner after).tags + (bound + 1) =
          inner.tags + (after.tags + (bound + 1) + 1) + 1 := by
        simp only [Beginning.tags]
        omega
      rw [enough, Beginning.written, readOn_text before (Xml.endsText_markup _), readOn_opening,
        readOn_content inner (Xml.endsText_markup _), readOn_closing, inAfter]
      rfl
  | skipped before aside after inAfter =>
      have enough : (Beginning.skipped before aside after).tags + (bound + 1) =
          after.tags + (bound + 1) + 1 := by
        simp only [Beginning.tags]
        omega
      rw [enough, Beginning.written, readOn_text before (Xml.endsText_markup _), readOn_aside,
        inAfter]
      rfl
  | inside before tag inner inInner =>
      have enough : (Beginning.inside before tag inner).tags + (bound + 1) =
          inner.tags + (bound + 1) + 1 := by
        simp only [Beginning.tags]
        omega
      rw [enough, Beginning.written, readOn_text before (Xml.endsText_markup _), readOn_opening,
        inInner]
      rfl

end Reading

namespace Results

/-- The beginning of an answer holds what has been found where it ends. -/
theorem read_beginning (beginning : Beginning)
    (unmarked : beginning.written.head? ≠ some '\ufeff') :
    (Xml.readEvents? (String.ofList beginning.written)).bind ofEvents? =
      (({} : Reading).follow beginning).map Reading.results := by
  obtain ⟨bound, enough⟩ := Nat.exists_eq_add_of_le beginning.tags_le_length
  have read := Reading.readOn_written beginning bound [] {}
  rw [← Nat.add_assoc, ← enough] at read
  rw [Xml.readEvents?, String.toList_ofList, Xml.withoutMark_of_head? unmarked, ← read,
    Reading.readOn]
  simp only [Option.map_bind]
  rfl

/-- A text can be read exactly if it is well nested, whatever elements are open at its end. -/
theorem exists_read_eq_ok_iff (body : String) :
    (∃ results, read body = .ok results) ↔ ∃ opened, Xml.leftOpen? body = some opened := by
  have pieces := Xml.bind_nest_readPieces ((Text.Utf8.withoutMark body.toList).length + 1)
    (Text.Utf8.withoutMark body.toList) []
  rw [Xml.leftOpen?, Xml.signs?, ← Option.isSome_iff_exists, ← pieces, read, Xml.readEvents?]
  cases Xml.readPieces ((Text.Utf8.withoutMark body.toList).length + 1)
      (Text.Utf8.withoutMark body.toList) with
  | none => simp
  | some pieces =>
      have same := Reading.isSome_bind_eventsOf pieces [] {}
      rw [Option.bind_some, Option.bind_some, ← same]
      cases Xml.eventsOf [] pieces with
      | none => simp
      | some events =>
          rw [Option.bind_some, Option.bind_some, ofEvents?]
          cases events.foldlM Reading.step {} with
          | none => simp
          | some reading => simp

/-- Whether an answer is taken: it is read, and neither a fault nor a failure is found in it. -/
def IsTaken (body : String) : Prop :=
  ∃ results, (read body).bind checked = .ok results

theorem isTaken_iff (body : String) :
    IsTaken body ↔
      ∃ results, read body = .ok results ∧ ∃ accepted, results.checked = .ok accepted := by
  rw [IsTaken]
  cases read body with
  | error failure => simp [Except.bind]
  | ok results => simp [Except.bind]

/-- An answer with a fault or a failure is not taken. -/
theorem not_isTaken_of_checked_eq_error {body : String} {results : Results}
    {failure : Provider.Failure} (found : read body = .ok results)
    (refused : results.checked = .error failure) : ¬IsTaken body := by
  intro taken
  obtain ⟨others, foundAgain, accepted, checked⟩ := (isTaken_iff body).mp taken
  rw [found] at foundAgain
  rw [← Except.ok.inj foundAgain, refused] at checked
  cases checked

theorem isTaken_written_iff (beginning : Beginning)
    (unmarked : beginning.written.head? ≠ some '\ufeff') :
    IsTaken (String.ofList beginning.written) ↔
      ∃ reading, ({} : Reading).follow beginning = some reading ∧
        ∃ results, reading.results.checked = .ok results := by
  rw [IsTaken, read, read_beginning beginning unmarked]
  cases ({} : Reading).follow beginning with
  | none => simp [Except.bind]
  | some reading => simp [Except.bind]

/-- A text is taken only if it is finished, unless it is well nested as far as it goes, with an
element open at its end or none in it, and reports neither a fault nor a failure. So what is left of
an answer is taken, wherever it is cut off, but within markup and within a reference, unless a fault
or a failure is reported in front of that place. -/
theorem taken_only_if_finished_iff (body : String) :
    ((IsTaken body → Xml.isFinished body = true) ↔
      Xml.isFinished body = true ∨ Xml.leftOpen? body = none ∨
        ∃ results failure, read body = .ok results ∧ results.checked = .error failure) ∧
    ∀ content : Content, content.written.head? ≠ some '\ufeff' →
      body.toList <+: content.written →
      (IsTaken body ↔
        ∃ beginning reading, beginning.written = body.toList ∧
          ({} : Reading).follow beginning = some reading ∧
          ∃ accepted, reading.results.checked = .ok accepted) := by
  constructor
  · constructor
    · intro onlyFinished
      cases left : Xml.leftOpen? body with
      | none => exact .inr (.inl rfl)
      | some opened =>
          obtain ⟨results, found⟩ := (exists_read_eq_ok_iff body).mpr ⟨opened, left⟩
          cases accepted : results.checked with
          | error failure => exact .inr (.inr ⟨results, failure, found, accepted⟩)
          | ok _ => exact .inl (onlyFinished ((isTaken_iff body).mpr ⟨results, found, _, accepted⟩))
    · rintro (finished | misnested | ⟨results, failure, found, refused⟩) taken
      · exact finished
      · obtain ⟨results, found, -⟩ := (isTaken_iff body).mp taken
        obtain ⟨opened, left⟩ := (exists_read_eq_ok_iff body).mp ⟨results, found⟩
        rw [misnested] at left
        cases left
      · exact absurd taken (not_isTaken_of_checked_eq_error found refused)
  · intro content unmarked begins
    have unmarkedFront : body.toList.head? ≠ some '\ufeff' := by
      obtain ⟨further, same⟩ := begins
      intro marked
      apply unmarked
      rw [← same, List.head?_append, marked]
      rfl
    constructor
    · intro taken
      obtain ⟨beginning, written⟩ := Content.exists_beginning begins
      rw [← written] at unmarkedFront
      rw [← String.ofList_toList (s := body), ← written] at taken
      obtain ⟨reading, followed, accepted⟩ := (isTaken_written_iff beginning unmarkedFront).mp taken
      exact ⟨beginning, reading, written, followed, accepted⟩
    · rintro ⟨beginning, reading, written, followed, accepted⟩
      rw [← written] at unmarkedFront
      rw [← String.ofList_toList (s := body), ← written]
      exact (isTaken_written_iff beginning unmarkedFront).mpr ⟨reading, followed, accepted⟩

/-- An answer with two groups that is cut off at the beginning of the second one. -/
theorem taken_only_if_finished_iff_firstGroup :
    ∃ content : Content,
      String.ofList content.written =
        "<a><wsGroups><name>lab</name></wsGroups><wsGroups><name>pub</name></wsGroups></a>" ∧
      content.written.head? ≠ some '\ufeff' ∧
      "<a><wsGroups><name>lab</name></wsGroups><wsGroups>".toList <+: content.written ∧
      IsTaken "<a><wsGroups><name>lab</name></wsGroups><wsGroups>" ∧
      ¬(IsTaken "<a><wsGroups><name>lab</name></wsGroups><wsGroups>" →
        Xml.isFinished "<a><wsGroups><name>lab</name></wsGroups><wsGroups>" = true) := by
  let group (name : String) (after : Content) : Content :=
    .element [] (.named (.ofText "wsGroups")) (simpleField "name" name (.text [])) after
  let content : Content :=
    .element [] (.named (.ofText "a")) (group "lab" (group "pub" (.text []))) (.text [])
  let beginning : Beginning :=
    .inside [] (.named (.ofText "a"))
      (.element [] (.named (.ofText "wsGroups")) (simpleField "name" "lab" (.text []))
        (.inside [] (.named (.ofText "wsGroups")) (.text [] none)))
  have unmarked : content.written.head? ≠ some '\ufeff' := by decide
  have begins : "<a><wsGroups><name>lab</name></wsGroups><wsGroups>".toList <+:
      content.written := by
    decide
  obtain ⟨onlyFinished, cut⟩ :=
    taken_only_if_finished_iff "<a><wsGroups><name>lab</name></wsGroups><wsGroups>"
  have taken := (cut content unmarked begins).mpr ⟨beginning, _, by decide, rfl, _, rfl⟩
  refine ⟨content, by decide, unmarked, begins, taken, fun claimed => ?_⟩
  rcases onlyFinished.mp claimed with finished | misnested | ⟨results, failure, found, refused⟩
  · exact absurd finished (by decide)
  · exact absurd misnested (by decide)
  · exact not_isTaken_of_checked_eq_error found refused taken

/-- What is taken: an answer with two groups that is cut off in the second one, an answer that is
cut off in the first one, no answer at all, and a text that is none. -/
theorem incomplete_answer_taken :
    ((Xml.isFinished "<a><wsGroups><name>lab</name></wsGroups><wsGroups><name>pu" = false ∧
        ((read "<a><wsGroups><name>lab</name></wsGroups><wsGroups><name>pu").bind
          checked).toOption = some { groups := [{ name := "lab" }] }) ∧
      Xml.isFinished "<a><wsGroups><name>lab</name>" = false ∧
        ((read "<a><wsGroups><name>lab</name>").bind checked).toOption = some {}) ∧
      (Xml.isFinished "" = false ∧ ((read "").bind checked).toOption = some {}) ∧
      Xml.isFinished "Service unavailable" = false ∧
        ((read "Service unavailable").bind checked).toOption = some {} := by
  decide +kernel

end Results

end GroupFederation.Soap
