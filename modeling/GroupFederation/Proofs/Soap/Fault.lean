import GroupFederation.Proofs.Soap.Answer

/-!
# Faults in an answer

A fault is known by its reason alone, which is a text in an element of a certain name. The message
of the older kind of fault has such an element, and is recognized wherever it stands. The newer kind
gives the reason in an element of another name, and a page that a server shows for an error gives
none, so that nothing is found in them.
-/

namespace GroupFederation.Soap

open Xml (Content CharacterData Event)

/-! ## Where a fault is heard -/

namespace Reading

/-- Whether a text that comes next is the reason of a fault: the innermost element has the name for
it, and is no field of an element that has fields. -/
def ExpectsFault (reading : Reading) : Prop :=
  ∃ parent path, reading.path = "faultstring" :: parent :: path ∧
    RecordKind.ofName? parent = none ∧
    (parent = "resultMetadata" → reading.person ≠ none ∨ reading.group ≠ none)

theorem fault_opening (reading : Reading) (name : String) :
    (reading.opening name).results.fault = reading.results.fault := by
  unfold opening
  split <;> rfl

theorem fault_closing (reading : Reading) :
    reading.closing.results.fault = reading.results.fault := by
  unfold closing
  split
  · rfl
  · dsimp only
    split <;> rfl

theorem text_of_expectsFault {reading : Reading} (expects : reading.ExpectsFault)
    (text : String) :
    reading.text text = { reading with results := { reading.results with fault := some text } } := by
  obtain ⟨parent, path, same, noRecord, inRecord⟩ := expects
  have noMetadata : ¬(parent == "resultMetadata" && reading.person.isNone &&
      reading.group.isNone) = true := by
    intro isMetadata
    simp only [Bool.and_eq_true, beq_iff_eq, Option.isNone_iff_eq_none] at isMetadata
    obtain ⟨⟨isMetadata, noPerson⟩, noGroup⟩ := isMetadata
    rcases inRecord isMetadata with person | group
    · exact person noPerson
    · exact group noGroup
  unfold Reading.text
  rw [same]
  dsimp only
  rw [noRecord]
  dsimp only
  rw [if_neg noMetadata, if_pos (beq_self_eq_true _)]

theorem fault_text_of_not_expectsFault {reading : Reading} (silent : ¬reading.ExpectsFault)
    (text : String) : (reading.text text).results.fault = reading.results.fault := by
  unfold Reading.text
  split
  · next field parent path same =>
    split
    · rfl
    · rfl
    · rfl
    · next noRecord =>
      split
      · split <;> rfl
      · next noMetadata =>
        split
        · next isFault =>
          exfalso
          apply silent
          refine ⟨parent, path, by rw [same, beq_iff_eq.mp isFault], noRecord, ?_⟩
          intro isMetadata
          by_contra nothing
          rw [not_or, not_not, not_not] at nothing
          apply noMetadata
          rw [isMetadata, nothing.1, nothing.2]
          rfl
        · rfl
  · rfl

/-- Whether, on the way through some events, there is a text where the reason of a fault is
expected. -/
def TellsFault (reading : Reading) : List Event → Prop
  | [] => False
  | event :: events =>
      ((∃ content, event = .text content) ∧ reading.ExpectsFault) ∨
        ∃ next, reading.step event = some next ∧ next.TellsFault events

theorem fault_step {reading next : Reading} {event : Event} (taken : reading.step event = some next) :
    next.results.fault ≠ none ↔
      reading.results.fault ≠ none ∨ (∃ content, event = .text content) ∧ reading.ExpectsFault := by
  cases event with
  | opened name =>
      obtain rfl : reading.opening name = next := Option.some.inj taken
      simp [fault_opening]
  | closed =>
      obtain rfl : reading.closing = next := Option.some.inj taken
      simp [fault_closing]
  | text content =>
      obtain ⟨characters, -, rfl⟩ := Option.map_eq_some_iff.mp taken
      by_cases expects : reading.ExpectsFault
      · simp [text_of_expectsFault expects, expects]
      · simp [fault_text_of_not_expectsFault expects, expects]

/-- A fault is found exactly if it is told. -/
theorem fault_run {events : List Event} {reading last : Reading}
    (run : events.foldlM step reading = some last) :
    last.results.fault ≠ none ↔ reading.results.fault ≠ none ∨ reading.TellsFault events := by
  induction events generalizing reading with
  | nil =>
      obtain rfl : reading = last := Option.some.inj run
      simp [TellsFault]
  | cons event events inductionHypothesis =>
      rw [List.foldlM_cons] at run
      obtain ⟨next, taken, run⟩ := Option.bind_eq_some_iff.mp run
      rw [inductionHypothesis run, fault_step taken, or_assoc, TellsFault]
      simp [taken]

end Reading

/-! ## Documents with a fault -/

/-- Whether content reports a fault with the reason, and tells nothing else. -/
inductive ReportsFault (reason : String) : Content → Prop
  | here {before : CharacterData} {tag : Xml.Tag} {data : CharacterData} {after : Content}
      (isReason : tag.localName = "faultstring") (writes : data.Writes reason)
      (quiet : IsQuiet after) : ReportsFault reason (.element before tag (.text data) after)
  | inside {before : CharacterData} {tag : Xml.Tag} {inner after : Content}
      (isOther : IsOther tag.localName) (reports : ReportsFault reason inner)
      (quiet : IsQuiet after) : ReportsFault reason (.element before tag inner after)
  | behind {before : CharacterData} {tag : Xml.Tag} {inner after : Content}
      (isOther : IsOther tag.localName) (quiet : IsQuiet inner)
      (reports : ReportsFault reason after) : ReportsFault reason (.element before tag inner after)
  | skipped {before : CharacterData} {aside : Xml.Aside} {after : Content}
      (reports : ReportsFault reason after) : ReportsFault reason (.skipped before aside after)

namespace Stage

theorem text_of_reason (results : Results) {name : String} (plain : IsPlain name)
    (reason : String) (path : List String) :
    ((⟨results, none⟩ : Stage).reading ("faultstring" :: name :: path)).text reason =
      (⟨{ results with fault := some reason }, none⟩ : Stage).reading
        ("faultstring" :: name :: path) := by
  apply Reading.text_of_expectsFault
  exact ⟨name, path, rfl, plain.noRecord, fun isMetadata => absurd isMetadata plain.noMetadata⟩

/-- The reason of a fault is found, and nothing else. -/
theorem walk_of_reportsFault {reason : String} {content : Content}
    (reports : ReportsFault reason content) (results : Results) {name : String}
    {path : List String} (outside : ∀ outer ∈ name :: path, IsOther outer) :
    ((⟨results, none⟩ : Stage).reading (name :: path)).walk content =
      (⟨{ results with fault := some reason }, none⟩ : Stage).reading (name :: path) := by
  have plain := (outside name (.head _)).toIsPlain
  have deaf := isDeaf_of_forall_isOther outside
  induction reports generalizing name path with
  | @here before tag data after isReason writes quiet =>
      have noRecord : RecordKind.ofName? tag.localName = none := by rw [isReason]; rfl
      have told : ((⟨results, none⟩ : Stage).reading (tag.localName :: name :: path)).walk
          (.text data) = (⟨{ results with fault := some reason }, none⟩ : Stage).reading
            (tag.localName :: name :: path) := by
        rw [Reading.walk, Reading.hear_of_writes writes, isReason, text_of_reason results plain]
      rw [walk_element (silent_of_isDeaf _ deaf) noRecord told,
        walk_of_isQuiet quiet _ plain (silent_of_isDeaf _ deaf)]
  | @inside before tag inner after isOther reports quiet inductionHypothesis =>
      have outsideInner := List.forall_mem_cons.mpr ⟨isOther, outside⟩
      have told := inductionHypothesis outsideInner isOther.toIsPlain
        (isDeaf_of_forall_isOther outsideInner)
      rw [walk_element (silent_of_isDeaf _ deaf) isOther.noRecord told,
        walk_of_isQuiet quiet _ plain (silent_of_isDeaf _ deaf)]
  | @behind before tag inner after isOther quiet reports inductionHypothesis =>
      have deafInner := isDeaf_of_forall_isOther (List.forall_mem_cons.mpr ⟨isOther, outside⟩)
      have nothing := walk_of_isQuiet quiet ⟨results, none⟩ isOther.toIsPlain
        (silent_of_isDeaf _ deafInner)
      rw [walk_element (silent_of_isDeaf _ deaf) isOther.noRecord nothing,
        inductionHypothesis outside plain deaf]
  | skipped reports inductionHypothesis =>
      rw [walk_skipped (silent_of_isDeaf _ deaf), inductionHypothesis outside plain deaf]

end Stage

namespace Results

variable {document : Xml.Document}

/-- A document whose element is walked through from one stage to another holds the results of the
latter. -/
theorem read_of_walk {last : Results} (isOther : IsOther document.root.localName)
    (walk : ((⟨{}, none⟩ : Stage).reading [document.root.localName]).walk document.inner =
      (⟨last, none⟩ : Stage).reading [document.root.localName]) :
    read document.written = .ok last := by
  have opened := Stage.opening_of_plain ⟨{}, none⟩ isOther.noRecord []
  have closed := Stage.closing_of_plain ⟨last, none⟩ isOther.noRecord []
  rw [read_written, Reading.walk_document rfl]
  change Except.ok (((((⟨{}, none⟩ : Stage).reading []).opening _).walk _).closing).results = _
  rw [opened, walk, closed]
  rfl

/-- The reason of a fault is read, wherever it is reported. -/
theorem read_of_reportsFault {reason : String} (isOther : IsOther document.root.localName)
    (reports : ReportsFault reason document.inner) :
    read document.written = .ok { fault := some reason } := by
  apply read_of_walk isOther
  exact Stage.walk_of_reportsFault reports {} (List.forall_mem_singleton.mpr isOther)

/-- In a document without a name that means something, nothing is found: no record, no message and
no fault. -/
theorem read_of_isQuiet (isOther : IsOther document.root.localName)
    (quiet : IsQuiet document.inner) : read document.written = .ok {} := by
  apply read_of_walk isOther
  apply Stage.walk_of_isQuiet quiet _ isOther.toIsPlain
  exact Stage.silent_of_isDeaf _ (isDeaf_of_forall_isOther (List.forall_mem_singleton.mpr isOther))

end Results

end GroupFederation.Soap
