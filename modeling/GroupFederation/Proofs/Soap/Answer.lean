import GroupFederation.Proofs.Soap.Stage
import Mathlib.Data.List.Nodup

/-!
# Answers are read back

Between two entries nothing is open but elements without a meaning, and within an entry the fields
that have been read are kept until its element closes. So an answer that is written in any of the
ways in which it may be written is read as what it tells, and nothing of one entry gets into another
one.
-/

namespace GroupFederation.Soap

open Xml (Content CharacterData)

/-! ## Walking through content -/

namespace Stage

theorem silent_of_isDeaf (stage : Stage) {path : List String} (deaf : IsDeaf path) :
    ∀ text, (stage.reading path).text text = stage.reading path := by
  intro text
  apply Reading.text_of_isDeaf
  rw [path_reading]
  exact deaf

/-- An element that holds no record changes the stage as its content does. -/
theorem walk_element {stage changed : Stage} {path : List String}
    (silent : ∀ text, (stage.reading path).text text = stage.reading path) {tag : Xml.Tag}
    (noRecord : RecordKind.ofName? tag.localName = none) {inner : Content}
    (inside : (stage.reading (tag.localName :: path)).walk inner =
      changed.reading (tag.localName :: path)) (before : CharacterData) (after : Content) :
    (stage.reading path).walk (.element before tag inner after) =
      (changed.reading path).walk after := by
  rw [Reading.walk, Reading.hear_of_silent silent, stage.opening_of_plain noRecord, inside,
    changed.closing_of_plain noRecord]

theorem walk_skipped {stage : Stage} {path : List String}
    (silent : ∀ text, (stage.reading path).text text = stage.reading path)
    (before : CharacterData) (aside : Xml.Aside) (after : Content) :
    (stage.reading path).walk (.skipped before aside after) = (stage.reading path).walk after := by
  rw [Reading.walk, Reading.hear_of_silent silent]

/-- Where no name means anything, nothing happens. -/
theorem walk_of_isQuiet {content : Content} (quiet : IsQuiet content) (stage : Stage)
    {name : String} {path : List String} (plain : IsPlain name)
    (silent : ∀ text, (stage.reading (name :: path)).text text = stage.reading (name :: path)) :
    (stage.reading (name :: path)).walk content = stage.reading (name :: path) := by
  induction content generalizing name path with
  | text data => exact Reading.hear_of_silent silent data
  | element before tag inner after inInner inAfter =>
      obtain ⟨isOther, quietInner, quietAfter⟩ := quiet
      have deaf : IsDeaf (tag.localName :: name :: path) := ⟨isOther.noFault, plain⟩
      have inside := inInner quietInner isOther.toIsPlain (stage.silent_of_isDeaf deaf)
      rw [walk_element silent isOther.noRecord inside, inAfter quietAfter plain silent]
  | skipped before aside after inAfter => rw [walk_skipped silent, inAfter quiet plain silent]

end Stage

theorem BlockKind.isOther_of_mem_fieldNames {block : BlockKind} {name : String}
    (known : name ∈ block.fieldNames) : IsOther name := by
  have all : ∀ block : BlockKind, ∀ name ∈ block.fieldNames,
      RecordKind.ofName? name = none ∧ name ≠ "resultMetadata" ∧ name ≠ "faultstring" := by
    intro block
    rcases block with (_ | _ | _) | _ <;> decide
  obtain ⟨noRecord, noMetadata, noFault⟩ := all block name known
  exact ⟨⟨noRecord, noMetadata⟩, noFault⟩

theorem BlockKind.IsName.noFault {block : BlockKind} {name : String} (isName : block.IsName name) :
    name ≠ "faultstring" := by
  rintro rfl
  cases block with
  | record kind => cases isName
  | metadata =>
      have same : "faultstring" = "resultMetadata" := isName
      exact absurd same (by decide)

/-- In the element of an entry its fields are taken, in the order in which they are written. -/
theorem Stage.walk_of_writesFields {block : BlockKind} {fields : List (String × String)}
    {content : Content} (writes : WritesFields block fields content) {stage : Stage}
    (same : stage.block = block) {name : String} (isName : block.IsName name)
    {path : List String} (deaf : IsDeaf (name :: path)) :
    (stage.reading (name :: path)).walk content =
      (fields.foldl take stage).reading (name :: path) := by
  induction writes generalizing stage with
  | text data => exact Reading.hear_of_silent (stage.silent_of_isDeaf deaf) data
  | @field before tag data value after fields known writes others inductionHypothesis =>
      have noRecord := (BlockKind.isOther_of_mem_fieldNames known).noRecord
      have taken : (stage.reading (tag.localName :: name :: path)).walk (.text data) =
          (stage.take (tag.localName, value)).reading (tag.localName :: name :: path) := by
        rw [Reading.walk, Reading.hear_of_writes writes, text_of_isName (same ▸ isName)]
      rw [walk_element (stage.silent_of_isDeaf deaf) noRecord taken,
        inductionHypothesis ((stage.block_take _).trans same), List.foldl_cons]
  | @other before tag inner after fields plain unknown quiet others inductionHypothesis =>
      have silent : ∀ text, (stage.reading (tag.localName :: name :: path)).text text =
          stage.reading (tag.localName :: name :: path) := by
        intro text
        rw [text_of_isName (same ▸ isName), take_of_not_mem (same ▸ unknown)]
      rw [walk_element (stage.silent_of_isDeaf deaf) plain.noRecord
        (walk_of_isQuiet quiet stage plain silent), inductionHypothesis same]
  | skipped others inductionHypothesis =>
      rw [walk_skipped (stage.silent_of_isDeaf deaf), inductionHypothesis same]

/-! ## Entries -/

/-- The stage at the beginning of an entry. -/
def Entry.empty (results : Results) : Entry → Stage
  | .found record => ⟨results, some (.blank record.kind)⟩
  | .success _ => ⟨results, none⟩

/-- The stage at the end of an entry. -/
def Entry.full (results : Results) : Entry → Stage
  | .found record => ⟨results, some record⟩
  | .success code => ⟨{ results with success := some true, code := code.or results.code }, none⟩

/-- The results with an entry. -/
def Results.note (results : Results) : Entry → Results
  | .found (.group record) => { results with groups := results.groups ++ [record] }
  | .found (.membership record) =>
      { results with memberships := results.memberships ++ [record] }
  | .found (.person record) => { results with persons := results.persons ++ [record] }
  | .success code => { results with success := some true, code := code.or results.code }

namespace Entry

theorem block_empty (entry : Entry) (results : Results) :
    (entry.empty results).block = entry.block := by
  cases entry with
  | found record => exact congrArg BlockKind.record (Record.kind_blank record.kind)
  | success code => rfl

theorem opening_of_isName {entry : Entry} {name : String} (isName : entry.block.IsName name)
    (results : Results) (path : List String) :
    ((⟨results, none⟩ : Stage).reading path).opening name =
      (entry.empty results).reading (name :: path) := by
  rcases entry with (_ | _ | _) | _
  case success => exact Stage.opening_of_plain _ (by rw [show name = _ from isName]; rfl) path
  all_goals
    unfold Reading.opening
    rw [show RecordKind.ofName? name = some _ from isName]
    rfl

theorem closing_of_isName {entry : Entry} {name : String} (isName : entry.block.IsName name)
    (results : Results) (path : List String) :
    ((entry.full results).reading (name :: path)).closing =
      (⟨results.note entry, none⟩ : Stage).reading path := by
  rcases entry with (_ | _ | _) | _
  case success => exact Stage.closing_of_plain _ (by rw [show name = _ from isName]; rfl) path
  all_goals
    unfold Reading.closing
    dsimp only [full, Stage.reading]
    rw [show RecordKind.ofName? name = some _ from isName]
    rfl

theorem nodup_fields (entry : Entry) : (entry.fields.map Prod.fst).Nodup := by
  have all : ∀ block : BlockKind, block.fieldNames.Nodup := by
    intro block
    rcases block with (_ | _ | _) | _ <;> decide
  exact entry.names_sublist.nodup (all entry.block)

/-- Taking all fields of an entry fills it. -/
theorem foldl_take_fields (entry : Entry) (results : Results) :
    entry.fields.foldl Stage.take (entry.empty results) = entry.full results := by
  rcases entry with (record | record | record) | code
  · cases record with | mk name displayName displayExtension description =>
    cases displayName <;> cases displayExtension <;> cases description <;> rfl
  · cases record with | mk groupName listName personId =>
    cases listName <;> cases personId <;> rfl
  · cases record with | mk id name =>
    cases name <;> rfl
  · cases code <;> rfl

/-- The order of the fields does not matter. -/
theorem foldl_take_of_perm {entry : Entry} {fields : List (String × String)}
    (reordered : fields.Perm entry.fields) (results : Results) :
    fields.foldl Stage.take (entry.empty results) = entry.full results := by
  rw [← entry.foldl_take_fields results]
  apply reordered.foldl_eq'
  intro field isField other isOther stage
  by_cases same : field = other
  · rw [same]
  · apply stage.take_comm
    intro sameName
    have distinct := (reordered.map Prod.fst).nodup_iff.mpr entry.nodup_fields
    exact same (List.inj_on_of_nodup_map distinct isField isOther sameName)

end Entry

/-! ## Answers -/

/-- Wherever entries are written, they are found one after the other. -/
theorem Stage.walk_of_renders {entries : List Entry} {content : Content}
    (renders : Renders entries content) (results : Results) {path : List String}
    (outside : ∀ name ∈ path, IsOther name) :
    ((⟨results, none⟩ : Stage).reading path).walk content =
      (⟨entries.foldl Results.note results, none⟩ : Stage).reading path := by
  have deaf := isDeaf_of_forall_isOther outside
  induction renders generalizing results path with
  | text data => exact Reading.hear_of_silent (silent_of_isDeaf _ deaf) data
  | @entry before tag inner after entry fields entries isName reordered writes others
      inductionHypothesis =>
      have deafInside := isDeaf_cons isName.noFault outside
      rw [Reading.walk, Reading.hear_of_silent (silent_of_isDeaf _ deaf),
        entry.opening_of_isName isName,
        walk_of_writesFields writes (entry.block_empty results) isName deafInside,
        entry.foldl_take_of_perm reordered, entry.closing_of_isName isName,
        inductionHypothesis _ outside deaf, List.foldl_cons]
  | @other before tag inner after former latter isOther inside others inInside inOthers =>
      have outsideInner : ∀ name ∈ tag.localName :: path, IsOther name :=
        List.forall_mem_cons.mpr ⟨isOther, outside⟩
      have found := inInside results outsideInner (isDeaf_of_forall_isOther outsideInner)
      rw [walk_element (silent_of_isDeaf _ deaf) isOther.noRecord found,
        inOthers _ outside deaf, List.foldl_append]
  | skipped others inductionHypothesis =>
      rw [walk_skipped (silent_of_isDeaf _ deaf), inductionHypothesis _ outside deaf]

namespace Results

/-- The results with some entries. -/
theorem foldl_note (entries : List Entry) (results : Results) :
    entries.foldl note results =
      { groups := results.groups ++ entries.filterMap Entry.group?
        memberships := results.memberships ++ entries.filterMap Entry.membership?
        persons := results.persons ++ entries.filterMap Entry.person?
        success := (entries.filterMap Entry.code?).foldl (fun _ _ => some true) results.success
        code := (entries.filterMap Entry.code?).foldl (fun former code => code.or former)
          results.code
        fault := results.fault } := by
  induction entries generalizing results with
  | nil => simp
  | cons entry entries inductionHypothesis =>
      rw [List.foldl_cons, inductionHypothesis]
      rcases entry with (_ | _ | _) | _ <;>
        simp [note, List.filterMap_cons, Entry.group?, Entry.membership?, Entry.person?,
          Entry.code?]

/-- An answer is read as exactly what was written: the records of each kind in their order, and that
the call succeeded. It does not matter how the kinds are interleaved, in which order the fields of a
record stand, how their values are written as character data, which namespaces and attributes there
are, and what stands in elements without a meaning. -/
theorem read_rendering {groups : List GroupRecord} {memberships : List MembershipRecord}
    {persons : List PersonRecord} {code : Option String} {entries : List Entry}
    {document : Xml.Document} (interleaves : Interleaves entries groups memberships persons code)
    (renders : Renders entries document.content) :
    read document.written =
      .ok { groups, memberships, persons, success := some true, code, fault := none } := by
  have outside : ∀ name ∈ ([] : List String), IsOther name := by simp
  have found : (({} : Reading).walk document.content).results = entries.foldl note {} :=
    congrArg Reading.results (Stage.walk_of_renders renders {} outside)
  rw [read_written, found, foldl_note, interleaves.groups_eq, interleaves.memberships_eq,
    interleaves.persons_eq, interleaves.codes_eq]
  simp

end Results

/-! ## An answer with much of what may be in one -/

/-- An answer with a message of success, two groups and a membership, in which there are also a
declaration, an attribute, a comment, prefixes and elements that mean nothing. -/
def registryAnswer : Xml.Document where
  front := [(.none, .instruction "xml version='1.0'".toList (by decide) (by decide))]
  root := .named (.ofText "Envelope") (some (.ofText "ns"))
    [{ name := { localName := .ofText "class" }, value := "a>b".toList, mark_not_mem := by decide }]
  inner :=
    .element [] (.named (.ofText "resultMetadata"))
      (simpleField "message" "2 groups" <| simpleField "success" "T" <| .text []) <|
    .element [] (.named (.ofText "groupResults") (some (.ofText "ns")))
      (.element [] (.named (.ofText "detail")) (simpleField "name" "none" <| .text []) <|
        simpleField "description" "R&D" <| .skipped [] (.comment "names".toList (by decide)) <|
        simpleField "name" "nl:research" <| .text []) <|
    .element [] (.named (.ofText "wsMemberships"))
      (simpleField "subjectId" "ada" <| simpleField "groupName" "nl:research" <| .text []) <|
    .element [] (.named (.ofText "wsGroups")) (simpleField "name" "nl:all" <| .text []) <|
    .text []

/-- What the answer tells. -/
def registryEntries : List Entry :=
  [.success none,
    .found (.group { name := "nl:research", description := some "R&D" }),
    .found (.membership { groupName := "nl:research", personId := some "ada" }),
    .found (.group { name := "nl:all" })]

theorem renders_registryAnswer : Renders registryEntries registryAnswer.content := by
  have other {name : String} (noRecord : RecordKind.ofName? name = none)
      (noMetadata : name ≠ "resultMetadata") (noFault : name ≠ "faultstring") : IsOther name :=
    ⟨⟨noRecord, noMetadata⟩, noFault⟩
  have inside : Renders registryEntries registryAnswer.inner := by
    refine .entry (by rfl) (List.Perm.refl _) ?_ ?_
    · apply WritesFields.other
      · exact (other rfl (by decide) (by decide)).toIsPlain
      · decide
      · exact trivial
      · exact .simpleField (by decide) (by decide) (.text [])
    refine .entry (by rfl) (List.Perm.swap _ _ []) ?_ ?_
    · apply WritesFields.other
      · exact (other rfl (by decide) (by decide)).toIsPlain
      · decide
      · exact ⟨other rfl (by decide) (by decide), trivial, trivial⟩
      · exact .simpleField (by decide) (by decide)
          (.skipped (.simpleField (by decide) (by decide) (.text [])))
    refine .entry (by rfl) (List.Perm.swap _ _ []) ?_ ?_
    · exact .simpleField (by decide) (by decide) (.simpleField (by decide) (by decide) (.text []))
    refine .entry (by rfl) (List.Perm.refl _) ?_ ?_
    · exact .simpleField (by decide) (by decide) (.text [])
    exact .text []
  exact .skipped (.other (other rfl (by decide) (by decide)) inside (.text []))

theorem Results.read_rendering_registryAnswer :
    Interleaves registryEntries
        [{ name := "nl:research", description := some "R&D" }, { name := "nl:all" }]
        [{ groupName := "nl:research", personId := some "ada" }] [] none ∧
      Renders registryEntries registryAnswer.content ∧
      Results.read registryAnswer.written =
        .ok { groups :=
                [{ name := "nl:research", description := some "R&D" }, { name := "nl:all" }]
              memberships := [{ groupName := "nl:research", personId := some "ada" }]
              success := some true } := by
  have interleaves : Interleaves registryEntries
      [{ name := "nl:research", description := some "R&D" }, { name := "nl:all" }]
      [{ groupName := "nl:research", personId := some "ada" }] [] none :=
    ⟨rfl, rfl, rfl, rfl⟩
  exact ⟨interleaves, renders_registryAnswer,
    Results.read_rendering interleaves renders_registryAnswer⟩

end GroupFederation.Soap
