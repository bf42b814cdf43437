import GroupFederation.Proofs.Xml.Document
import GroupFederation.Soap.Results

/-!
# How an answer is written

What an answer tells is a list of entries: records, and the message that the call succeeded. Each
entry is an element with a field in it for each of its values, in any order and among elements that
mean nothing. Entries may stand within further elements, such as the envelope, and with text around
them; only names that mean something are not used for anything else.
-/

namespace GroupFederation.Soap

/-! ## Entries -/

/-- A record of any kind. -/
inductive Record where
  | group (record : GroupRecord)
  | membership (record : MembershipRecord)
  | person (record : PersonRecord)
  deriving DecidableEq, Repr

/-- A field with its value, if there is one. -/
def optionalField (name : String) (value : Option String) : List (String × String) :=
  (value.map (name, ·)).toList

namespace Record

def kind : Record → RecordKind
  | .group _ => .group
  | .membership _ => .membership
  | .person _ => .person

def fields : Record → List (String × String)
  | .group record =>
      ("name", record.name) :: (optionalField "displayName" record.displayName ++
        (optionalField "displayExtension" record.displayExtension ++
          optionalField "description" record.description))
  | .membership record =>
      ("groupName", record.groupName) :: (optionalField "listName" record.listName ++
        optionalField "subjectId" record.personId)
  | .person record => ("id", record.id) :: optionalField "name" record.name

end Record

/-- What an answer tells. -/
inductive Entry where
  | found (record : Record)
  /-- The call succeeded, with a code or without one. -/
  | success (code : Option String)
  deriving DecidableEq, Repr

/-- The kinds of elements that have fields. -/
inductive BlockKind where
  | record (kind : RecordKind)
  | metadata
  deriving DecidableEq, Repr

namespace BlockKind

/-- The fields that mean something. -/
def fieldNames : BlockKind → List String
  | .record .group => ["name", "displayName", "displayExtension", "description"]
  | .record .membership => ["groupName", "listName", "subjectId"]
  | .record .person => ["id", "name"]
  | .metadata => ["success", "resultCode"]

/-- Whether elements of the kind may have the name. -/
def IsName (block : BlockKind) (name : String) : Prop :=
  match block with
  | .record kind => RecordKind.ofName? name = some kind
  | .metadata => name = "resultMetadata"

end BlockKind

namespace Entry

def block : Entry → BlockKind
  | .found record => .record record.kind
  | .success _ => .metadata

def fields : Entry → List (String × String)
  | .found record => record.fields
  | .success code => ("success", "T") :: optionalField "resultCode" code

def group? : Entry → Option GroupRecord
  | .found (.group record) => some record
  | _ => none

def membership? : Entry → Option MembershipRecord
  | .found (.membership record) => some record
  | _ => none

def person? : Entry → Option PersonRecord
  | .found (.person record) => some record
  | _ => none

/-- The code of a message of success. -/
def code? : Entry → Option (Option String)
  | .success code => some code
  | _ => none

end Entry

/-- Whether entries are some records of each kind, interleaved in any way, and one message of
success. -/
structure Interleaves (entries : List Entry) (groups : List GroupRecord)
    (memberships : List MembershipRecord) (persons : List PersonRecord) (code : Option String) :
    Prop where
  groups_eq : entries.filterMap Entry.group? = groups
  memberships_eq : entries.filterMap Entry.membership? = memberships
  persons_eq : entries.filterMap Entry.person? = persons
  codes_eq : entries.filterMap Entry.code? = [code]

/-! ## Elements -/

/-- Whether an element with the name has no fields. -/
structure IsPlain (name : String) : Prop where
  noRecord : RecordKind.ofName? name = none
  noMetadata : name ≠ "resultMetadata"

/-- Whether a name means nothing. -/
structure IsOther (name : String) : Prop extends IsPlain name where
  noFault : name ≠ "faultstring"

/-- Whether no name in the content of an element means anything. -/
def IsQuiet : Xml.Content → Prop
  | .text _ => True
  | .element _ tag inner after => IsOther tag.localName ∧ IsQuiet inner ∧ IsQuiet after
  | .skipped _ _ after => IsQuiet after

/-- Whether content is the content of an element with these fields, in this order. -/
inductive WritesFields (block : BlockKind) : List (String × String) → Xml.Content → Prop
  | text (data : Xml.CharacterData) : WritesFields block [] (.text data)
  | field {before : Xml.CharacterData} {tag : Xml.Tag} {data : Xml.CharacterData} {value : String}
      {after : Xml.Content} {fields : List (String × String)}
      (known : tag.localName ∈ block.fieldNames) (writes : data.Writes value)
      (others : WritesFields block fields after) :
      WritesFields block ((tag.localName, value) :: fields)
        (.element before tag (.text data) after)
  | other {before : Xml.CharacterData} {tag : Xml.Tag} {inner after : Xml.Content}
      {fields : List (String × String)} (plain : IsPlain tag.localName)
      (unknown : tag.localName ∉ block.fieldNames) (quiet : IsQuiet inner)
      (others : WritesFields block fields after) :
      WritesFields block fields (.element before tag inner after)
  | skipped {before : Xml.CharacterData} {aside : Xml.Aside} {after : Xml.Content}
      {fields : List (String × String)} (others : WritesFields block fields after) :
      WritesFields block fields (.skipped before aside after)

/-- Whether content tells these entries, in this order. -/
inductive Renders : List Entry → Xml.Content → Prop
  | text (data : Xml.CharacterData) : Renders [] (.text data)
  | entry {before : Xml.CharacterData} {tag : Xml.Tag} {inner after : Xml.Content} {entry : Entry}
      {fields : List (String × String)} {entries : List Entry}
      (isName : entry.block.IsName tag.localName) (reordered : fields.Perm entry.fields)
      (writes : WritesFields entry.block fields inner) (others : Renders entries after) :
      Renders (entry :: entries) (.element before tag inner after)
  /-- An element around entries. -/
  | other {before : Xml.CharacterData} {tag : Xml.Tag} {inner after : Xml.Content}
      {former latter : List Entry} (isOther : IsOther tag.localName) (inside : Renders former inner)
      (others : Renders latter after) : Renders (former ++ latter) (.element before tag inner after)
  | skipped {before : Xml.CharacterData} {aside : Xml.Aside} {after : Xml.Content}
      {entries : List Entry} (others : Renders entries after) :
      Renders entries (.skipped before aside after)

/-! ## Everything can be written -/

namespace Entry

/-- The fields of an entry are among those of its kind, each at most once. -/
theorem names_sublist (entry : Entry) :
    (entry.fields.map Prod.fst).Sublist entry.block.fieldNames := by
  have optional (name : String) (value : Option String) :
      ((optionalField name value).map Prod.fst).Sublist [name] := by
    cases value with
    | none => exact List.nil_sublist [name]
    | some value => exact List.Sublist.refl [name]
  rcases entry with (record | record | record) | code
  · simp only [fields, Record.fields, List.map_cons, List.map_append]
    exact ((optional _ _).append ((optional _ _).append (optional _ _))).cons_cons "name"
  · simp only [fields, Record.fields, List.map_cons, List.map_append]
    exact ((optional _ _).append (optional _ _)).cons_cons "groupName"
  · exact (optional _ _).cons_cons "id"
  · exact (optional _ _).cons_cons "success"

end Entry

theorem BlockKind.isName_of_mem_fieldNames {block : BlockKind} {name : String}
    (known : name ∈ block.fieldNames) : Xml.IsName name.toList := by
  have all : ∀ block : BlockKind, ∀ name ∈ block.fieldNames, Xml.IsName name.toList := by
    intro block
    rcases block with (_ | _ | _) | _ <;> decide
  exact all block name known

theorem BlockKind.exists_isName (block : BlockKind) :
    ∃ name : String, Xml.IsName name.toList ∧ block.IsName name := by
  rcases block with (_ | _ | _) | _
  · exact ⟨"wsGroups", by decide, rfl⟩
  · exact ⟨"wsMemberships", by decide, rfl⟩
  · exact ⟨"wsSubjects", by decide, rfl⟩
  · exact ⟨"resultMetadata", by decide, rfl⟩

/-- A field in front of other content, in the simplest way to write it. -/
def simpleField (name value : String) (after : Xml.Content)
    (isName : Xml.IsName name.toList := by decide) : Xml.Content :=
  .element [] (.named (.ofText name isName)) (.text (.ofText value.toList)) after

theorem WritesFields.simpleField {block : BlockKind} {name value : String}
    {isName : Xml.IsName name.toList} {fields : List (String × String)} {after : Xml.Content}
    (known : name ∈ block.fieldNames) (tight : Xml.CharacterData.IsTight value)
    (others : WritesFields block fields after) :
    WritesFields block ((name, value) :: fields) (simpleField name value after isName) := by
  have sameName := Xml.Tag.localName_named_ofText isName none []
  have content : WritesFields block
      (((Xml.Tag.named (.ofText name isName)).localName, value) :: fields)
      (Soap.simpleField name value after isName) := by
    apply WritesFields.field
    · rwa [sameName]
    · exact Xml.CharacterData.writes_ofText tight
    · exact others
  rwa [sameName] at content

/-- Any fields can be written, in any order. -/
theorem exists_writesFields {block : BlockKind} {fields : List (String × String)}
    (known : ∀ field ∈ fields, field.1 ∈ block.fieldNames)
    (tight : ∀ field ∈ fields, Xml.CharacterData.IsTight field.2) :
    ∃ content, WritesFields block fields content := by
  induction fields with
  | nil => exact ⟨.text [], .text []⟩
  | cons field fields inductionHypothesis =>
      obtain ⟨knownFirst, knownRest⟩ := List.forall_mem_cons.mp known
      obtain ⟨tightFirst, tightRest⟩ := List.forall_mem_cons.mp tight
      obtain ⟨after, others⟩ := inductionHypothesis knownRest tightRest
      have isName := BlockKind.isName_of_mem_fieldNames knownFirst
      exact ⟨Soap.simpleField field.1 field.2 after isName,
        .simpleField knownFirst tightFirst others⟩

/-- Any entries can be written, if their values neither are empty nor begin or end with space. -/
theorem exists_renders {entries : List Entry}
    (tight : ∀ entry ∈ entries, ∀ field ∈ entry.fields, Xml.CharacterData.IsTight field.2) :
    ∃ content, Renders entries content := by
  induction entries with
  | nil => exact ⟨.text [], .text []⟩
  | cons entry entries inductionHypothesis =>
      obtain ⟨tightFirst, tightRest⟩ := List.forall_mem_cons.mp tight
      obtain ⟨after, others⟩ := inductionHypothesis tightRest
      have known : ∀ field ∈ entry.fields, field.1 ∈ entry.block.fieldNames := by
        intro field member
        exact entry.names_sublist.subset (List.mem_map_of_mem member)
      obtain ⟨inner, writes⟩ := exists_writesFields known tightFirst
      obtain ⟨name, isName, isBlockName⟩ := entry.block.exists_isName
      refine ⟨.element [] (.named (.ofText name isName)) inner after, ?_⟩
      apply Renders.entry
      · rwa [Xml.Tag.localName_named_ofText]
      · exact List.Perm.refl entry.fields
      · exact writes
      · exact others

end GroupFederation.Soap
