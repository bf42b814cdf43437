import GroupFederation.Proofs.Soap.Rendering
import GroupFederation.Proofs.Soap.Walk

/-!
# Stages of reading an answer

While an answer is read, at most one record is open, and its fields are set as they are found. The
events of an element without a meaning leave this as it is, and so does a text in it.
-/

namespace GroupFederation.Soap

open Xml (Content CharacterData)

/-! ## Fields -/

namespace Record

/-- A record without values. -/
def blank : RecordKind → Record
  | .group => .group {}
  | .membership => .membership {}
  | .person => .person {}

/-- Set a field by the name of its element. -/
def set (record : Record) (field text : String) : Record :=
  match record with
  | .group record => .group (record.set field text)
  | .membership record => .membership (record.set field text)
  | .person record => .person (record.set field text)

theorem kind_blank (kind : RecordKind) : (blank kind).kind = kind := by
  cases kind <;> rfl

theorem kind_set (record : Record) (field text : String) :
    (record.set field text).kind = record.kind := by
  cases record <;> rfl

theorem set_of_not_mem {record : Record} {field : String}
    (unknown : field ∉ (BlockKind.record record.kind).fieldNames) (text : String) :
    record.set field text = record := by
  cases record with
  | group record =>
      simp only [kind, BlockKind.fieldNames, List.mem_cons, List.not_mem_nil, not_or] at unknown
      simp only [set, GroupRecord.set]
      split <;> simp_all
  | membership record =>
      simp only [kind, BlockKind.fieldNames, List.mem_cons, List.not_mem_nil, not_or] at unknown
      simp only [set, MembershipRecord.set]
      split <;> simp_all
  | person record =>
      simp only [kind, BlockKind.fieldNames, List.mem_cons, List.not_mem_nil, not_or] at unknown
      simp only [set, PersonRecord.set]
      split <;> simp_all

/-- Fields with different names do not disturb each other. -/
theorem set_comm (record : Record) {field other : String} (differs : field ≠ other)
    (text value : String) :
    (record.set field text).set other value = (record.set other value).set field text := by
  cases record with
  | group record =>
      simp only [set, GroupRecord.set]
      split <;> split <;> simp_all
  | membership record =>
      simp only [set, MembershipRecord.set]
      split <;> split <;> simp_all
  | person record =>
      simp only [set, PersonRecord.set]
      split <;> split <;> simp_all

end Record

namespace Results

/-- Set what is known about the call by the name of an element. -/
def set (results : Results) (field text : String) : Results :=
  match field with
  | "success" => { results with success := some (text == "T") }
  | "resultCode" => { results with code := some text }
  | _ => results

theorem set_of_not_mem (results : Results) {field : String}
    (unknown : field ∉ BlockKind.metadata.fieldNames) (text : String) :
    results.set field text = results := by
  simp only [BlockKind.fieldNames, List.mem_cons, List.not_mem_nil, not_or] at unknown
  simp only [set]
  split <;> simp_all

theorem set_comm (results : Results) {field other : String} (differs : field ≠ other)
    (text value : String) :
    (results.set field text).set other value = (results.set other value).set field text := by
  simp only [set]
  split <;> split <;> simp_all

end Results

/-! ## Stages -/

/-- What has been found, and the record whose element is open. -/
structure Stage where
  results : Results
  record : Option Record := none

namespace Stage

/-- The stage within open elements. -/
def reading (stage : Stage) (path : List String) : Reading :=
  match stage.record with
  | none => { results := stage.results, path }
  | some (.group record) => { results := stage.results, path, group := some record }
  | some (.membership record) => { results := stage.results, path, membership := some record }
  | some (.person record) => { results := stage.results, path, person := some record }

/-- The kind of element whose fields are taken. -/
def block (stage : Stage) : BlockKind :=
  match stage.record with
  | none => .metadata
  | some record => .record record.kind

/-- Take a field. -/
def take (stage : Stage) (field : String × String) : Stage :=
  match stage.record with
  | none => { stage with results := stage.results.set field.1 field.2 }
  | some record => { stage with record := some (record.set field.1 field.2) }

theorem block_take (stage : Stage) (field : String × String) :
    (stage.take field).block = stage.block := by
  cases stage with | mk results record =>
  cases record with
  | none => rfl
  | some record => exact congrArg BlockKind.record (record.kind_set field.1 field.2)

theorem take_of_not_mem {stage : Stage} {name : String} (unknown : name ∉ stage.block.fieldNames)
    (value : String) : stage.take (name, value) = stage := by
  cases stage with | mk results record =>
  cases record with
  | none => simp only [take, results.set_of_not_mem unknown]
  | some record => simp only [take, Record.set_of_not_mem unknown]

theorem take_comm (stage : Stage) {field other : String × String} (differs : field.1 ≠ other.1) :
    (stage.take field).take other = (stage.take other).take field := by
  cases stage with | mk results record =>
  cases record with
  | none => simp only [take, results.set_comm differs]
  | some record => simp only [take, record.set_comm differs]

/-! ### Events -/

theorem opening_of_plain (stage : Stage) {name : String}
    (noRecord : RecordKind.ofName? name = none) (path : List String) :
    (stage.reading path).opening name = stage.reading (name :: path) := by
  cases stage with | mk results record =>
  rcases record with _ | _ | _ | _ <;> simp only [reading, Reading.opening, noRecord]

theorem closing_of_plain (stage : Stage) {name : String}
    (noRecord : RecordKind.ofName? name = none) (path : List String) :
    (stage.reading (name :: path)).closing = stage.reading path := by
  cases stage with | mk results record =>
  rcases record with _ | _ | _ | _ <;> simp only [reading, Reading.closing, noRecord]

/-- A text in a field of the open element is taken. -/
theorem text_of_isName {stage : Stage} {parent : String} (isName : stage.block.IsName parent)
    (field text : String) (path : List String) :
    (stage.reading (field :: parent :: path)).text text =
      (stage.take (field, text)).reading (field :: parent :: path) := by
  cases stage with | mk results record =>
  rcases record with _ | _ | _ | _
  · have isMetadata : (parent == "resultMetadata") = true := beq_iff_eq.mpr isName
    unfold Reading.text
    dsimp only [reading]
    rw [show RecordKind.ofName? parent = none by rw [show parent = _ from isName]; rfl]
    simp only [isMetadata, Option.isNone_none, Bool.and_self, if_true]
    split
    · rfl
    · rfl
    · next noSuccess noCode =>
      rw [take_of_not_mem]
      simpa [block, BlockKind.fieldNames] using ⟨noSuccess, noCode⟩
  all_goals
    unfold Reading.text
    dsimp only [reading]
    rw [show RecordKind.ofName? parent = some _ from isName]
    rfl

theorem path_reading (stage : Stage) (path : List String) : (stage.reading path).path = path := by
  cases stage with | mk results record =>
  rcases record with _ | _ | _ | _ <;> rfl

end Stage

/-! ## Texts that do not count -/

/-- Whether a text within these open elements can only count as a field of a record. -/
def IsDeaf : List String → Prop
  | field :: parent :: _ => field ≠ "faultstring" ∧ IsPlain parent
  | _ => True

theorem isDeaf_cons {name : String} {path : List String} (noFault : name ≠ "faultstring")
    (outside : ∀ parent ∈ path, IsOther parent) : IsDeaf (name :: path) := by
  cases path with
  | nil => trivial
  | cons parent path => exact ⟨noFault, (outside parent (.head _)).toIsPlain⟩

theorem isDeaf_of_forall_isOther {path : List String} (outside : ∀ name ∈ path, IsOther name) :
    IsDeaf path := by
  cases path with
  | nil => trivial
  | cons name path =>
      obtain ⟨isOther, outside⟩ := List.forall_mem_cons.mp outside
      exact isDeaf_cons isOther.noFault outside

namespace Reading

theorem text_of_isDeaf {reading : Reading} (deaf : IsDeaf reading.path) (text : String) :
    reading.text text = reading := by
  unfold Reading.text
  split
  · next field parent path same =>
    rw [same] at deaf
    rw [deaf.2.noRecord]
    simp only [beq_eq_false_iff_ne.mpr deaf.2.noMetadata, beq_eq_false_iff_ne.mpr deaf.1,
      Bool.false_and, Bool.false_eq_true, if_false]
  · rfl

theorem hear_of_silent {reading : Reading} (silent : ∀ text, reading.text text = reading)
    (data : CharacterData) : reading.hear data = reading := by
  rw [hear, silent, ite_self]

end Reading

end GroupFederation.Soap
