import GroupFederation.Proofs.Provider.Lookup
import GroupFederation.Proofs.Soap.Passage

/-!
# Answers that say the same

What an answer says is a tree, and that tree can be read by itself, each text as a whole. An answer
is read as its tree is, however it is written, if every text that counts is written in one part. Two
answers that say the same then differ at most in records without a name, which nobody uses: an
element without content gives such a record, unless it is closed in the tag that opens it. Where
that element stands in a record of its own kind, it would end that record as well.
-/

namespace GroupFederation.Soap

open Xml (Aside CharacterData Content Passage Tree)

/-! ## Records without a name -/

/-- The results without the records that have no name. -/
def Results.named (results : Results) : Results :=
  { results with
    groups := results.groups.filter (·.name != "")
    memberships := results.memberships.filter (·.groupName != "")
    persons := results.persons.filter (·.id != "") }

namespace Reading

def named (reading : Reading) : Reading :=
  { reading with results := reading.results.named }

/-- Whether two readings differ at most in the records without a name that they have found. -/
def Alike (reading other : Reading) : Prop :=
  reading.named = other.named

theorem named_named (reading : Reading) : reading.named.named = reading.named := by
  simp [named, Results.named]

theorem named_opening (reading : Reading) (name : String) :
    (reading.opening name).named = reading.named.opening name := by
  unfold opening
  split <;> rfl

theorem named_text (reading : Reading) (text : String) :
    (reading.text text).named = reading.named.text text := by
  unfold Reading.text
  rw [show reading.named.path = reading.path from rfl]
  split
  · split
    · rfl
    · rfl
    · rfl
    · rw [show reading.named.person = reading.person from rfl,
        show reading.named.group = reading.group from rfl]
      split
      · split <;> rfl
      · split <;> rfl
  · rfl

theorem named_note (reading : Reading) (text : List Char) :
    (reading.note text).named = reading.named.note text := by
  unfold note
  split
  · rfl
  · exact reading.named_text _

theorem named_closing (reading : Reading) :
    reading.closing.named = reading.named.closing.named := by
  unfold closing
  rw [show reading.named.path = reading.path from rfl]
  split
  · exact reading.named_named.symm
  · dsimp only
    split <;> simp [named, Results.named]

namespace Alike

variable {reading other : Reading}

theorem refl (reading : Reading) : Alike reading reading := rfl

theorem symm (alike : Alike reading other) : Alike other reading :=
  Eq.symm alike

theorem trans {third : Reading} (former : Alike reading other) (latter : Alike other third) :
    Alike reading third :=
  Eq.trans former latter

theorem opening (alike : Alike reading other) (name : String) :
    Alike (reading.opening name) (other.opening name) := by
  rw [Alike, named_opening, named_opening, alike]

theorem note (alike : Alike reading other) (text : List Char) :
    Alike (reading.note text) (other.note text) := by
  rw [Alike, named_note, named_note, alike]

theorem closing (alike : Alike reading other) : Alike reading.closing other.closing := by
  rw [Alike, named_closing, alike, ← named_closing]

end Alike

/-! ## Open records -/

/-- Whether a record of the kind is open. -/
def holds (reading : Reading) : RecordKind → Bool
  | .group => reading.group.isSome
  | .membership => reading.membership.isSome
  | .person => reading.person.isSome

/-- Whether every open record belongs to an open element. -/
def IsTidy (reading : Reading) : Prop :=
  ∀ kind, reading.holds kind = true → ∃ name ∈ reading.path, RecordKind.ofName? name = some kind

theorem holds_opening (reading : Reading) (name : String) (kind : RecordKind) :
    (reading.opening name).holds kind =
      (RecordKind.ofName? name == some kind || reading.holds kind) := by
  unfold opening
  rcases RecordKind.ofName? name with _ | _ | _ | _ <;> cases kind <;> rfl

theorem holds_closing {reading : Reading} {name : String} {path : List String}
    (same : reading.path = name :: path) (kind : RecordKind) :
    reading.closing.holds kind =
      (RecordKind.ofName? name != some kind && reading.holds kind) := by
  unfold closing
  rw [same]
  dsimp only
  rcases RecordKind.ofName? name with _ | _ | _ | _ <;> cases kind <;> rfl

theorem holds_text (reading : Reading) (text : String) (kind : RecordKind) :
    (reading.text text).holds kind = reading.holds kind := by
  unfold Reading.text
  split
  · split
    · cases kind <;> simp [holds]
    · cases kind <;> simp [holds]
    · cases kind <;> simp [holds]
    · split
      · split <;> cases kind <;> rfl
      · split <;> cases kind <;> rfl
  · rfl

namespace IsTidy

variable {reading : Reading}

theorem empty : ({} : Reading).IsTidy := by
  intro kind isOpen
  cases kind <;> cases isOpen

theorem opening (tidy : reading.IsTidy) (name : String) : (reading.opening name).IsTidy := by
  intro kind isOpen
  rw [holds_opening, Bool.or_eq_true, beq_iff_eq] at isOpen
  rw [path_opening]
  rcases isOpen with ofKind | isOpen
  · exact ⟨name, .head _, ofKind⟩
  · obtain ⟨outer, member, ofKind⟩ := tidy kind isOpen
    exact ⟨outer, .tail _ member, ofKind⟩

theorem closing (tidy : reading.IsTidy) : reading.closing.IsTidy := by
  cases same : reading.path with
  | nil =>
      rw [Reading.closing, same]
      exact tidy
  | cons name path =>
      intro kind isOpen
      rw [holds_closing same, Bool.and_eq_true, bne_iff_ne] at isOpen
      obtain ⟨outer, member, ofKind⟩ := tidy kind isOpen.2
      rw [path_closing, same, List.tail_cons]
      rw [same] at member
      rcases List.mem_cons.mp member with rfl | member
      · exact absurd ofKind isOpen.1
      · exact ⟨outer, member, ofKind⟩

theorem text (tidy : reading.IsTidy) (text : String) : (reading.text text).IsTidy := by
  intro kind isOpen
  rw [holds_text] at isOpen
  rw [path_text]
  exact tidy kind isOpen

theorem note (tidy : reading.IsTidy) (text : List Char) : (reading.note text).IsTidy := by
  unfold Reading.note
  split
  · exact tidy
  · exact tidy.text _

theorem hear (tidy : reading.IsTidy) (data : CharacterData) : (reading.hear data).IsTidy := by
  unfold Reading.hear
  split
  · exact tidy
  · exact tidy.text _

theorem walk (tidy : reading.IsTidy) (content : Content) : (reading.walk content).IsTidy := by
  induction content generalizing reading with
  | text data => exact tidy.hear data
  | element before tag inner after inInner inAfter =>
      exact inAfter (inInner ((tidy.hear before).opening tag.localName)).closing
  | skipped before aside after inAfter => exact inAfter (tidy.hear before)

end IsTidy

/-- An element without content makes no difference, unless a record of its kind is open. -/
theorem alike_closing_opening {reading : Reading} {name : String}
    (idle : ∀ kind, RecordKind.ofName? name = some kind → reading.holds kind = false) :
    Alike (reading.opening name).closing reading := by
  unfold closing
  rw [path_opening]
  dsimp only
  unfold opening
  cases ofName : RecordKind.ofName? name with
  | none => exact .refl reading
  | some kind =>
      have nothing := idle kind ofName
      cases kind with
      | group =>
          rw [holds, Option.isSome_eq_false_iff, Option.isNone_iff_eq_none] at nothing
          simp [Alike, named, Results.named, nothing]
      | membership =>
          rw [holds, Option.isSome_eq_false_iff, Option.isNone_iff_eq_none] at nothing
          simp [Alike, named, Results.named, nothing]
      | person =>
          rw [holds, Option.isSome_eq_false_iff, Option.isNone_iff_eq_none] at nothing
          simp [Alike, named, Results.named, nothing]

/-! ## Reading a tree -/

/-- Read a tree, each text as a whole; `former` is the text in front of it. -/
def survey (reading : Reading) (former : List Char) : Tree → Reading
  | .nil => reading.note former
  | .character first rest => reading.survey (former ++ [first]) rest
  | .element name inner rest =>
      ((((reading.note former).opening name).survey [] inner).closing).survey [] rest

theorem survey_ofText (reading : Reading) (former text : List Char) (rest : Tree) :
    reading.survey former (.ofText text rest) = reading.survey (former ++ text) rest := by
  induction text generalizing former with
  | nil => rw [Tree.ofText_nil, List.append_nil]
  | cons first text inductionHypothesis =>
      rw [Tree.ofText_cons, survey, inductionHypothesis, List.append_assoc, List.singleton_append]

theorem Alike.survey {reading other : Reading} (alike : Alike reading other) (former : List Char)
    (tree : Tree) : Alike (reading.survey former tree) (other.survey former tree) := by
  induction tree generalizing reading other former with
  | nil => exact alike.note former
  | character first rest inRest => exact inRest alike _
  | element name inner rest inInner inRest =>
      exact inRest (inInner ((alike.note former).opening name) []).closing []

end Reading

/-! ## Content in which texts are whole -/

/-- Whether a text within these open elements is written in one part, if it counts. -/
def IsTold (path : List String) (passage : Passage) : Prop :=
  counts path = true → passage.IsWhole

instance (path : List String) (passage : Passage) : Decidable (IsTold path passage) :=
  inferInstanceAs (Decidable (_ → _))

/-- Whether every text that counts is written in one part. `former` is what has been written of the
text in front of the content. -/
def IsUnbroken (path : List String) (former : Passage) : Content → Prop
  | .text data => IsTold path (former ++ [.text data])
  | .element before tag inner after =>
      IsTold path (former ++ [.text before]) ∧
        IsUnbroken (tag.localName :: path) [] inner ∧ IsUnbroken path [] after
  | .skipped before (.comment _ _) after => IsUnbroken path (former ++ [.text before]) after
  | .skipped before (.literal characters _) after =>
      IsUnbroken path (former ++ [.text before, .literal characters]) after
  | .skipped before (.instruction _ _ _) after => IsUnbroken path (former ++ [.text before]) after
  | .skipped before (.empty _) after =>
      IsTold path (former ++ [.text before]) ∧ IsUnbroken path [] after

/-- Whether no element without content stands within a record of its kind. -/
def RecordsApart (path : List String) : Tree → Prop
  | .nil => True
  | .character _ rest => RecordsApart path rest
  | .element name inner rest =>
      (inner = .nil → ∀ kind ∈ RecordKind.ofName? name,
        ∀ outer ∈ path, RecordKind.ofName? outer ≠ some kind) ∧
      RecordsApart (name :: path) inner ∧ RecordsApart path rest

/-- Both conditions can be tested. -/
def decideUnbroken (path : List String) (former : Passage) :
    (content : Content) → Decidable (IsUnbroken path former content)
  | .text data => inferInstanceAs (Decidable (IsTold path (former ++ [.text data])))
  | .element _ tag inner after =>
      have := decideUnbroken (tag.localName :: path) [] inner
      have := decideUnbroken path [] after
      inferInstanceAs (Decidable (_ ∧ _ ∧ _))
  | .skipped before (.comment _ _) after => decideUnbroken path (former ++ [.text before]) after
  | .skipped before (.literal characters _) after =>
      decideUnbroken path (former ++ [.text before, .literal characters]) after
  | .skipped before (.instruction _ _ _) after =>
      decideUnbroken path (former ++ [.text before]) after
  | .skipped _ (.empty _) after =>
      have := decideUnbroken path [] after
      inferInstanceAs (Decidable (_ ∧ _))

instance (path : List String) (former : Passage) (content : Content) :
    Decidable (IsUnbroken path former content) :=
  decideUnbroken path former content

def decideApart (path : List String) : (tree : Tree) → Decidable (RecordsApart path tree)
  | .nil => .isTrue trivial
  | .character _ rest => decideApart path rest
  | .element name inner rest =>
      have := decideApart (name :: path) inner
      have := decideApart path rest
      inferInstanceAs (Decidable (_ ∧ _ ∧ _))

instance (path : List String) (tree : Tree) : Decidable (RecordsApart path tree) :=
  decideApart path tree

@[simp] theorem recordsApart_ofText (path : List String) (text : List Char) (rest : Tree) :
    RecordsApart path (.ofText text rest) ↔ RecordsApart path rest := by
  induction text with
  | nil => rfl
  | cons first text inductionHypothesis => exact inductionHypothesis

namespace Reading

theorem hearAll_of_isTold {reading : Reading} {passage : Passage}
    (told : IsTold reading.path passage) :
    reading.hearAll passage = reading.note passage.meaning := by
  cases isCounted : counts reading.path with
  | true => exact hearAll_eq_note (told isCounted) reading
  | false =>
      have silent := text_of_not_counts isCounted
      have heard : reading.hearAll passage = reading := by
        induction passage with
        | nil => rfl
        | cons part passage inductionHypothesis =>
            have first : reading.hearPart part = reading := by
              cases part with
              | text data => exact hear_of_silent silent data
              | literal characters => rfl
            rw [hearAll, List.foldl_cons, first]
            exact inductionHypothesis fun counts => absurd counts (by simp [isCounted])
      rw [heard, note, silent, ite_self]

/-- The last part of a text is heard behind the former ones. -/
theorem hear_of_isTold {reading : Reading} {former : Passage} {data : CharacterData}
    (told : IsTold reading.path (former ++ [.text data])) :
    (reading.hearAll former).hear data = reading.note (former.meaning ++ data.meaning) := by
  have heard := hearAll_of_isTold told
  rw [Passage.meaning_append, Passage.meaning_cons, Passage.meaning_nil, List.append_nil,
    hearAll_append] at heard
  exact heard

/-- Content in which the texts are whole is read as its tree is. -/
theorem alike_walk {content : Content} {reading : Reading} {former : Passage}
    (tidy : reading.IsTidy) (apart : RecordsApart reading.path content.meaning)
    (unbroken : IsUnbroken reading.path former content) :
    Alike ((reading.hearAll former).walk content)
      (reading.survey former.meaning content.meaning) := by
  induction content generalizing reading former with
  | text data =>
      rw [walk, hear_of_isTold unbroken, Content.meaning, Content.before, survey_ofText, survey]
      exact .refl _
  | element before tag inner after inInner inAfter =>
      obtain ⟨told, unbrokenInner, unbrokenAfter⟩ := unbroken
      obtain ⟨-, apartInner, apartAfter⟩ := (recordsApart_ofText _ _ _).mp apart
      rw [walk, hear_of_isTold told]
      let opened := (reading.note (former.meaning ++ before.meaning)).opening tag.localName
      have pathOpened : opened.path = tag.localName :: reading.path := by
        rw [path_opening, path_note]
      have tidyOpened : opened.IsTidy := (tidy.note _).opening tag.localName
      have pathClosed : (opened.walk inner).closing.path = reading.path := by
        rw [path_closing, path_walk, pathOpened, List.tail_cons]
      have alikeInner : Alike (opened.walk inner) (opened.survey [] inner.meaning) :=
        @inInner opened [] tidyOpened (pathOpened ▸ apartInner) (pathOpened ▸ unbrokenInner)
      have alikeAfter : Alike ((opened.walk inner).closing.walk after)
          ((opened.walk inner).closing.survey [] after.meaning) :=
        @inAfter _ [] (tidyOpened.walk inner).closing (pathClosed ▸ apartAfter)
          (pathClosed ▸ unbrokenAfter)
      rw [Content.meaning, Content.before, survey_ofText, survey]
      exact alikeAfter.trans (alikeInner.closing.survey [] after.meaning)
  | skipped before aside after inAfter =>
      have apartAfter := (recordsApart_ofText _ _ _).mp apart
      rw [walk, Content.meaning, Content.before, survey_ofText]
      -- after comments, literal texts and instructions the same text goes on
      have further {others : Passage} {meaning : List Char}
          (same : Passage.meaning (former ++ others) = meaning)
          (heard : reading.hearAll (former ++ others) = (reading.hearAll former).hear before)
          (apart : RecordsApart reading.path after.meaning)
          (unbroken : IsUnbroken reading.path (former ++ others) after) :
          Alike (((reading.hearAll former).hear before).walk after)
            (reading.survey meaning after.meaning) := by
        rw [← same, ← heard]
        exact inAfter tidy apart unbroken
      cases aside with
      | comment text ends =>
          exact further (by simp [Xml.Part.meaning]) (hearAll_append _ _ _) apartAfter unbroken
      | literal text ends =>
          rw [Aside.before, survey_ofText]
          exact further (by simp [Xml.Part.meaning]) (hearAll_append _ _ _)
            ((recordsApart_ofText _ _ _).mp apartAfter) unbroken
      | instruction text begins ends =>
          exact further (by simp [Xml.Part.meaning]) (hearAll_append _ _ _) apartAfter unbroken
      | empty tag =>
          obtain ⟨told, unbrokenAfter⟩ := unbroken
          obtain ⟨apartHere, -, apartAfter⟩ := apartAfter
          rw [hear_of_isTold told]
          let noted := reading.note (former.meaning ++ before.meaning)
          have pathNoted : noted.path = reading.path := reading.path_note _
          have idle : ∀ kind, RecordKind.ofName? tag.localName = some kind →
              noted.holds kind = false := by
            intro kind ofKind
            rw [Bool.eq_false_iff]
            intro isOpen
            obtain ⟨outer, member, ofSameKind⟩ := tidy.note _ kind isOpen
            exact apartHere rfl kind ofKind outer (pathNoted ▸ member) ofSameKind
          have alikeAfter : Alike (noted.walk after) (noted.survey [] after.meaning) :=
            @inAfter noted [] (tidy.note _) (pathNoted ▸ apartAfter) (pathNoted ▸ unbrokenAfter)
          exact alikeAfter.trans ((alike_closing_opening idle).symm.survey [] after.meaning)

end Reading

/-! ## Answers -/

namespace Results

/-- What a tree holds, each text as a whole. -/
def told (tree : Tree) : Results :=
  (({} : Reading).survey [] tree).results

/-- An answer in which the texts are whole is read as its tree is. -/
theorem read_of_isUnbroken {content : Content} {root : String × Tree}
    (document : content.meaning.root? = some root) (apart : RecordsApart [] content.meaning)
    (unbroken : IsUnbroken [] [] content) :
    ∃ results, read (String.ofList content.written) = .ok results ∧
      results.named = (told content.meaning).named := by
  have unmarked := Xml.withoutMark_of_head? (Content.head?_written_of_root? document)
  have alike := @Reading.alike_walk content {} [] .empty apart unbroken
  exact ⟨_, read_content content unmarked, congrArg Reading.results alike⟩

/-- Answers that say the same are read alike, up to records without a name, if every text that
counts is written in one part. -/
theorem equivalent_answers_read_alike {left right : Content} {root : String × Tree}
    (document : left.meaning.root? = some root) (same : left.meaning = right.meaning)
    (apart : RecordsApart [] left.meaning) (unbrokenLeft : IsUnbroken [] [] left)
    (unbrokenRight : IsUnbroken [] [] right) :
    ∃ results others, read (String.ofList left.written) = .ok results ∧
      read (String.ofList right.written) = .ok others ∧ results.named = others.named := by
  obtain ⟨results, readLeft, asLeft⟩ := read_of_isUnbroken document apart unbrokenLeft
  rw [same] at document apart asLeft
  obtain ⟨others, readRight, asRight⟩ := read_of_isUnbroken document apart unbrokenRight
  exact ⟨results, others, readLeft, readRight, asLeft.trans asRight.symm⟩

/-- A group and an element without content, and the same with prefixes, a comment, a reference and
shorter elements. -/
theorem equivalent_answers_read_alike_shortened :
    ∃ left right : Content,
      String.ofList left.written =
        "<a><wsGroups><name>lab</name><description></description></wsGroups>" ++
          "<wsGroups></wsGroups></a>" ∧
      String.ofList right.written =
        "<s:a><!--lab--><s:wsGroups><name>l&#97;b</name><description/></s:wsGroups>" ++
          "<wsGroups/></s:a>" ∧
      left.meaning.root? ≠ none ∧ left.meaning = right.meaning ∧
      RecordsApart [] left.meaning ∧ IsUnbroken [] [] left ∧ IsUnbroken [] [] right ∧
      ∃ results others, read (String.ofList left.written) = .ok results ∧
        read (String.ofList right.written) = .ok others ∧ results.named = others.named := by
  let left : Content :=
    .element [] (.named (.ofText "a"))
      (.element [] (.named (.ofText "wsGroups"))
        (simpleField "name" "lab" (simpleField "description" "" (.text [])))
        (.element [] (.named (.ofText "wsGroups")) (.text []) (.text [])))
      (.text [])
  let name : CharacterData :=
    [.plain 'l' (by decide),
      .numbered
        ⟨.decimal, [⟨⟨9, by decide⟩, false⟩, ⟨⟨7, by decide⟩, false⟩], 'a', by decide, by decide,
          by decide⟩,
      .plain 'b' (by decide)]
  let right : Content :=
    .element [] (.named (.ofText "a") (some (.ofText "s")))
      (.skipped [] (.comment "lab".toList (by decide))
        (.element [] (.named (.ofText "wsGroups") (some (.ofText "s")))
          (.element [] (.named (.ofText "name")) (.text name)
            (.skipped [] (.empty (.named (.ofText "description"))) (.text [])))
          (.skipped [] (.empty (.named (.ofText "wsGroups"))) (.text []))))
      (.text [])
  have document : left.meaning.root? = some ("a", _) := rfl
  have same : left.meaning = right.meaning := by decide
  have apart : RecordsApart [] left.meaning := by decide
  have unbrokenLeft : IsUnbroken [] [] left := by decide
  have unbrokenRight : IsUnbroken [] [] right := by decide
  exact ⟨left, right, by decide, by decide, by simp [document], same, apart, unbrokenLeft,
    unbrokenRight, equivalent_answers_read_alike document same apart unbrokenLeft unbrokenRight⟩

/-- Answers that say the same need not be read alike: literal text is not heard, a comment in a text
lets the part behind it stand for the whole, a space written as a reference stays at the end of a
text, and an element without content ends the record of its kind that it stands in. -/
theorem equivalent_answers_read_differently :
    (Xml.tree? "<a><wsGroups><name>lab</name></wsGroups></a>" =
          Xml.tree? "<a><wsGroups><name><![CDATA[lab]]></name></wsGroups></a>" ∧
        Xml.isComplete "<a><wsGroups><name>lab</name></wsGroups></a>" = true ∧
        (read "<a><wsGroups><name>lab</name></wsGroups></a>").toOption.map named =
          some { groups := [{ name := "lab" }] } ∧
        (read "<a><wsGroups><name><![CDATA[lab]]></name></wsGroups></a>").toOption.map named =
          some {}) ∧
      (Xml.tree? "<a><wsGroups><name>lab</name></wsGroups></a>" =
          Xml.tree? "<a><wsGroups><name>la<!-- -->b</name></wsGroups></a>" ∧
        (read "<a><wsGroups><name>la<!-- -->b</name></wsGroups></a>").toOption.map named =
          some { groups := [{ name := "b" }] }) ∧
      (Xml.tree? "<a><wsGroups><name> lab</name></wsGroups></a>" =
          Xml.tree? "<a><wsGroups><name>&#32;lab</name></wsGroups></a>" ∧
        (read "<a><wsGroups><name> lab</name></wsGroups></a>").toOption.map named =
          some { groups := [{ name := "lab" }] } ∧
        (read "<a><wsGroups><name>&#32;lab</name></wsGroups></a>").toOption.map named =
          some { groups := [{ name := " lab" }] }) ∧
      (Xml.tree? "<a><wsGroups><name>lab</name><wsGroups/></wsGroups></a>" =
          Xml.tree? "<a><wsGroups><name>lab</name><wsGroups></wsGroups></wsGroups></a>" ∧
        (read "<a><wsGroups><name>lab</name><wsGroups/></wsGroups></a>").toOption.map named =
          some { groups := [{ name := "lab" }] } ∧
        (read "<a><wsGroups><name>lab</name><wsGroups></wsGroups></wsGroups></a>").toOption.map
          named = some {}) := by
  decide +kernel

end Results

end GroupFederation.Soap

/-! ## What is found in an answer -/

namespace GroupFederation.Provider.Grouper

open Soap (MembershipRecord Results)

theorem firstOfEach_filter {α : Type} (name : α → String) (seen : List String)
    (records : List α) :
    firstOfEach name seen (records.filter (name · != "")) = firstOfEach name seen records := by
  induction records generalizing seen with
  | nil => rfl
  | cons record records inductionHypothesis =>
      by_cases unnamed : name record = ""
      · rw [List.filter_cons_of_neg (by simp [unnamed]), inductionHypothesis, firstOfEach,
          unnamed]
        rfl
      · rw [List.filter_cons_of_pos (by simp [unnamed]), firstOfEach, firstOfEach]
        simp only [inductionHypothesis]

theorem roleIn_filter {name : String} (filled : name ≠ "") (memberships : List MembershipRecord) :
    roleIn (memberships.filter (·.groupName != "")) name = roleIn memberships name := by
  have same : (memberships.filter (·.groupName != "")).filter (·.groupName == name) =
      memberships.filter (·.groupName == name) := by
    rw [List.filter_filter]
    apply List.filter_congr
    intro record _
    by_cases isName : record.groupName = name
    · simp [isName, filled]
    · simp [isName]
  rw [roleIn, same, roleIn]

/-- Records without a name make no difference to the groups that are found. -/
theorem groupsOf_named (organization : String) (results : Results) :
    groupsOf organization results.named = groupsOf organization results := by
  rw [groupsOf, groupsOf, Results.named, firstOfEach_filter]
  apply List.map_congr_left
  intro record member
  rw [roleIn_filter (name_ne_empty_of_mem_firstOfEach member)]

/-- Nor to the members. -/
theorem membersOf_named (results : Results) : membersOf results.named = membersOf results := by
  rw [membersOf, membersOf, Results.named, firstOfEach_filter]

end GroupFederation.Provider.Grouper
