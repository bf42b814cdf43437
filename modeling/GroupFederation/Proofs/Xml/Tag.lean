import GroupFederation.Xml.Event
import Mathlib.Data.List.TakeWhile

/-!
# Tags

A tag begins with a name, which may stand behind the name of a namespace and a colon. Attributes
follow, each behind some space and with its value in quotes, within which a closing bracket does not
close the tag. Whatever the attributes are and wherever there is space, reading a tag gives its name
and ends where the tag does.
-/

namespace GroupFederation.Xml

/-! ## What a tag is made of -/

/-- Space, or none. -/
structure Blank where
  characters : List Char
  all_isSpace : ∀ character ∈ characters, isSpace character = true

namespace Blank

/-- No space. -/
def none : Blank :=
  ⟨[], by simp⟩

/-- A single space. -/
def one : Blank :=
  ⟨[' '], by simp [isSpace]⟩

end Blank

/-- Whether a name may contain the character. Names have no space and nothing that begins, divides
or ends markup. -/
def isNameCharacter (character : Char) : Bool :=
  !(isSpace character || ['<', '>', '/', '!', '?', '=', '"', '\'', ':', '&'].contains character)

/-- Whether a text is a name without a colon. -/
def IsName (text : List Char) : Prop :=
  text ≠ [] ∧ text.all isNameCharacter = true

instance (text : List Char) : Decidable (IsName text) :=
  inferInstanceAs (Decidable (_ ∧ _))

/-- A name without a colon. -/
structure Name where
  characters : List Char
  isName : IsName characters

/-- A text as a name. -/
def Name.ofText (text : String) (isName : IsName text.toList := by decide) : Name :=
  ⟨text.toList, isName⟩

/-- A name, which may belong to a namespace. -/
structure QualifiedName where
  qualifier : Option Name := none
  localName : Name

namespace QualifiedName

def written (name : QualifiedName) : List Char :=
  match name.qualifier with
  | some qualifier => qualifier.characters ++ ':' :: name.localName.characters
  | none => name.localName.characters

end QualifiedName

/-- The marks between which a value stands. -/
inductive Quote where
  | single
  | double
  deriving DecidableEq, Repr

def Quote.mark : Quote → Char
  | .single => '\''
  | .double => '"'

/-- An attribute with the space in front of it and around its equals sign. -/
structure Attribute where
  before : Blank := .one
  before_ne_nil : before.characters ≠ [] := by decide
  name : QualifiedName
  beforeEquals : Blank := .none
  behindEquals : Blank := .none
  quote : Quote := .double
  value : List Char
  mark_not_mem : quote.mark ∉ value

namespace Attribute

/-- The value between its marks. -/
def quoted (entry : Attribute) : List Char :=
  entry.quote.mark :: (entry.value ++ [entry.quote.mark])

def written (entry : Attribute) : List Char :=
  entry.before.characters ++ (entry.name.written ++ (entry.beforeEquals.characters ++
    '=' :: (entry.behindEquals.characters ++ entry.quoted)))

end Attribute

/-- What an element is opened and closed with. -/
structure Tag where
  name : QualifiedName
  attributes : List Attribute := []
  /-- The space at the end of the opening tag. -/
  behind : Blank := .none
  /-- The space at the end of the closing tag. -/
  behindEnd : Blank := .none

namespace Tag

/-- What stands between the brackets of the opening tag. -/
def opening (tag : Tag) : List Char :=
  tag.name.written ++ (tag.attributes.flatMap Attribute.written ++ tag.behind.characters)

/-- What stands behind the slash of the closing tag. -/
def closing (tag : Tag) : List Char :=
  tag.name.written ++ tag.behindEnd.characters

/-- The name by which the element is known. -/
def localName (tag : Tag) : String :=
  String.ofList tag.name.localName.characters

/-- The tag of an element by its name. -/
def named (name : Name) (qualifier : Option Name := none) (attributes : List Attribute := []) :
    Tag :=
  { name := { qualifier, localName := name }, attributes }

theorem localName_named_ofText {text : String} (isName : IsName text.toList)
    (qualifier : Option Name) (attributes : List Attribute) :
    (named (.ofText text isName) qualifier attributes).localName = text :=
  String.ofList_toList

end Tag

/-! ## Names -/

theorem isNameCharacter_iff {character : Char} :
    isNameCharacter character = true ↔ isSpace character = false ∧
      character ∉ ['<', '>', '/', '!', '?', '=', '"', '\'', ':', '&'] := by
  simp [isNameCharacter]

theorem Name.all_isNameCharacter (name : Name) :
    ∀ character ∈ name.characters, isNameCharacter character = true :=
  List.all_eq_true.mp name.isName.2

namespace QualifiedName

/-- What stands in a name: characters of names, and a colon. -/
theorem of_mem_written {name : QualifiedName} {character : Char}
    (member : character ∈ name.written) :
    isNameCharacter character = true ∨ character = ':' := by
  unfold written at member
  cases found : name.qualifier with
  | none =>
      rw [found] at member
      exact .inl (name.localName.all_isNameCharacter character member)
  | some qualifier =>
      rw [found] at member
      rcases List.mem_append.mp member with inQualifier | member
      · exact .inl (qualifier.all_isNameCharacter character inQualifier)
      · rcases List.mem_cons.mp member with isColon | inLocalName
        · exact .inr isColon
        · exact .inl (name.localName.all_isNameCharacter character inLocalName)

/-- A name begins with a character of names. -/
theorem exists_written_eq_cons (name : QualifiedName) :
    ∃ first rest, name.written = first :: rest ∧ isNameCharacter first = true := by
  have nonempty (name : Name) : ∃ first rest, name.characters = first :: rest ∧
      isNameCharacter first = true := by
    obtain ⟨first, rest, same⟩ := List.exists_cons_of_ne_nil name.isName.1
    exact ⟨first, rest, same, name.all_isNameCharacter first (by rw [same]; exact .head _)⟩
  unfold written
  cases name.qualifier with
  | none => exact nonempty name.localName
  | some qualifier =>
      obtain ⟨first, rest, same, isName⟩ := nonempty qualifier
      exact ⟨first, rest ++ ':' :: name.localName.characters, by simp only [same]; rfl, isName⟩

theorem isSpace_of_mem_written {name : QualifiedName} {character : Char}
    (member : character ∈ name.written) : isSpace character = false := by
  rcases of_mem_written member with isName | rfl
  · exact (isNameCharacter_iff.mp isName).1
  · decide

/-- The name of a namespace is passed over. -/
theorem localName_written (name : QualifiedName) :
    Xml.localName name.written = String.ofList name.localName.characters := by
  have noColon (name : Name) : ':' ∉ name.characters := by
    intro member
    have isName := name.all_isNameCharacter ':' member
    revert isName
    decide
  unfold Xml.localName written
  cases name.qualifier with
  | none =>
      have whole : ∀ character ∈ name.localName.characters, (character != ':') = true := by
        intro character member
        simpa using fun same : character = ':' => noColon name.localName (same ▸ member)
      have cut : Text.cutAt ':' name.localName.characters = (name.localName.characters, none) := by
        rw [Text.cutAt, List.takeWhile_eq_self_iff.mpr whole, List.dropWhile_eq_nil_iff.mpr whole]
      rw [cut]
  | some qualifier => rw [Text.cutAt_eq_some_iff.mpr ⟨rfl, noColon qualifier⟩]

end QualifiedName

/-! ## Reading a tag -/

/-- Reading a tag goes on behind a text that does not close it. -/
def Passes (text : List Char) : Prop :=
  ∀ rest, readTag none (text ++ rest) =
    (readTag none rest).map fun (content, rest) => (text ++ content, rest)

theorem Passes.append {former latter : List Char} (passesFormer : Passes former)
    (passesLatter : Passes latter) : Passes (former ++ latter) := by
  intro rest
  rw [List.append_assoc, passesFormer, passesLatter, Option.map_map]
  simp [Function.comp_def]

theorem passes_nil : Passes [] := by
  intro rest
  simp

/-- Without quotes only a closing bracket closes a tag. -/
theorem passes_of_plain {text : List Char}
    (plain : ∀ character ∈ text, character ∉ ['>', '"', '\'']) : Passes text := by
  induction text with
  | nil => exact passes_nil
  | cons character text inductionHypothesis =>
      intro rest
      have notSpecial := plain character List.mem_cons_self
      simp only [List.mem_cons, List.not_mem_nil, or_false, not_or] at notSpecial
      have passes := inductionHypothesis fun other member =>
        plain other (List.mem_cons_of_mem _ member)
      rw [List.cons_append, readTag]
      simp only [notSpecial, if_false, or_self]
      rw [passes, Option.map_map]
      rfl

/-- Between two quotes of a kind nothing closes a tag. -/
theorem passes_quoted {quote : Quote} {value : List Char} (absent : quote.mark ∉ value) :
    Passes (quote.mark :: (value ++ [quote.mark])) := by
  have inside (value : List Char) (absent : quote.mark ∉ value) (rest : List Char) :
      readTag (some quote.mark) (value ++ quote.mark :: rest) =
        (readTag none rest).map fun (content, rest) =>
          (value ++ quote.mark :: content, rest) := by
    induction value with
    | nil =>
        rw [List.nil_append, readTag]
        simp only [if_true]
        rfl
    | cons character value inductionHypothesis =>
        obtain ⟨differs, absent⟩ := not_or.mp (List.mem_cons.not.mp absent)
        rw [List.cons_append, readTag]
        simp only [Ne.symm differs, if_false]
        rw [inductionHypothesis absent, Option.map_map]
        rfl
  intro rest
  have opens : readTag none (quote.mark :: (value ++ quote.mark :: rest)) =
      (readTag (some quote.mark) (value ++ quote.mark :: rest)).map fun (content, rest) =>
        (quote.mark :: content, rest) := by
    cases quote <;> rfl
  rw [List.cons_append, List.append_assoc, List.singleton_append, opens, inside value absent,
    Option.map_map]
  simp [Function.comp_def]

/-- A text that does not close a tag is its content when a bracket follows. -/
theorem Passes.readTag_eq {text : List Char} (passes : Passes text) (rest : List Char) :
    readTag none (text ++ '>' :: rest) = some (text, rest) := by
  rw [passes, readTag]
  simp

namespace QualifiedName

theorem passes_written (name : QualifiedName) : Passes name.written := by
  have noName : ∀ character ∈ ['>', '"', '\''],
      isNameCharacter character = false ∧ character ≠ ':' := by
    simp [isNameCharacter]
  apply passes_of_plain
  intro character member special
  obtain ⟨notName, notColon⟩ := noName character special
  rcases of_mem_written member with isName | isColon
  · rw [notName] at isName
    cases isName
  · exact notColon isColon

end QualifiedName

theorem Blank.passes (blank : Blank) : Passes blank.characters := by
  have noSpace : ∀ character ∈ ['>', '"', '\''], isSpace character = false := by
    simp [isSpace]
  apply passes_of_plain
  intro character member special
  have space := blank.all_isSpace character member
  rw [noSpace character special] at space
  cases space

theorem Attribute.passes_written (entry : Attribute) : Passes entry.written := by
  have equals : Passes ['='] := passes_of_plain (by simp)
  exact entry.before.passes.append (entry.name.passes_written.append
    (entry.beforeEquals.passes.append (equals.append
      (entry.behindEquals.passes.append (passes_quoted entry.mark_not_mem)))))

namespace Tag

theorem passes_opening (tag : Tag) : Passes tag.opening := by
  have attributes (entries : List Attribute) : Passes (entries.flatMap Attribute.written) := by
    induction entries with
    | nil => exact passes_nil
    | cons entry entries inductionHypothesis =>
        rw [List.flatMap_cons]
        exact entry.passes_written.append inductionHypothesis
  exact tag.name.passes_written.append ((attributes tag.attributes).append tag.behind.passes)

theorem passes_closing (tag : Tag) : Passes tag.closing :=
  tag.name.passes_written.append tag.behindEnd.passes

/-- Behind the name there is nothing or space. -/
theorem isSpace_of_head?_behind_name (tag : Tag) : ∀ character ∈
    (tag.attributes.flatMap Attribute.written ++ tag.behind.characters).head?,
      isSpace character = true := by
  intro character first
  cases attributes : tag.attributes with
  | nil =>
      rw [attributes, List.flatMap_nil, List.nil_append] at first
      exact tag.behind.all_isSpace character (List.mem_of_mem_head? first)
  | cons entry entries =>
      obtain ⟨space, spaces, same⟩ := List.exists_cons_of_ne_nil entry.before_ne_nil
      rw [attributes, List.flatMap_cons, Attribute.written, same] at first
      obtain rfl : space = character := Option.some.inj first
      exact entry.before.all_isSpace space (by rw [same]; exact .head _)

/-- The name of an element is found at the beginning of its tag. -/
theorem tagName_opening (tag : Tag) : tagName tag.opening = tag.name.written := by
  have inName : ∀ character ∈ tag.name.written, (!isSpace character) = true := by
    intro character member
    rw [QualifiedName.isSpace_of_mem_written member]
    rfl
  rw [tagName, opening, List.takeWhile_append_of_pos inName]
  have behind := tag.isSpace_of_head?_behind_name
  cases others : tag.attributes.flatMap Attribute.written ++ tag.behind.characters with
  | nil => simp
  | cons space rest =>
      rw [others] at behind
      rw [List.takeWhile_cons_of_neg (by simp [behind space rfl]), List.append_nil]

/-- Space at the end of a closing tag does not count. -/
theorem dropEndWhile_closing (tag : Tag) :
    Text.dropEndWhile isSpace tag.closing = tag.name.written := by
  have blank : ∀ character ∈ tag.behindEnd.characters.reverse, isSpace character = true := by
    intro character member
    exact tag.behindEnd.all_isSpace character (List.mem_reverse.mp member)
  have stays : tag.name.written.reverse.dropWhile isSpace = tag.name.written.reverse := by
    cases same : tag.name.written.reverse with
    | nil => rfl
    | cons last rest =>
        have member : last ∈ tag.name.written := by
          rw [← List.mem_reverse, same]
          exact .head _
        exact List.dropWhile_cons_of_neg (by simp [QualifiedName.isSpace_of_mem_written member])
  rw [Text.dropEndWhile, closing, List.reverse_append, List.dropWhile_append_of_pos blank, stays,
    List.reverse_reverse]

/-- An opening tag does not look like an empty element. -/
theorem getLast?_opening (tag : Tag) : tag.opening.getLast? ≠ some '/' := by
  have append {former latter : List Char} (left : former.getLast? ≠ some '/')
      (right : latter.getLast? ≠ some '/') : (former ++ latter).getLast? ≠ some '/' := by
    rw [List.getLast?_append]
    cases last : latter.getLast? with
    | none => exact left
    | some character => rwa [last] at right
  have attributes (entries : List Attribute) :
      (entries.flatMap Attribute.written).getLast? ≠ some '/' := by
    induction entries with
    | nil => simp
    | cons entry entries inductionHypothesis =>
        rw [List.flatMap_cons]
        refine append ?_ inductionHypothesis
        have last : entry.written.getLast? = some entry.quote.mark := by
          simp [Attribute.written, Attribute.quoted, List.getLast?_append, List.getLast?_cons]
        rw [last]
        cases entry.quote <;> decide
  refine append ?_ (append (attributes tag.attributes) ?_)
  · intro last
    rcases QualifiedName.of_mem_written (List.mem_of_getLast? last) with isName | isColon
    · exact absurd isName (by decide)
    · exact absurd isColon (by decide)
  · intro last
    exact absurd (tag.behind.all_isSpace '/' (List.mem_of_getLast? last)) (by decide)

/-! ## Reading markup -/

/-- Markup that begins with the name of an element opens it, unless it ends with a slash. -/
theorem readMarkup_of_opening (tag : Tag) (behind : List Char) :
    readMarkup (tag.opening ++ behind) =
      (readTag none (tag.opening ++ behind)).map fun (content, rest) =>
        (if content.getLast? = some '/' then .skipped else .opening content, rest) := by
  obtain ⟨first, others, same, isName⟩ := tag.name.exists_written_eq_cons
  rw [opening, same, List.cons_append, List.cons_append]
  unfold readMarkup
  split
  · next none => cases none
  · next declaration => cases declaration; cases isName
  · next instruction => cases instruction; cases isName
  · next closing => cases closing; cases isName
  · rfl

theorem readMarkup_opening (tag : Tag) (rest : List Char) :
    readMarkup (tag.opening ++ '>' :: rest) = some (.opening tag.opening, rest) := by
  rw [readMarkup_of_opening, tag.passes_opening.readTag_eq]
  simp [tag.getLast?_opening]

theorem readMarkup_empty (tag : Tag) (rest : List Char) :
    readMarkup (tag.opening ++ '/' :: '>' :: rest) = some (.skipped, rest) := by
  have passes : Passes (tag.opening ++ ['/']) :=
    tag.passes_opening.append (passes_of_plain (by simp))
  have split : tag.opening ++ '/' :: '>' :: rest = (tag.opening ++ ['/']) ++ '>' :: rest := by
    simp
  rw [readMarkup_of_opening, split, passes.readTag_eq]
  simp

theorem readMarkup_closing (tag : Tag) (rest : List Char) :
    readMarkup ('/' :: (tag.closing ++ '>' :: rest)) = some (.closing tag.closing, rest) := by
  rw [readMarkup, tag.passes_closing.readTag_eq]
  rfl

end Tag

end GroupFederation.Xml
