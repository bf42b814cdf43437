import GroupFederation.Xml.Event
import Mathlib.Tactic.SplitIfs

/-!
# Character data and what it stands for

A text is written as character data letter by letter. A letter stands for one character: it is the
character itself, unless markup or a reference begins with it, or one of the five names, or a
reference to the number of the character. Reading gives back what the letters stand for, and the
space around a text is made of letters as well.
-/

namespace GroupFederation.Xml

/-! ## Letters -/

/-- The characters that have names. -/
inductive Entity where
  | less
  | greater
  | ampersand
  | apostrophe
  | quote
  deriving DecidableEq, Repr

namespace Entity

def name : Entity → List Char
  | .less => ['l', 't']
  | .greater => ['g', 't']
  | .ampersand => ['a', 'm', 'p']
  | .apostrophe => ['a', 'p', 'o', 's']
  | .quote => ['q', 'u', 'o', 't']

def character : Entity → Char
  | .less => '<'
  | .greater => '>'
  | .ampersand => '&'
  | .apostrophe => '\''
  | .quote => '"'

end Entity

/-- The ways to write the number of a character. -/
inductive Radix where
  | decimal
  | hexadecimal
  deriving DecidableEq, Repr

namespace Radix

def base : Radix → Nat
  | .decimal => 10
  | .hexadecimal => 16

/-- What stands in front of the digits. -/
def mark : Radix → List Char
  | .decimal => []
  | .hexadecimal => ['x']

theorem base_le (radix : Radix) : radix.base ≤ 16 := by
  cases radix <;> decide

end Radix

/-- A digit, which may be a capital letter. -/
structure Digit (radix : Radix) where
  value : Fin radix.base
  isCapital : Bool := false
  deriving DecidableEq, Repr

namespace Digit

variable {radix : Radix}

def written (digit : Digit radix) : Char :=
  let character := Nat.digitChar digit.value
  if digit.isCapital then character.toUpper else character

/-- The number that digits stand for. -/
def number (digits : List (Digit radix)) : Nat :=
  digits.foldl (fun number digit => number * radix.base + digit.value) 0

end Digit

/-- A reference to a character by its number. -/
structure Numeral where
  radix : Radix
  digits : List (Digit radix)
  character : Char
  digits_ne_nil : digits ≠ []
  character_ne_zero : character ≠ '\x00'
  number_eq : Digit.number digits = character.toNat

/-- What stands between the ampersand and the semicolon. -/
def Numeral.name (numeral : Numeral) : List Char :=
  '#' :: (numeral.radix.mark ++ numeral.digits.map Digit.written)

/-- How a single character is written. -/
inductive Letter where
  | plain (character : Char) (isPlain : character ≠ '<' ∧ character ≠ '&')
  | named (entity : Entity)
  | numbered (numeral : Numeral)

namespace Letter

/-- A name between an ampersand and a semicolon. -/
def reference (name : List Char) : List Char :=
  '&' :: (name ++ [';'])

def written : Letter → List Char
  | .plain character _ => [character]
  | .named entity => reference entity.name
  | .numbered numeral => reference numeral.name

/-- The character that a letter stands for. -/
def character : Letter → Char
  | .plain character _ => character
  | .named entity => entity.character
  | .numbered numeral => numeral.character

end Letter

/-! ## Reading letters -/

theorem Digit.hexValue?_written {radix : Radix} (digit : Digit radix) :
    Json.hexValue? digit.written = some digit.value.val := by
  have all : ∀ (value : Fin 16) (isCapital : Bool),
      Json.hexValue? (⟨value, isCapital⟩ : Digit .hexadecimal).written = some value.val := by
    decide
  exact all ⟨digit.value, Nat.lt_of_lt_of_le digit.value.isLt radix.base_le⟩ digit.isCapital

/-- Digits are read as the number that they stand for. -/
theorem readNumber?_written {radix : Radix} {digits : List (Digit radix)} (filled : digits ≠ []) :
    readNumber? radix.base (digits.map Digit.written) = some (Digit.number digits) := by
  have general (start : Nat) : (digits.map Digit.written).foldlM (fun number digit => do
        let value ← Json.hexValue? digit
        if value < radix.base then some (number * radix.base + value) else none) start =
      some (digits.foldl (fun number digit => number * radix.base + digit.value) start) := by
    clear filled
    induction digits generalizing start with
    | nil => rfl
    | cons digit digits inductionHypothesis =>
        rw [List.map_cons, List.foldlM_cons, digit.hexValue?_written, List.foldl_cons]
        simpa using inductionHypothesis (start * radix.base + digit.value)
  rw [readNumber?, if_neg (by simpa using filled)]
  exact general 0

/-- A character is found by its number. -/
theorem charOfNumber?_toNat {character : Char} (nonzero : character ≠ '\x00') :
    charOfNumber? character.toNat = some character := by
  have positive : character.toNat ≠ 0 := by
    intro zero
    exact nonzero (Char.toNat_inj.mp zero)
  have valid : character.toNat < 0xD800 ∨ (0xDFFF < character.toNat ∧ character.toNat < 0x110000) :=
    character.valid
  rw [charOfNumber?, if_neg positive, if_pos valid, Char.ofNat_toNat]

theorem entity?_name (entity : Entity) : entity? entity.name = some entity.character := by
  cases entity <;> rfl

/-- No digit is taken for the mark of the other base. -/
theorem Digit.written_ne_mark (digit : Digit .decimal) : digit.written ≠ 'x' := by
  have all : ∀ (value : Fin 10) (isCapital : Bool),
      (⟨value, isCapital⟩ : Digit .decimal).written ≠ 'x' := by
    decide
  exact all digit.value digit.isCapital

theorem entity?_numeral (numeral : Numeral) :
    entity? numeral.name = some numeral.character := by
  have found : (readNumber? numeral.radix.base (numeral.digits.map Digit.written)).bind
      charOfNumber? = some numeral.character := by
    rw [readNumber?_written numeral.digits_ne_nil, numeral.number_eq]
    exact charOfNumber?_toNat numeral.character_ne_zero
  obtain ⟨radix, digits, character, filled, nonzero, same⟩ := numeral
  cases radix with
  | hexadecimal => exact found
  | decimal =>
      cases digits with
      | nil => exact absurd rfl filled
      | cons digit digits =>
          have noMark := digit.written_ne_mark
          rw [← found]
          simp only [Numeral.name, Radix.mark, List.nil_append, List.map_cons, entity?]
          split <;> simp_all [Radix.base]

/-- Characters that neither end a reference nor begin another one or markup. -/
def IsClosed (name : List Char) : Prop :=
  ∀ character ∈ name, character ≠ ';' ∧ character ≠ '&' ∧ character ≠ '<'

theorem Entity.isClosed_name (entity : Entity) : IsClosed entity.name := by
  cases entity <;> simp [IsClosed, Entity.name]

theorem Digit.isClosed_written {radix : Radix} (digit : Digit radix) :
    digit.written ≠ ';' ∧ digit.written ≠ '&' ∧ digit.written ≠ '<' := by
  have all : ∀ (value : Fin 16) (isCapital : Bool),
      let written := (⟨value, isCapital⟩ : Digit .hexadecimal).written
      written ≠ ';' ∧ written ≠ '&' ∧ written ≠ '<' := by
    decide
  exact all ⟨digit.value, Nat.lt_of_lt_of_le digit.value.isLt radix.base_le⟩ digit.isCapital

theorem Radix.isClosed_mark (radix : Radix) : IsClosed radix.mark := by
  cases radix <;> simp [IsClosed, Radix.mark]

theorem Numeral.isClosed_name (numeral : Numeral) : IsClosed numeral.name := by
  intro character member
  rcases List.mem_cons.mp member with rfl | member
  · decide
  · rcases List.mem_append.mp member with inMark | inDigits
    · exact numeral.radix.isClosed_mark character inMark
    · obtain ⟨digit, -, rfl⟩ := List.mem_map.mp inDigits
      exact digit.isClosed_written

/-- Within a reference, the name is read up to the semicolon. -/
theorem unescapeFrom_name {name : List Char} (closed : IsClosed name) (before rest : List Char) :
    unescapeFrom (some before) (name ++ ';' :: rest) =
      (entity? (before.reverse ++ name)).bind fun meant =>
        (unescapeFrom none rest).map (meant :: ·) := by
  induction name generalizing before with
  | nil =>
      rw [List.nil_append, List.append_nil, unescapeFrom, if_pos rfl]
      cases entity? before.reverse with
      | none => rfl
      | some meant => cases unescapeFrom none rest <;> rfl
  | cons character name inductionHypothesis =>
      obtain ⟨noEnd, noStart, -⟩ := closed character List.mem_cons_self
      rw [List.cons_append, unescapeFrom, if_neg noEnd, if_neg noStart,
        inductionHypothesis fun other member => closed other (List.mem_cons_of_mem _ member)]
      simp

/-- A reference stands for what its name means. -/
theorem unescapeFrom_reference {name : List Char} {meant : Char} (closed : IsClosed name)
    (means : entity? name = some meant) (rest : List Char) :
    unescapeFrom none (Letter.reference name ++ rest) =
      (unescapeFrom none rest).map (meant :: ·) := by
  rw [Letter.reference, List.cons_append, unescapeFrom, if_pos rfl, List.append_assoc,
    List.singleton_append, unescapeFrom_name closed, List.reverse_nil, List.nil_append, means,
    Option.bind_some]

/-- A letter is read as the character that it stands for. -/
theorem unescapeFrom_written (letter : Letter) (rest : List Char) :
    unescapeFrom none (letter.written ++ rest) =
      (unescapeFrom none rest).map (letter.character :: ·) := by
  cases letter with
  | plain character isPlain =>
      rw [Letter.written, List.singleton_append, unescapeFrom, if_neg isPlain.2]
      rfl
  | named entity => exact unescapeFrom_reference entity.isClosed_name (entity?_name entity) rest
  | numbered numeral =>
      exact unescapeFrom_reference numeral.isClosed_name (entity?_numeral numeral) rest

/-! ## Texts -/

/-- A text as it is written, letter by letter. -/
abbrev CharacterData := List Letter

namespace CharacterData

def written (data : CharacterData) : List Char :=
  data.flatMap Letter.written

/-- The text that the letters stand for. -/
def meaning (data : CharacterData) : List Char :=
  data.map Letter.character

theorem unescape?_written (data : CharacterData) : unescape? data.written = some data.meaning := by
  rw [unescape?]
  induction data with
  | nil => rfl
  | cons letter data inductionHypothesis =>
      rw [written, List.flatMap_cons, unescapeFrom_written]
      rw [written] at inductionHypothesis
      rw [inductionHypothesis]
      rfl

/-- Every letter is written with a character at least. -/
theorem written_eq_nil_iff (data : CharacterData) : data.written = [] ↔ data = [] := by
  constructor
  · intro nothing
    cases data with
    | nil => rfl
    | cons letter data =>
        have read := unescapeFrom_written letter []
        rw [(List.append_eq_nil_iff.mp nothing).1] at read
        cases read
  · rintro rfl
    rfl

/-- No markup begins within a text. -/
theorem bracket_not_mem_written (data : CharacterData) : '<' ∉ data.written := by
  intro member
  obtain ⟨letter, -, member⟩ := List.mem_flatMap.mp member
  have reference {name : List Char} (closed : IsClosed name) : '<' ∉ Letter.reference name := by
    intro member
    rcases List.mem_cons.mp member with isStart | member
    · exact absurd isStart (by decide)
    · rcases List.mem_append.mp member with inName | isEnd
      · exact (closed '<' inName).2.2 rfl
      · exact absurd (List.mem_singleton.mp isEnd) (by decide)
  cases letter with
  | plain character isPlain => exact isPlain.1 (List.mem_singleton.mp member).symm
  | named entity => exact reference entity.isClosed_name member
  | numbered numeral => exact reference numeral.isClosed_name member

end CharacterData

/-! ## Space around a text -/

/-- Whether a letter is space that does not count at the ends of a text. -/
def Letter.isSpace : Letter → Bool
  | .plain character _ => Xml.isSpace character
  | _ => false

/-- A space that does not count stands for itself. -/
theorem Letter.isSpace_character {letter : Letter} (isSpace : letter.isSpace = true) :
    Xml.isSpace letter.character = true := by
  cases letter with
  | plain character _ => exact isSpace
  | named entity => cases isSpace
  | numbered numeral => cases isSpace

/-- Dropping space from the front of a text drops the letters that are space. -/
theorem dropWhile_flatMap {write : Letter → List Char}
    (space : ∀ letter, letter.isSpace = true →
      ∃ character, write letter = [character] ∧ isSpace character = true)
    (other : ∀ letter, letter.isSpace = false →
      ∃ first rest, write letter = first :: rest ∧ isSpace first = false)
    (data : CharacterData) :
    (data.flatMap write).dropWhile isSpace = (data.dropWhile Letter.isSpace).flatMap write := by
  induction data with
  | nil => rfl
  | cons letter data inductionHypothesis =>
      cases isSpace : letter.isSpace with
      | true =>
          obtain ⟨character, written, counts⟩ := space letter isSpace
          rw [List.flatMap_cons, written, List.singleton_append, List.dropWhile_cons_of_pos counts,
            List.dropWhile_cons_of_pos isSpace, inductionHypothesis]
      | false =>
          obtain ⟨first, rest, written, counts⟩ := other letter isSpace
          rw [List.flatMap_cons, written, List.cons_append,
            List.dropWhile_cons_of_neg (by simp [counts]),
            List.dropWhile_cons_of_neg (by simp [isSpace]), List.flatMap_cons, written,
            List.cons_append]

theorem Letter.written_of_isSpace {letter : Letter} (isSpace : letter.isSpace = true) :
    ∃ character, letter.written = [character] ∧ Xml.isSpace character = true := by
  cases letter with
  | plain character _ => exact ⟨character, rfl, isSpace⟩
  | named entity => cases isSpace
  | numbered numeral => cases isSpace

/-- A letter that is no space begins and ends with a character that is none. -/
theorem Letter.written_of_not_isSpace {letter : Letter} (isSpace : letter.isSpace = false) :
    (∃ first rest, letter.written = first :: rest ∧ Xml.isSpace first = false) ∧
      ∃ last rest, letter.written.reverse = last :: rest ∧ Xml.isSpace last = false := by
  have reference (name : List Char) :
      (∃ first rest, Letter.reference name = first :: rest ∧ Xml.isSpace first = false) ∧
        ∃ last rest, (Letter.reference name).reverse = last :: rest ∧ Xml.isSpace last = false :=
    ⟨⟨'&', name ++ [';'], rfl, by decide⟩, ';', ('&' :: name).reverse, by simp [Letter.reference],
      by decide⟩
  cases letter with
  | plain character _ => exact ⟨⟨character, [], rfl, isSpace⟩, character, [], rfl, isSpace⟩
  | named entity => exact reference _
  | numbered numeral => exact reference _

namespace CharacterData

/-- The text without the space around it. -/
def trimmed (data : CharacterData) : CharacterData :=
  ((data.dropWhile Letter.isSpace).reverse.dropWhile Letter.isSpace).reverse

theorem trimmed_written (data : CharacterData) :
    Xml.trimmed data.written = data.trimmed.written := by
  have front (data : CharacterData) :
      data.written.dropWhile isSpace = CharacterData.written (data.dropWhile Letter.isSpace) :=
    dropWhile_flatMap (fun _ isSpace => Letter.written_of_isSpace isSpace)
      (fun _ isSpace => (Letter.written_of_not_isSpace isSpace).1) data
  have back (data : CharacterData) :
      data.written.reverse.dropWhile isSpace =
        (data.reverse.dropWhile Letter.isSpace).flatMap fun letter => letter.written.reverse := by
    rw [written, List.reverse_flatMap]
    refine dropWhile_flatMap (fun letter isSpace => ?_)
      (fun _ isSpace => (Letter.written_of_not_isSpace isSpace).2) data.reverse
    obtain ⟨character, written, counts⟩ := Letter.written_of_isSpace isSpace
    exact ⟨character, by rw [written, List.reverse_singleton], counts⟩
  rw [Xml.trimmed, Text.dropEndWhile, front, back, List.reverse_flatMap]
  simp [trimmed, written, Function.comp_def]

/-- Whether a value is written as this text, with no space around it that would not count. -/
structure Writes (data : CharacterData) (value : String) : Prop where
  meaning_eq : data.meaning = value.toList
  ne_nil : data ≠ []
  noSpaceBefore : ∀ letter ∈ data.head?, letter.isSpace = false
  noSpaceBehind : ∀ letter ∈ data.getLast?, letter.isSpace = false

theorem Writes.trimmed_eq {data : CharacterData} {value : String} (writes : data.Writes value) :
    data.trimmed = data := by
  have stays (data : CharacterData) (noSpace : ∀ letter ∈ data.head?, letter.isSpace = false) :
      data.dropWhile Letter.isSpace = data := by
    cases data with
    | nil => rfl
    | cons letter data =>
        exact List.dropWhile_cons_of_neg (by simp [noSpace letter rfl])
  rw [trimmed, stays data writes.noSpaceBefore, stays data.reverse, List.reverse_reverse]
  rw [List.head?_reverse]
  exact writes.noSpaceBehind

/-- Whether a text is not empty and neither begins nor ends with space. -/
def IsTight (value : String) : Prop :=
  value ≠ "" ∧ value.toList.head?.any isSpace = false ∧ value.toList.getLast?.any isSpace = false

instance (value : String) : Decidable (IsTight value) :=
  inferInstanceAs (Decidable (_ ∧ _ ∧ _))

/-- A value that neither begins nor ends with space may be written with any letters that stand for
its characters. -/
theorem writes_of_meaning {data : CharacterData} {value : String}
    (meaning_eq : data.meaning = value.toList) (tight : IsTight value) : data.Writes value := by
  obtain ⟨filled, noSpaceBefore, noSpaceBehind⟩ := tight
  rw [← meaning_eq] at noSpaceBefore noSpaceBehind
  have counts {letter : Letter} {letters : Option Letter}
      (noSpace : (letters.map Letter.character).any isSpace = false) (member : letter ∈ letters) :
      letter.isSpace = false := by
    cases isSpace : letter.isSpace with
    | false => rfl
    | true =>
        obtain rfl : letters = some letter := member
        exact absurd (letter.isSpace_character isSpace) (Bool.eq_false_iff.mp noSpace)
  constructor
  · exact meaning_eq
  · rintro rfl
    exact filled (String.toList_inj.mp meaning_eq.symm)
  · intro letter first
    rw [meaning, List.head?_map] at noSpaceBefore
    exact counts noSpaceBefore first
  · intro letter last
    rw [meaning, List.getLast?_map] at noSpaceBehind
    exact counts noSpaceBehind last

/-- The shortest writing of a text, in which only the five characters with a name have one. -/
def ofText (text : List Char) : CharacterData :=
  text.map fun character =>
    if less : character = '<' then .named .less
    else if ampersand : character = '&' then .named .ampersand
    else if character = '>' then .named .greater
    else if character = '\'' then .named .apostrophe
    else if character = '"' then .named .quote
    else .plain character ⟨less, ampersand⟩

theorem meaning_ofText (text : List Char) : (ofText text).meaning = text := by
  rw [meaning, ofText, List.map_map]
  refine List.map_id'' (fun character => ?_) text
  simp only [Function.comp_apply]
  split_ifs <;> simp_all [Letter.character, Entity.character]

/-- A text can be written. -/
theorem writes_ofText {value : String} (tight : IsTight value) :
    (ofText value.toList).Writes value :=
  writes_of_meaning (meaning_ofText value.toList) tight

end CharacterData

end GroupFederation.Xml
