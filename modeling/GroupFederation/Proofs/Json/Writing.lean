import GroupFederation.Json.Printer
import GroupFederation.Proofs.Json.Reading

/-!
# Reading what was written

A value without numbers whose strings are texts is found again when its own text is read. A string
may hold any character: what is escaped when it is written, in its short form or by its code, is the
same character when it is read.
-/

namespace GroupFederation.Json

/-! ## Strings -/

section Strings

variable {character : Char} {source rest : Source}

/-- A unit in front that stands for a character on its own. -/
theorem readLiteral_of_unit (unit : Unit16)
    (front : readUnits source = (readUnits rest).map fun (units, rest) => (unit :: units, rest))
    (single : ∀ units, joinUnits (unit :: units) = some character :: joinUnits units) :
    readLiteral source =
      (readLiteral rest).map fun (literal, rest) => (some character :: literal, rest) := by
  rw [readLiteral, front, readLiteral, Option.map_map, Option.map_map]
  refine congrArg (Option.map · (readUnits rest)) (funext fun found => ?_)
  exact congrArg (·, found.2) (single found.1)

theorem readLiteral_shortEscape {letter : Char} (escape : shortEscape? letter = some character) :
    readLiteral (some '\\' :: some letter :: rest) =
      (readLiteral rest).map fun (literal, rest) => (some character :: literal, rest) := by
  have noCode : letter ≠ 'u' := by
    rintro rfl
    cases escape
  refine readLiteral_of_unit (.plain (some character)) ?_ fun _ => rfl
  rw [readUnits, escape]
  · cases readUnits rest <;> rfl
  · exact fun _ _ _ _ _ _ => noCode

theorem readLiteral_plain (noQuote : character ≠ '"') (noEscape : character ≠ '\\')
    (visible : ¬character.toNat < 0x20) :
    readLiteral (some character :: rest) =
      (readLiteral rest).map fun (literal, rest) => (some character :: literal, rest) := by
  refine readLiteral_of_unit (.plain (some character)) ?_ fun _ => rfl
  rw [readUnits, if_neg (by simp [visible, noEscape])]
  · exact noQuote
  · exact fun _ _ _ _ _ _ => noEscape
  · exact fun _ _ _ => noEscape

/-- The code of a control character is written with two zeros and two digits. -/
theorem paddedHex_of_lt : ∀ code < 0x20, ∃ high low : Char,
    Text.paddedHex 4 code = ['0', '0', high, low] ∧ ∃ first second : Nat,
      hexValue? high = some first ∧ hexValue? low = some second ∧ first * 16 + second = code := by
  have written : ∀ code < 0x20,
      Text.paddedHex 4 code = ['0', '0', (code / 16).digitChar, (code % 16).digitChar] ∧
        hexValue? (code / 16).digitChar = some (code / 16) ∧
        hexValue? (code % 16).digitChar = some (code % 16) := by
    decide
  intro code control
  obtain ⟨digits, high, low⟩ := written code control
  exact ⟨_, _, digits, _, _, high, low, by omega⟩

theorem readLiteral_codeEscape (control : character.toNat < 0x20) :
    readLiteral ((['\\', 'u'] ++ Text.paddedHex 4 character.toNat).map some ++ rest) =
      (readLiteral rest).map fun (literal, rest) => (some character :: literal, rest) := by
  obtain ⟨high, low, digits, first, second, isFirst, isSecond, code⟩ :=
    paddedHex_of_lt character.toNat control
  refine readLiteral_of_unit (.escaped character.toNat) ?_ fun units => ?_
  · have zero : hexValue? '0' = some 0 := rfl
    rw [digits]
    simp only [List.cons_append, List.nil_append, List.map_cons, List.map_nil, readUnits, zero,
      isFirst, isSecond, Option.bind_eq_bind, Option.bind_some, Nat.zero_mul, Nat.zero_add, code]
    cases readUnits rest <;> rfl
  · have noHigh : isHighSurrogate character.toNat = false := by
      simp only [isHighSurrogate, Bool.and_eq_false_iff, decide_eq_false_iff_not]
      omega
    have noLow : isLowSurrogate character.toNat = false := by
      simp only [isLowSurrogate, Bool.and_eq_false_iff, decide_eq_false_iff_not]
      omega
    rw [joinUnits.eq_def]
    simp [noHigh, noLow]

/-- A written character is read as itself. -/
theorem readLiteral_escapedChar (character : Char) (rest : Source) :
    readLiteral ((escapedChar character).map some ++ rest) =
      (readLiteral rest).map fun (literal, rest) => (some character :: literal, rest) := by
  unfold escapedChar
  split
  case h_8 noQuote noEscape _ _ _ _ _ =>
    split_ifs with control
    · exact readLiteral_codeEscape control
    · exact readLiteral_plain noQuote noEscape control
  all_goals exact readLiteral_shortEscape rfl

/-- A text that is written between quotes is read up to the closing quote. -/
theorem readLiteral_written (text : String) (rest : Source) :
    readLiteral (((Literal.ofText text).flatMap escapedUnit).map some ++ some '"' :: rest) =
      some (Literal.ofText text, rest) := by
  unfold Literal.ofText
  induction text.toList with
  | nil => rfl
  | cons character characters inductionHypothesis =>
      simp only [List.map_cons, List.flatMap_cons, escapedUnit, List.map_append, List.append_assoc]
      rw [readLiteral_escapedChar, inductionHypothesis]
      rfl

end Strings

/-! ## Values -/

/-- A value without numbers whose strings are texts. -/
inductive Value.IsWorded : Value → Prop where
  | null : IsWorded .null
  | bool (value : Bool) : IsWorded (.bool value)
  | text (text : String) : IsWorded (.ofText text)
  | array {items : List Value} (all : ∀ item ∈ items, IsWorded item) : IsWorded (.array items)
  | object {members : List (Literal × Value)}
      (names : ∀ member ∈ members, ∃ name, member.1 = Literal.ofText name)
      (all : ∀ member ∈ members, IsWorded member.2) : IsWorded (.object members)

theorem Value.IsWorded.ofMembers {members : List (String × Value)}
    (all : ∀ member ∈ members, member.2.IsWorded) : (Value.ofMembers members).IsWorded :=
  .object (List.forall_mem_map.mpr fun member _ => ⟨member.1, rfl⟩)
    (List.forall_mem_map.mpr fun member isMember => all member isMember)

/-- A value is found in front of any text that its own is put in front of. Two steps for each
character are enough. -/
def ReadsBack (value : Value) : Prop :=
  ∀ (bound : Nat) (rest : Source), 2 * value.characters.length ≤ bound →
    readValue bound (value.characters.map some ++ rest) = some (value, rest)

section Values

variable {value : Value} {bound : Nat} {source tail rest : Source}

/-- A written value begins with a character that is neither space nor a closing bracket. -/
theorem Value.IsWorded.exists_characters_eq (worded : value.IsWorded) :
    ∃ (first : Char) (others : List Char), value.characters = first :: others ∧
      Source.isSpace (some first) = false ∧ first ≠ ']' := by
  cases worded with
  | null => exact ⟨'n', _, rfl, rfl, by decide⟩
  | bool value =>
      cases value with
      | false => exact ⟨'f', _, rfl, rfl, by decide⟩
      | true => exact ⟨'t', _, rfl, rfl, by decide⟩
  | text text => exact ⟨'"', _, rfl, rfl, by decide⟩
  | array => exact ⟨'[', _, rfl, rfl, by decide⟩
  | object => exact ⟨'\x7b', _, rfl, rfl, by decide⟩

theorem readItems_last {item : Value}
    (first : readValue bound source = some (item, tail))
    (closes : tail.skipSpace = some ']' :: rest) :
    readItems (bound + 1) source = some ([item], rest) := by
  rw [readItems, first]
  simp only [closes]

theorem readItems_further {item : Value}
    (first : readValue bound source = some (item, tail))
    (goesOn : tail.skipSpace = some ',' :: rest) :
    readItems (bound + 1) source =
      (readItems bound rest).map fun (items, rest) => (item :: items, rest) := by
  rw [readItems, first]
  simp only [goesOn]

theorem readItems_written {items : List Value} (notEmpty : items ≠ [])
    (all : ∀ item ∈ items, ReadsBack item) (bound : Nat) (rest : Source)
    (enough : 2 * (Value.itemsCharacters items).length < bound) :
    readItems bound ((Value.itemsCharacters items).map some ++ some ']' :: rest) =
      some (items, rest) := by
  induction items generalizing bound with
  | nil => exact absurd rfl notEmpty
  | cons item items inductionHypothesis =>
      obtain ⟨itemReads, othersRead⟩ := List.forall_mem_cons.mp all
      obtain ⟨bound, rfl⟩ := Nat.exists_eq_add_one_of_ne_zero (Nat.ne_zero_of_lt enough)
      cases items with
      | nil =>
          rw [Value.itemsCharacters] at enough ⊢
          exact readItems_last (itemReads _ _ (by omega)) rfl
      | cons next items =>
          have more : next :: items = [] → False := List.cons_ne_nil next items
          rw [Value.itemsCharacters.eq_3 _ _ more] at enough ⊢
          simp only [List.length_append, List.length_cons] at enough
          rw [List.map_append, List.append_assoc, List.map_cons, List.cons_append,
            readItems_further (itemReads _ _ (by omega)) rfl,
            inductionHypothesis more othersRead _ (by omega)]
          rfl

theorem readMembers_written {members : List (Literal × Value)} (notEmpty : members ≠ [])
    (names : ∀ member ∈ members, ∃ name, member.1 = Literal.ofText name)
    (all : ∀ member ∈ members, ReadsBack member.2) (bound : Nat) (rest : Source)
    (enough : 2 * (Value.membersCharacters members).length < bound) :
    readMembers bound ((Value.membersCharacters members).map some ++ some '\x7d' :: rest) =
      some (members, rest) := by
  induction members generalizing bound with
  | nil => exact absurd rfl notEmpty
  | cons member members inductionHypothesis =>
      obtain ⟨literal, value⟩ := member
      obtain ⟨⟨name, rfl⟩, otherNames⟩ := List.forall_mem_cons.mp names
      obtain ⟨itemReads, othersRead⟩ := List.forall_mem_cons.mp all
      obtain ⟨bound, rfl⟩ := Nat.exists_eq_add_one_of_ne_zero (Nat.ne_zero_of_lt enough)
      have itemReads : ReadsBack value := itemReads
      have text := readLiteral_written name
      cases members with
      | nil =>
          rw [Value.membersCharacters] at enough ⊢
          simp only [writeLiteral, List.length_append, List.length_cons] at enough
          simp only [writeLiteral, List.map_append, List.map_cons, List.cons_append,
            List.append_assoc, List.nil_append]
          exact readMembers_last rfl (text _) rfl (itemReads _ _ (by omega)) rfl
      | cons next members =>
          have more : next :: members = [] → False := List.cons_ne_nil next members
          rw [Value.membersCharacters.eq_3 _ _ _ more] at enough ⊢
          simp only [writeLiteral, List.length_append, List.length_cons] at enough
          simp only [writeLiteral, List.map_append, List.map_cons, List.cons_append,
            List.append_assoc, List.nil_append]
          rw [readMembers_further rfl (text _) rfl (itemReads _ _ (by omega)) rfl,
            inductionHypothesis more otherNames othersRead _ (by omega)]
          rfl

theorem exists_itemsCharacters_eq {item : Value} (others : List Value) (worded : item.IsWorded) :
    ∃ (first : Char) (tail : List Char), Value.itemsCharacters (item :: others) = first :: tail ∧
      Source.isSpace (some first) = false ∧ first ≠ ']' := by
  obtain ⟨first, tail, begins, visible, noEnd⟩ := worded.exists_characters_eq
  cases others with
  | nil => exact ⟨first, tail, begins, visible, noEnd⟩
  | cons next others =>
      rw [Value.itemsCharacters.eq_3 _ _ (List.cons_ne_nil next others), begins]
      exact ⟨first, _, rfl, visible, noEnd⟩

theorem exists_membersCharacters_eq (member : Literal × Value) (others : List (Literal × Value)) :
    ∃ tail : List Char, Value.membersCharacters (member :: others) = '"' :: tail := by
  cases others with
  | nil => exact ⟨_, rfl⟩
  | cons next others =>
      rw [Value.membersCharacters.eq_3 _ _ _ (List.cons_ne_nil next others), writeLiteral]
      exact ⟨_, rfl⟩

/-- No bound that is enough is zero. -/
theorem Value.IsWorded.readsBack_of_succ (worded : value.IsWorded)
    (step : ∀ (bound : Nat) (rest : Source), 2 * value.characters.length ≤ bound + 1 →
      readValue (bound + 1) (value.characters.map some ++ rest) = some (value, rest)) :
    ReadsBack value := by
  intro bound rest enough
  obtain ⟨first, others, characters, -⟩ := worded.exists_characters_eq
  cases bound with
  | zero => simp [characters] at enough
  | succ bound => exact step bound rest enough

/-- A worded value is read back. -/
theorem Value.IsWorded.readsBack (worded : value.IsWorded) : ReadsBack value := by
  induction worded with
  | null => exact readsBack_of_succ .null fun _ _ _ => rfl
  | bool value =>
      refine readsBack_of_succ (.bool value) fun _ _ _ => ?_
      cases value <;> rfl
  | text text =>
      refine readsBack_of_succ (.text text) fun bound rest _ => ?_
      have literal := readLiteral_written text rest
      simp only [ofText, characters, writeLiteral, List.map_append, List.map_cons, List.map_nil,
        List.cons_append, List.append_assoc, List.nil_append]
      rw [readValue_string rfl, literal]
      rfl
  | @array items all inductionHypothesis =>
      refine readsBack_of_succ (.array all) fun bound rest enough => ?_
      simp only [characters, List.length_append, List.length_cons, List.length_nil] at enough
      simp only [characters, List.map_append, List.map_cons, List.map_nil, List.cons_append,
        List.append_assoc, List.nil_append]
      rw [readValue_array rfl]
      cases items with
      | nil => rfl
      | cons item others =>
          have read := readItems_written (List.cons_ne_nil item others) inductionHypothesis
            bound rest (by omega)
          obtain ⟨first, tail, begins, visible, noEnd⟩ :=
            exists_itemsCharacters_eq others (all item List.mem_cons_self)
          rw [begins, List.map_cons, List.cons_append] at read ⊢
          rw [Source.skipSpace_cons visible]
          split
          · next same => exact absurd (Option.some.inj (List.cons.inj same).1) noEnd
          · rw [read]
            rfl
  | @object members names all inductionHypothesis =>
      refine readsBack_of_succ (.object names all) fun bound rest enough => ?_
      simp only [characters, List.length_append, List.length_cons, List.length_nil] at enough
      simp only [characters, List.map_append, List.map_cons, List.map_nil, List.cons_append,
        List.append_assoc, List.nil_append]
      rw [readValue_object rfl]
      cases members with
      | nil => rfl
      | cons member others =>
          have read := readMembers_written (List.cons_ne_nil member others) names
            inductionHypothesis bound rest (by omega)
          obtain ⟨tail, begins⟩ := exists_membersCharacters_eq member others
          rw [begins] at read ⊢
          exact congrArg (Option.map fun found => (Value.object found.1, found.2)) read

end Values

/-- The text of a worded value has that value. -/
theorem read_text {value : Value} (worded : value.IsWorded) : read value.text = some value := by
  rw [read_eq_some_iff]
  refine ⟨[], ?_, rfl⟩
  have back := worded.readsBack (2 * (Source.ofText value.text).length + 2) [] (by
    simp only [Source.ofText, Value.text, String.toList_ofList, List.length_map]
    omega)
  rw [List.append_nil] at back
  rw [← back, Source.ofText, Value.text, String.toList_ofList]

end GroupFederation.Json
