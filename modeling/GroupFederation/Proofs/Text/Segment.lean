import GroupFederation.Proofs.Text.Encoding

/-!
# Segments of a path

The segment that stands for a text consists of characters that stand for themselves and of whole
escapes. So nothing in it separates segments or ends a path, and no percent sign stands alone. The
colons, which are put back where their escapes are found in the encoded text, divide the segment as
they divide the text: what is found is the escape of a byte of the text and never a stretch across
two escapes, and a byte that is a colon belongs to no other character.
-/

namespace GroupFederation.Text

/-- A mark that nothing but one value has in its image, where it stands alone, divides the images
of a list as this value divides the list. -/
theorem flatMap_eq_append_cons_iff {α β : Type} {image : α → List β} {value : α} {mark : β}
    (alone : image value = [mark]) (only : ∀ other, mark ∈ image other → other = value)
    {values : List α} {front back : List β} :
    values.flatMap image = front ++ mark :: back ↔
      ∃ before after, values = before ++ value :: after ∧ before.flatMap image = front ∧
        after.flatMap image = back := by
  constructor
  · intro same
    induction values generalizing front with
    | nil => simp at same
    | cons first values inductionHypothesis =>
        -- The mark lies behind the first image, unless it is this image.
        have behind (skipped : List β) (whole : front = image first ++ skipped)
            (same : values.flatMap image = skipped ++ mark :: back) :
            ∃ before after, first :: values = before ++ value :: after ∧
              before.flatMap image = front ∧ after.flatMap image = back := by
          obtain ⟨before, after, rfl, rfl, rfl⟩ := inductionHypothesis same
          exact ⟨first :: before, after, rfl, whole.symm, rfl⟩
        rw [List.flatMap_cons, List.append_eq_append_iff] at same
        rcases same with ⟨skipped, whole, same⟩ | ⟨inside, whole, same⟩
        · exact behind skipped whole same
        · cases inside with
          | nil =>
              rw [List.append_nil] at whole
              exact behind [] (by rw [List.append_nil, whole]) same.symm
          | cons other inside =>
              obtain ⟨rfl, rfl⟩ := List.cons.inj same
              have isValue := only first (by simp [whole])
              rw [isValue, alone] at whole
              rcases List.singleton_eq_append_iff.mp whole with ⟨rfl, alone⟩ | ⟨-, none⟩
              · obtain rfl := (List.cons.inj alone).2
                exact ⟨[], values, by rw [isValue]; rfl, rfl, rfl⟩
              · cases none
  · rintro ⟨before, after, rfl, rfl, rfl⟩
    rw [List.flatMap_append, List.flatMap_cons, alone, List.singleton_append]

/-- A byte below 128 is found in the character of its number only. -/
theorem Utf8.eq_ofNat_of_mem_encodeChar {byte : UInt8} {character : Char}
    (member : byte ∈ String.utf8EncodeChar character) (ascii : byte.toNat < 0x80) :
    character = Char.ofNat byte.toNat := by
  have valid : character.val.toNat < 0xD800 ∨
      (0xDFFF < character.val.toNat ∧ character.val.toNat < 0x110000) := character.valid
  have same : Char.ofNat character.val.toNat = character := Char.ofNat_toNat character
  unfold String.utf8EncodeChar at member
  dsimp only at member
  generalize character.val.toNat = code at valid same member
  subst same
  -- All bytes of a character of several bytes are 128 or more.
  have further {number : Nat} (isByte : number < 256) (isFurther : 0x80 ≤ number)
      (same : byte = UInt8.ofNat number) : False := by
    rw [same, toNat_ofNat_of_lt isByte] at ascii
    omega
  split_ifs at member with oneByte <;>
    simp only [List.mem_cons, List.not_mem_nil, or_false] at member
  · rw [member, toNat_ofNat_of_lt (by omega)]
  · rcases member with same | same <;> exact (further (by omega) (by omega) same).elim
  · rcases member with same | same | same <;> exact (further (by omega) (by omega) same).elim
  · rcases member with same | same | same | same <;>
      exact (further (by omega) (by omega) same).elim

namespace Percent

/-! ## The form of segments -/

/-- Hexadecimal digits whose letters are capitals. -/
def isCapitalDigit (character : Char) : Bool :=
  ('0' ≤ character && character ≤ '9') || ('A' ≤ character && character ≤ 'F')

theorem isCapitalDigit_digit {value : Nat} (isDigit : value < 16) :
    isCapitalDigit (digit value) = true := by
  revert value
  decide

/-- A digit is no percent sign. -/
theorem ne_sign_of_isCapitalDigit {character : Char} (isDigit : isCapitalDigit character = true) :
    character ≠ '%' := by
  rintro rfl
  exact absurd isDigit (by decide)

/-- The form of a segment: characters that stand for themselves, and whole escapes. -/
inductive IsSegment : List Char → Prop where
  | nil : IsSegment []
  | plain {character : Char} {rest : List Char} (isPlain : isSegmentChar character = true)
      (written : IsSegment rest) : IsSegment (character :: rest)
  | escape {high low : Char} {rest : List Char} (isHigh : isCapitalDigit high = true)
      (isLow : isCapitalDigit low = true) (written : IsSegment rest) :
      IsSegment ('%' :: high :: low :: rest)

/-- Two digits stand in front. -/
def BeginsWithDigits (characters : List Char) : Prop :=
  ∃ high low rest, characters = high :: low :: rest ∧ isCapitalDigit high = true ∧
    isCapitalDigit low = true

theorem isSegment_encodeBytes (bytes : Bytes) : IsSegment (encodeBytes isSegmentChar bytes) := by
  induction bytes with
  | nil => exact .nil
  | cons byte bytes inductionHypothesis =>
      have isByte := byte.toNat_lt
      rw [encodeBytes_cons]
      split
      · next kept =>
        rw [Bool.and_eq_true] at kept
        exact .plain kept.2 inductionHypothesis
      · exact .escape (isCapitalDigit_digit (by omega)) (isCapitalDigit_digit (by omega))
          inductionHypothesis

/-- Where a percent sign is written, the digits of an escape follow. -/
theorem IsSegment.beginsWithDigits {front back : List Char}
    (written : IsSegment (front ++ '%' :: back)) : BeginsWithDigits back := by
  generalize same : front ++ '%' :: back = whole at written
  induction written generalizing front with
  | nil => simp at same
  | plain isPlain written inductionHypothesis =>
      cases front with
      | nil => exact absurd (List.cons.inj same).1.symm (ne_sign_of_isSegmentChar isPlain)
      | cons first front => exact inductionHypothesis (List.cons.inj same).2
  | @escape high low rest isHigh isLow written inductionHypothesis =>
      match front, same with
      | [], same => exact ⟨high, low, rest, (List.cons.inj same).2, isHigh, isLow⟩
      | [_], same =>
          obtain ⟨-, same⟩ := List.cons.inj same
          exact absurd (List.cons.inj same).1.symm (ne_sign_of_isCapitalDigit isHigh)
      | [_, _], same =>
          obtain ⟨-, same⟩ := List.cons.inj (List.cons.inj same).2
          exact absurd (List.cons.inj same).1.symm (ne_sign_of_isCapitalDigit isLow)
      | _ :: _ :: _ :: front, same =>
          exact inductionHypothesis (List.cons.inj (List.cons.inj (List.cons.inj same).2).2).2

/-! ## Marks -/

/-- How a character is written in a segment. -/
def encodeSegmentChar (character : Char) : List Char :=
  encodeBytes isSegmentChar (String.utf8EncodeChar character)

theorem toList_encodeSegment_eq_flatMap (text : String) :
    (encodeSegment text).toList = text.toList.flatMap encodeSegmentChar := by
  rw [toList_encodeSegment, Utf8.ofText, Utf8.encode, encodeBytes, List.flatMap_assoc]
  rfl

theorem encodeSegmentChar_of_isSegmentChar {character : Char}
    (isPlain : isSegmentChar character = true) :
    encodeSegmentChar character = [character] := by
  have ascii := ascii_of_isSegmentChar isPlain
  rw [encodeSegmentChar, Utf8.encodeChar_of_lt ascii, encodeBytes_cons,
    Utf8.toNat_ofNat_of_lt (by omega), Char.ofNat_toNat, isPlain, if_pos (by simp [ascii])]
  rfl

/-- A character that takes no part in escapes is written for itself only. -/
theorem eq_of_mem_encodeSegmentChar {mark character : Char} (noSign : mark ≠ '%')
    (noDigit : isCapitalDigit mark = false) (member : mark ∈ encodeSegmentChar character) :
    character = mark := by
  obtain ⟨byte, inCharacter, member⟩ := List.mem_flatMap.mp member
  dsimp only at member
  split at member
  · next kept =>
    rw [Bool.and_eq_true, decide_eq_true_eq] at kept
    rw [List.mem_singleton.mp member]
    exact Utf8.eq_ofNat_of_mem_encodeChar inCharacter kept.1
  · have isByte := byte.toNat_lt
    have noneOfThem {value : Nat} (isDigit : value < 16) : mark ≠ digit value := by
      rintro rfl
      rw [isCapitalDigit_digit isDigit] at noDigit
      cases noDigit
    simp only [escape, List.mem_cons, List.not_mem_nil, or_false] at member
    rcases member with isSign | isHigh | isLow
    · exact absurd isSign noSign
    · exact absurd isHigh (noneOfThem (by omega))
    · exact absurd isLow (noneOfThem (by omega))

@[simp] theorem encodeSegment_append (front back : String) :
    encodeSegment (front ++ back) = encodeSegment front ++ encodeSegment back := by
  simp only [← String.toList_inj, String.toList_append, toList_encodeSegment_eq_flatMap,
    List.flatMap_append]

theorem encodeSegment_singleton {character : Char}
    (isPlain : isSegmentChar character = true) :
    encodeSegment (String.singleton character) = String.singleton character := by
  simp only [← String.toList_inj, toList_encodeSegment_eq_flatMap, String.toList_singleton,
    List.flatMap_singleton, encodeSegmentChar_of_isSegmentChar isPlain]

/-- A character that stands for itself and is no digit divides the segment as it divides the
text. -/
theorem encodeSegment_eq_append_iff {mark : Char} (isPlain : isSegmentChar mark = true)
    (noDigit : isCapitalDigit mark = false) {text front back : String} :
    encodeSegment text = front ++ String.singleton mark ++ back ↔
      ∃ before after, text = before ++ String.singleton mark ++ after ∧
        encodeSegment before = front ∧ encodeSegment after = back := by
  constructor
  · intro same
    have divided : text.toList.flatMap encodeSegmentChar = front.toList ++ mark :: back.toList := by
      rw [← toList_encodeSegment_eq_flatMap, same]
      simp
    have noSign := ne_sign_of_isSegmentChar isPlain
    obtain ⟨before, after, whole, first, second⟩ :=
      (flatMap_eq_append_cons_iff (encodeSegmentChar_of_isSegmentChar isPlain)
        fun _ => eq_of_mem_encodeSegmentChar noSign noDigit).mp divided
    refine ⟨String.ofList before, String.ofList after, ?_, ?_, ?_⟩
    · simp [← String.toList_inj, whole]
    · simp [← String.toList_inj, toList_encodeSegment_eq_flatMap, first]
    · simp [← String.toList_inj, toList_encodeSegment_eq_flatMap, second]
  · rintro ⟨before, after, rfl, rfl, rfl⟩
    rw [encodeSegment_append, encodeSegment_append, encodeSegment_singleton isPlain]

/-! ## Texts and their segments -/

theorem encodeSegment_injective : Function.Injective encodeSegment := by
  intro text other same
  rw [← Option.some_inj, ← decodeText?_encodeSegment, ← decodeText?_encodeSegment, same]

/-- The segment of a text can be read as this text only, and can be read as one segment only. -/
theorem segments_are_faithful :
    (∀ text, decodeText? (encodeSegment text) = some text ∧
      IsSegment (encodeSegment text).toList ∧
      (∀ front back, encodeSegment text = front ++ ":" ++ back ↔
        ∃ before after, text = before ++ ":" ++ after ∧ encodeSegment before = front ∧
          encodeSegment after = back) ∧
      (∀ character ∈ ['/', '?', '#'], character ∉ (encodeSegment text).toList) ∧
      ∀ front back, (encodeSegment text).toList = front ++ '%' :: back → BeginsWithDigits back) ∧
    Function.Injective encodeSegment := by
  refine ⟨fun text => ?_, encodeSegment_injective⟩
  have isSegment : IsSegment (encodeSegment text).toList := by
    rw [toList_encodeSegment]
    exact isSegment_encodeBytes _
  refine ⟨decodeText?_encodeSegment text, isSegment, fun front back => ?_, ?_, ?_⟩
  · have isPlain : isSegmentChar ':' = true := by decide
    exact encodeSegment_eq_append_iff isPlain (by decide)
  · intro character reserved member
    have allowed := of_mem_encodeSegment member
    simp only [List.mem_cons, List.not_mem_nil, or_false] at reserved
    rcases reserved with rfl | rfl | rfl <;> exact absurd allowed (by decide)
  · intro front back same
    rw [same] at isSegment
    exact isSegment.beginsWithDigits

/-- An escape in the text is text. -/
example : encodeSegment "a%3A:é" = "a%253A:%C3%A9" := by
  decide

end Percent

end GroupFederation.Text
