import GroupFederation.Text.Percent
import Mathlib.Tactic.SplitIfs

/-!
# Encodings lose nothing

A text is read back from its bytes, and bytes are read back from their percent-encoded form, as long
as the percent sign does not stand for itself in it. So the segment of a path that stands for a text
stands for this text only. All of its characters are plain ones, which neither separate segments nor
end a path.
-/

namespace GroupFederation.Text

/-! ## Characters and bytes -/

namespace Utf8

/-- A byte within a character is taken with the bits it adds. -/
theorem decodeFrom_further {value missing least greatest : Nat} {byte : UInt8}
    (inside : least ≤ byte.toNat ∧ byte.toNat ≤ greatest) (bytes : Bytes) :
    decodeFrom (.further value missing least greatest) (byte :: bytes) =
      if missing = 1 then
        some (Char.ofNat (value * 0x40 + (byte.toNat - 0x80))) :: decodeFrom .fresh bytes
      else
        decodeFrom (.further (value * 0x40 + (byte.toNat - 0x80)) (missing - 1) 0x80 0xBF)
          bytes := by
  rw [decodeFrom]
  exact if_pos inside

/-- A byte that begins a character of several bytes. -/
theorem decodeFrom_fresh {byte : UInt8} {expectation : Expectation}
    (begins : start byte = ([], expectation)) (bytes : Bytes) :
    decodeFrom .fresh (byte :: bytes) = decodeFrom expectation bytes := by
  rw [decodeFrom, begins]
  rfl

theorem toNat_ofNat_of_lt {code : Nat} (isByte : code < 256) : (UInt8.ofNat code).toNat = code := by
  rw [UInt8.toNat_ofNat', Nat.mod_eq_of_lt isByte]

/-- A byte that ends a character of several bytes. -/
theorem decodeFrom_last (code : Nat) {value least greatest byte : Nat} (isByte : byte < 256)
    (inside : least ≤ byte ∧ byte ≤ greatest) (same : value * 0x40 + (byte - 0x80) = code)
    (bytes : Bytes) :
    decodeFrom (.further value 1 least greatest) (UInt8.ofNat byte :: bytes) =
      some (Char.ofNat code) :: decodeFrom .fresh bytes := by
  have number := toNat_ofNat_of_lt isByte
  rw [decodeFrom_further (by rw [number]; exact inside), if_pos rfl, number, same]

/-- A byte within a character of several bytes. -/
theorem decodeFrom_middle {value missing least greatest next byte : Nat}
    (isByte : byte < 256) (inside : least ≤ byte ∧ byte ≤ greatest)
    (same : value * 0x40 + (byte - 0x80) = next) (bytes : Bytes) :
    decodeFrom (.further value (missing + 2) least greatest) (UInt8.ofNat byte :: bytes) =
      decodeFrom (.further next (missing + 1) 0x80 0xBF) bytes := by
  have number := toNat_ofNat_of_lt isByte
  rw [decodeFrom_further (by rw [number]; exact inside), if_neg (by omega), number, same]
  rfl

/-- What is expected behind the first byte of a character of three bytes. -/
theorem start_three {high : Nat} (isHigh : high < 16) :
    start (UInt8.ofNat (high + 224)) =
      ([], .further high 2 (if high = 0 then 0xA0 else 0x80)
        (if high = 13 then 0x9F else 0xBF)) := by
  revert high
  decide

/-- What is expected behind the first byte of a character of four bytes. -/
theorem start_four {high : Nat} (isHigh : high < 5) :
    start (UInt8.ofNat (high + 240)) =
      ([], .further high 3 (if high = 0 then 0x90 else 0x80)
        (if high = 4 then 0x8F else 0xBF)) := by
  revert high
  decide

/-- A character is read back from its bytes, whatever follows. -/
theorem decodeFrom_encodeChar (character : Char) (bytes : Bytes) :
    decodeFrom .fresh (String.utf8EncodeChar character ++ bytes) =
      some character :: decodeFrom .fresh bytes := by
  have valid : character.val.toNat < 0xD800 ∨
      (0xDFFF < character.val.toNat ∧ character.val.toNat < 0x110000) := character.valid
  have same : Char.ofNat character.val.toNat = character := Char.ofNat_toNat character
  unfold String.utf8EncodeChar
  dsimp only
  generalize character.val.toNat = code at valid same ⊢
  subst same
  split_ifs with oneByte twoBytes threeBytes
  · have begins : start (UInt8.ofNat code) = ([some (Char.ofNat code)], .fresh) := by
      rw [start, toNat_ofNat_of_lt (by omega), if_pos (by omega)]
    rw [List.singleton_append, decodeFrom, begins]
    rfl
  · have begins : start (UInt8.ofNat (code / 64 % 32 + 192)) =
        ([], .further (code / 64) 1 0x80 0xBF) := by
      have first : code / 64 % 32 + 192 - 0xC0 = code / 64 := by omega
      rw [start, toNat_ofNat_of_lt (by omega), if_neg (by omega), if_neg (by omega),
        if_pos (by omega), first]
    rw [List.cons_append, decodeFrom_fresh begins, List.singleton_append,
      decodeFrom_last code (by omega) (by omega) (by omega)]
  · have begins := start_three (Nat.mod_lt (code / 4096) (by decide : 0 < 16))
    rw [List.cons_append, decodeFrom_fresh begins, List.cons_append, List.singleton_append,
      decodeFrom_middle (by omega) (by split_ifs <;> omega) rfl,
      decodeFrom_last code (by omega) (by omega) (by omega)]
  · have begins : start (UInt8.ofNat (code / 262144 % 8 + 240)) = _ := start_four (by omega)
    rw [List.cons_append, decodeFrom_fresh begins, List.cons_append, List.cons_append,
      List.singleton_append, decodeFrom_middle (by omega) (by split_ifs <;> omega) rfl,
      decodeFrom_middle (by omega) (by omega) rfl,
      decodeFrom_last code (by omega) (by omega) (by omega)]

theorem decode_encode (characters : List Char) :
    decode (encode characters) = characters.map some := by
  rw [decode]
  induction characters with
  | nil => rfl
  | cons character characters inductionHypothesis =>
      rw [encode, List.flatMap_cons, decodeFrom_encodeChar, ← encode, inductionHypothesis]
      rfl

theorem characters?_of_all (characters : List Char) :
    characters? (characters.map some) = some characters := by
  induction characters with
  | nil => rfl
  | cons character characters inductionHypothesis =>
      rw [List.map_cons, characters?, inductionHypothesis]
      rfl

/-- A text is read back from its bytes. -/
theorem text?_bytes (text : String) : text? (ofText text) = some text := by
  rw [text?, ofText, decode_encode, characters?_of_all, Option.map_some, String.ofList_toList]

/-- A character below 128 is its own byte. -/
theorem encodeChar_of_lt {character : Char} (ascii : character.toNat < 0x80) :
    String.utf8EncodeChar character = [UInt8.ofNat character.toNat] := by
  unfold String.utf8EncodeChar
  exact if_pos (Nat.le_of_lt_succ ascii)

/-- A byte gives a symbol, or makes something expected. -/
theorem start_spec (byte : UInt8) : (start byte).1 ≠ [] ∨ (start byte).2 ≠ .fresh := by
  unfold start
  dsimp only
  split_ifs <;> simp

/-- Nothing is read as no text but no bytes, where nothing is expected. -/
theorem decodeFrom_ne_nil {expectation : Expectation} {bytes : Bytes}
    (more : expectation ≠ .fresh ∨ bytes ≠ []) : decodeFrom expectation bytes ≠ [] := by
  induction bytes generalizing expectation with
  | nil =>
      cases expectation with
      | fresh => simp at more
      | further => simp [decodeFrom]
  | cons byte bytes inductionHypothesis =>
      cases expectation with
      | fresh =>
          rw [decodeFrom]
          rcases start_spec byte with given | expected
          · simp [given]
          · simp [inductionHypothesis (.inl expected)]
      | further value missing least greatest =>
          rw [decodeFrom]
          dsimp only
          split_ifs
          · simp
          · exact inductionHypothesis (.inl (by simp))
          · simp

end Utf8

/-! ## Bytes and their percent-encoded form -/

namespace Percent

theorem decode_cons_of_ne {byte : UInt8} (plain : byte ≠ 0x25) (bytes : Bytes) :
    decode (byte :: bytes) = byte :: decode bytes := by
  rw [decode]
  exact fun first second rest same _ => plain same

/-- What is known of a digit. -/
theorem digit_spec {value : Nat} (isDigit : value < 16) :
    (digit value).toNat < 0x80 ∧ isAlphanumeric (digit value) = true ∧
      digitValue? (UInt8.ofNat (digit value).toNat) = some value := by
  revert value
  decide

/-- Different digits are written differently. -/
theorem digit_injective {value other : Nat} (isDigit : value < 16) (isOther : other < 16)
    (same : digit value = digit other) : value = other := by
  rw [← Option.some_inj, ← (digit_spec isDigit).2.2, ← (digit_spec isOther).2.2, same]

theorem digit_ne_sign {value : Nat} (isDigit : value < 16) : digit value ≠ '%' := by
  revert value
  decide

/-- Different bytes have different escapes. -/
theorem escape_injective {byte other : UInt8} (same : escape byte = escape other) :
    byte = other := by
  have isByte := byte.toNat_lt
  have isOther := other.toNat_lt
  simp only [escape, List.cons.injEq, and_true, true_and] at same
  have high := digit_injective (by omega) (by omega) same.1
  have low := digit_injective (by omega) (by omega) same.2
  rw [← UInt8.toNat_inj]
  omega

theorem encode_escape (byte : UInt8) :
    Utf8.encode (escape byte) = [0x25, UInt8.ofNat (digit (byte.toNat / 16)).toNat,
      UInt8.ofNat (digit (byte.toNat % 16)).toNat] := by
  have isByte := byte.toNat_lt
  have high := (digit_spec (show byte.toNat / 16 < 16 by omega)).1
  have low := (digit_spec (show byte.toNat % 16 < 16 by omega)).1
  simp only [Utf8.encode, escape, List.flatMap_cons, List.flatMap_nil, Utf8.encodeChar_of_lt high,
    Utf8.encodeChar_of_lt low]
  rfl

/-- An escape is read as the byte it stands for. -/
theorem decode_escape (byte : UInt8) (bytes : Bytes) :
    decode (Utf8.encode (escape byte) ++ bytes) = byte :: decode bytes := by
  have isByte := byte.toNat_lt
  have high := (digit_spec (show byte.toNat / 16 < 16 by omega)).2.2
  have low := (digit_spec (show byte.toNat % 16 < 16 by omega)).2.2
  have whole : byte.toNat / 16 * 16 + byte.toNat % 16 = byte.toNat := by omega
  simp only [encode_escape, List.cons_append, List.nil_append, decode, high, low, whole,
    UInt8.ofNat_toNat]

/-- The character that stands for a byte below 128. -/
theorem toNat_ofNat_of_ascii {byte : UInt8} (ascii : byte.toNat < 0x80) :
    (Char.ofNat byte.toNat).toNat = byte.toNat := by
  unfold Char.ofNat
  rw [dif_pos (.inl (by omega))]
  rfl

/-- The byte below 128 that a character stands for. -/
theorem byte_of_ofNat_eq {byte : UInt8} {character : Char} (ascii : byte.toNat < 0x80)
    (same : Char.ofNat byte.toNat = character) : byte = UInt8.ofNat character.toNat := by
  rw [← same, toNat_ofNat_of_ascii ascii, UInt8.ofNat_toNat]

theorem encodeBytes_cons (keeps : Char → Bool) (byte : UInt8) (bytes : Bytes) :
    encodeBytes keeps (byte :: bytes) =
      (if byte.toNat < 0x80 && keeps (Char.ofNat byte.toNat) then [Char.ofNat byte.toNat]
        else escape byte) ++ encodeBytes keeps bytes :=
  rfl

/-- Bytes are read back from their percent-encoded form. -/
theorem decode_encodeBytes {keeps : Char → Bool} (escapes : keeps '%' = false) (bytes : Bytes) :
    decode (Utf8.encode (encodeBytes keeps bytes)) = bytes := by
  induction bytes with
  | nil => rfl
  | cons byte bytes inductionHypothesis =>
      rw [encodeBytes_cons, Utf8.encode_append]
      split
      · next kept =>
        rw [Bool.and_eq_true, decide_eq_true_eq] at kept
        have ascii := toNat_ofNat_of_ascii kept.1
        have plain : byte ≠ 0x25 := by
          rintro rfl
          rw [show Char.ofNat (0x25 : UInt8).toNat = '%' from rfl, escapes] at kept
          cases kept.2
        have written : Utf8.encode [Char.ofNat byte.toNat] = [byte] := by
          rw [Utf8.encode, List.flatMap_cons, Utf8.encodeChar_of_lt (by omega), ascii,
            UInt8.ofNat_toNat]
          rfl
        rw [written, List.singleton_append, decode_cons_of_ne plain, inductionHypothesis]
      · rw [decode_escape, inductionHypothesis]

/-! ### Segments of a path -/

/-- What stands for itself in a segment is a single byte. -/
theorem ascii_of_isSegmentChar {character : Char} (isSegment : isSegmentChar character = true) :
    character.toNat < 0x80 := by
  simp only [isSegmentChar, isUnreserved, isAlphanumeric, Bool.or_eq_true, Bool.and_eq_true,
    decide_eq_true_eq, beq_iff_eq] at isSegment
  rcases isSegment with ((((((lower | upper) | digit) | rfl) | rfl) | rfl) | rfl) | rfl
  · exact Nat.lt_of_le_of_lt lower.2 (by decide)
  · exact Nat.lt_of_le_of_lt upper.2 (by decide)
  · exact Nat.lt_of_le_of_lt digit.2 (by decide)
  all_goals decide

/-- What stands for itself in a segment is no percent sign. -/
theorem ne_sign_of_isSegmentChar {character : Char} (isSegment : isSegmentChar character = true) :
    character ≠ '%' := by
  rintro rfl
  exact absurd isSegment (by decide)

/-- Nothing is put in the place of a character that begins no escape. -/
theorem restoreColons_cons {character : Char} (noSign : character ≠ '%') (rest : List Char) :
    restoreColons (character :: rest) = character :: restoreColons rest := by
  rw [restoreColons]
  exact fun _ isSign _ => noSign isSign

/-- The escape of a colon gives way to the colon, and any other escape is passed as a whole. -/
theorem restoreColons_escape (byte : UInt8) (rest : List Char) :
    restoreColons (escape byte ++ rest) =
      (if byte = 0x3A then [':'] else escape byte) ++ restoreColons rest := by
  have isByte := byte.toNat_lt
  split
  · next isColon =>
    subst isColon
    rfl
  · next noColon =>
    -- The digits do not spell a colon, and neither of them begins another escape.
    have noSign {value : Nat} (isDigit : value < 16) := restoreColons_cons (digit_ne_sign isDigit)
    rw [escape, List.cons_append, List.cons_append, List.cons_append, List.nil_append,
      restoreColons, noSign (by omega), noSign (by omega)]
    · rfl
    · intro behind _ same
      simp only [List.cons.injEq] at same
      apply noColon
      apply escape_injective
      rw [escape, same.1, same.2.1]
      rfl

/-- To put the colons back is to keep them in the first place. -/
theorem restoreColons_encodeBytes (bytes : Bytes) :
    restoreColons (encodeBytes isUnreserved bytes) = encodeBytes isSegmentChar bytes := by
  induction bytes with
  | nil => rfl
  | cons byte bytes inductionHypothesis =>
      rw [encodeBytes_cons, encodeBytes_cons, ← inductionHypothesis]
      by_cases isColon : byte = 0x3A
      · subst isColon
        exact restoreColons_escape 0x3A _
      · have alike : (byte.toNat < 0x80 && isSegmentChar (Char.ofNat byte.toNat)) =
            (byte.toNat < 0x80 && isUnreserved (Char.ofNat byte.toNat)) := by
          by_cases ascii : byte.toNat < 0x80
          · have noColon : Char.ofNat byte.toNat ≠ ':' := fun same =>
              isColon (byte_of_ofNat_eq ascii same)
            rw [isSegmentChar, beq_eq_false_iff_ne.mpr noColon, Bool.or_false]
          · simp [ascii]
        rw [← alike]
        split
        · next kept =>
          rw [Bool.and_eq_true] at kept
          rw [List.singleton_append, restoreColons_cons (ne_sign_of_isSegmentChar kept.2),
            List.singleton_append]
        · rw [restoreColons_escape, if_neg isColon]

/-- A segment holds what stands for itself there, and escapes. -/
theorem toList_encodeSegment (text : String) :
    (encodeSegment text).toList = encodeBytes isSegmentChar (Utf8.ofText text) := by
  rw [encodeSegment, String.toList_ofList, restoreColons_encodeBytes]

/-- A text is read back from the segment that stands for it. -/
theorem decodeText?_encodeSegment (text : String) :
    decodeText? (encodeSegment text) = some text := by
  rw [decodeText?, Utf8.ofText, toList_encodeSegment, decode_encodeBytes (by decide),
    Utf8.text?_bytes]

/-- The characters of a segment. -/
theorem of_mem_encodeSegment {text : String} {character : Char}
    (member : character ∈ (encodeSegment text).toList) :
    isSegmentChar character = true ∨ character = '%' := by
  rw [toList_encodeSegment, encodeBytes] at member
  obtain ⟨byte, -, member⟩ := List.mem_flatMap.mp member
  dsimp only at member
  split at member
  · next kept =>
    rw [Bool.and_eq_true] at kept
    rw [List.mem_singleton.mp member]
    exact .inl kept.2
  · have isByte := byte.toNat_lt
    have plain {value : Nat} (isDigit : value < 16) : isSegmentChar (digit value) = true := by
      simp [isSegmentChar, isUnreserved, (digit_spec isDigit).2.1]
    rcases List.mem_cons.mp member with isSign | member
    · exact .inr isSign
    · rcases List.mem_cons.mp member with rfl | member
      · exact .inl (plain (by omega))
      · rw [List.mem_singleton.mp member]
        exact .inl (plain (by omega))

theorem decode_ne_nil {bytes : Bytes} (more : bytes ≠ []) : decode bytes ≠ [] := by
  unfold decode
  split
  · split <;> simp
  · simp
  · exact more

/-- Only the empty segment stands for the empty text. -/
theorem decodeText?_eq_empty_iff {segment : String} :
    decodeText? segment = some "" ↔ segment = "" := by
  constructor
  · intro decoded
    obtain ⟨characters, read, same⟩ := Option.map_eq_some_iff.mp decoded
    have none : characters = [] := by simpa using same
    have unread : Utf8.decode (decode (Utf8.ofText segment)) = [] := by
      subst none
      cases symbols : Utf8.decode (decode (Utf8.ofText segment)) with
      | nil => rfl
      | cons symbol rest => cases symbol <;> simp [symbols, Utf8.characters?] at read
    have noBytes : Utf8.ofText segment = [] :=
      Decidable.byContradiction fun more =>
        Utf8.decodeFrom_ne_nil (.inr (decode_ne_nil more)) unread
    have whole := Utf8.text?_bytes segment
    rw [noBytes] at whole
    exact (Option.some.inj whole).symm
  · rintro rfl
    decide

end Percent

end GroupFederation.Text
