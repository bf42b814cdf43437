import GroupFederation.Text.Quoted
import Mathlib.Algebra.Group.Nat.Defs
import Mathlib.Data.List.Induction

/-!
# Hexadecimal words

A word of fixed width is a number of hexadecimal digits in lower case, with zeros in front. Every
number that is small enough has exactly one word of a width, and every word stands for exactly one
number: nothing is lost with the leading zeros, and there is no second spelling.
-/

namespace GroupFederation.Text.Hex

/-- The digits in the order of their values. -/
def alphabet : List Char :=
  "0123456789abcdef".toList

/-- So many digits and nothing else. -/
structure IsWord (width : Nat) (digits : List Char) : Prop where
  length_eq : digits.length = width
  mem_alphabet : ∀ digit ∈ digits, digit ∈ alphabet

instance (width : Nat) (digits : List Char) : Decidable (IsWord width digits) :=
  decidable_of_iff (digits.length = width ∧ digits.all alphabet.contains = true) <| by
    simp only [List.all_eq_true, List.contains_iff_mem]
    exact ⟨fun ⟨length, members⟩ => ⟨length, members⟩, fun word =>
      ⟨word.length_eq, word.mem_alphabet⟩⟩

/-- The number that digits stand for. -/
def number (digits : List Char) : Nat :=
  digits.foldl (fun number digit => number * 16 + alphabet.idxOf digit) 0

/-- The number of a word of a width. -/
def read? (width : Nat) (digits : List Char) : Option Nat :=
  if IsWord width digits then some (number digits) else none

/-- The last digits of a number, as many as there is room for. -/
def lastDigits : Nat → Nat → List Char
  | 0, _ => []
  | width + 1, number => lastDigits width (number / 16) ++ [(number % 16).digitChar]

/-! ## Digits -/

theorem idxOf_digitChar : ∀ value < 16,
    value.digitChar ∈ alphabet ∧ alphabet.idxOf value.digitChar = value := by
  decide

theorem digitChar_idxOf {digit : Char} (member : digit ∈ alphabet) :
    alphabet.idxOf digit < 16 ∧ (alphabet.idxOf digit).digitChar = digit := by
  have every : alphabet.all (fun digit => alphabet.idxOf digit < 16 &&
      (alphabet.idxOf digit).digitChar == digit) = true := by
    decide
  simpa using List.all_eq_true.mp every digit member

theorem number_append_singleton (digits : List Char) (digit : Char) :
    number (digits ++ [digit]) = number digits * 16 + alphabet.idxOf digit := by
  simp [number]

/-! ## Words -/

theorem isWord_lastDigits (width number : Nat) : IsWord width (lastDigits width number) := by
  induction width generalizing number with
  | zero => exact ⟨rfl, by simp [lastDigits]⟩
  | succ width inductionHypothesis =>
      have front := inductionHypothesis (number / 16)
      refine ⟨by simp [lastDigits, front.length_eq], fun digit member => ?_⟩
      simp only [lastDigits, List.mem_append, List.mem_singleton] at member
      rcases member with among | rfl
      · exact front.mem_alphabet digit among
      · exact (idxOf_digitChar _ (Nat.mod_lt _ (by decide))).1

/-- A number is found in its last digits if there are enough of them. -/
theorem number_lastDigits {width value : Nat} (bound : value < 16 ^ width) :
    number (lastDigits width value) = value := by
  induction width generalizing value with
  | zero => simp_all [lastDigits, number]
  | succ width inductionHypothesis =>
      have front : value / 16 < 16 ^ width :=
        Nat.div_lt_of_lt_mul (by rwa [Nat.pow_succ, Nat.mul_comm] at bound)
      rw [lastDigits, number_append_singleton, inductionHypothesis front,
        (idxOf_digitChar _ (Nat.mod_lt _ (by decide))).2, Nat.mul_comm]
      exact Nat.div_add_mod value 16

/-- A word consists of the last digits of its number, for which there is room. -/
theorem lastDigits_number {width : Nat} {digits : List Char} (word : IsWord width digits) :
    number digits < 16 ^ width ∧ lastDigits width (number digits) = digits := by
  -- The last digit is the one that is divided off, so the word is taken apart from its end.
  induction digits using List.reverseRecOn generalizing width with
  | nil =>
      obtain rfl := word.length_eq
      exact ⟨by decide, rfl⟩
  | append_singleton front digit inductionHypothesis =>
      obtain rfl : front.length + 1 = width := by simpa using word.length_eq
      have frontWord : IsWord front.length front :=
        ⟨rfl, fun other member => word.mem_alphabet other (by simp [member])⟩
      obtain ⟨bound, restored⟩ := inductionHypothesis frontWord
      obtain ⟨small, isDigit⟩ := digitChar_idxOf (word.mem_alphabet digit (by simp))
      rw [number_append_singleton]
      refine ⟨by rw [Nat.pow_succ]; omega, ?_⟩
      have quotient : (number front * 16 + alphabet.idxOf digit) / 16 = number front := by omega
      have remainder : (number front * 16 + alphabet.idxOf digit) % 16 = alphabet.idxOf digit := by
        omega
      rw [lastDigits, quotient, remainder, restored, isDigit]

/-- A number that fits is padded with zeros in front. -/
theorem paddedHex_eq_lastDigits {width value : Nat} (bound : value < 16 ^ (width + 1)) :
    paddedHex (width + 1) value = lastDigits (width + 1) value := by
  induction width generalizing value with
  | zero =>
      have small : value < 16 := by simpa using bound
      simp [paddedHex, hexDigits, lastDigits, Nat.toDigits_of_lt_base small,
        Nat.mod_eq_of_lt small]
  | succ width inductionHypothesis =>
      have front : value / 16 < 16 ^ (width + 1) :=
        Nat.div_lt_of_lt_mul (by rwa [Nat.pow_succ, Nat.mul_comm] at bound)
      rw [lastDigits, ← inductionHypothesis front]
      by_cases small : value < 16
      · have zero : value / 16 = 0 := Nat.div_eq_of_lt small
        simp [paddedHex, hexDigits, zero, Nat.toDigits_of_lt_base small, Nat.mod_eq_of_lt small,
          List.replicate_succ']
      · have digits : Nat.toDigits 16 value =
            Nat.toDigits 16 (value / 16) ++ [(value % 16).digitChar] := by
          rw [Nat.toDigits_eq_if (by decide), if_neg small]
        simp [paddedHex, hexDigits, digits]

/-- A word of some width stands for a number exactly if it is the padded form of the number, and the
number is small enough for the width. -/
theorem read?_eq_some_iff {width value : Nat} {digits : List Char} :
    read? (width + 1) digits = some value ↔
      value < 16 ^ (width + 1) ∧ digits = paddedHex (width + 1) value := by
  constructor
  · intro found
    obtain ⟨word, same⟩ := Option.ite_none_right_eq_some.mp found
    obtain rfl := Option.some.inj same
    obtain ⟨bound, restored⟩ := lastDigits_number word
    exact ⟨bound, by rw [paddedHex_eq_lastDigits bound, restored]⟩
  · rintro ⟨bound, rfl⟩
    rw [paddedHex_eq_lastDigits bound, read?, if_pos (isWord_lastDigits _ _),
      number_lastDigits bound]

end GroupFederation.Text.Hex
