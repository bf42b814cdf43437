/-!
# Ranges of code points

A class of characters that Unicode defines is given by the ranges of its code points, in ascending
order and with both ends included.
-/

namespace GroupFederation.Text

/-- Ranges of code points, each by its first and its last one. -/
abbrev CodePoints := List (Nat × Nat)

/-- Whether a character is one of those. -/
def CodePoints.holds (ranges : CodePoints) (character : Char) : Bool :=
  ranges.any fun range => range.1 ≤ character.toNat && character.toNat ≤ range.2

end GroupFederation.Text
