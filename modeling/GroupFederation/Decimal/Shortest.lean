import GroupFederation.Decimal.Binary64

/-!
# Shortest decimal text

A magnitude is written with the fewest digits that still single it out: some decimal with that many
digits rounds to the magnitude. Of two such decimals the nearer one is taken. The digits are
written in positional notation, however many zeros that needs.
-/

namespace GroupFederation.Decimal.Binary64

/-- The interval of numbers that round to a magnitude, as quotients over a common denominator:
lower end, the value itself, upper end, and the denominator. The gap below a power of two is half
as wide. -/
def roundingInterval (value : Binary64) : Nat × Nat × Nat × Nat :=
  let lowerIsNarrow := value.mantissa = Nat.pow 2 52 ∧ -1074 < value.exponent
  let (scale, denominator) := powerOfTwo (value.exponent - 2)
  let centre := 4 * value.mantissa
  ((centre - if lowerIsNarrow then 1 else 2) * scale, centre * scale, (centre + 2) * scale,
    denominator)

/-- Whether a quotient lies in the rounding interval; the ends belong to it when the mantissa is
even. -/
def roundsTo (value : Binary64) (numerator denominator : Nat) : Bool :=
  let (lower, _, upper, common) := value.roundingInterval
  let scaled := numerator * common
  if value.mantissa % 2 = 0 then lower * denominator ≤ scaled && scaled ≤ upper * denominator
  else lower * denominator < scaled && scaled < upper * denominator

/-- A power of ten as a quotient of two whole numbers. -/
def tenRatio (exponent : Int) : Nat × Nat :=
  if 0 ≤ exponent then (Nat.pow 10 exponent.toNat, 1)
  else (1, Nat.pow 10 (-exponent).toNat)

/-- The better of the two neighbours of the value among the multiples of `10 ^ exponent`, if one of
them rounds to the value. -/
def gridPoint? (value : Binary64) (exponent : Int) : Option Nat :=
  let (numerator, denominator) := value.ratio
  let (scale, divisor) := tenRatio exponent
  let below := numerator * divisor / (denominator * scale)
  let rest := numerator * divisor % (denominator * scale)
  let fits (count : Nat) := value.roundsTo (count * scale) divisor
  let aboveIsNearer := denominator * scale < 2 * rest
  match fits below, fits (below + 1) with
  | true, true => some (if aboveIsNearer then below + 1 else below)
  | true, false => some below
  | false, true => some (below + 1)
  | false, false => none

/-- The first exponent, counted down, whose grid has a point that rounds to the value. -/
def searchGrid (value : Binary64) : Nat → Int → Nat × Int
  | 0, exponent => (0, exponent)
  | steps + 1, exponent =>
      match value.gridPoint? exponent with
      | some count => if count = 0 then searchGrid value steps (exponent - 1) else (count, exponent)
      | none => searchGrid value steps (exponent - 1)

/-- Digits and power of ten of the shortest decimal. -/
def shortest (value : Binary64) : Nat × Int :=
  let (numerator, denominator) := value.ratio
  let size : Int := ((Nat.toDigits 10 (numerator / denominator)).length : Int)
  let start := if numerator < denominator then (0 : Int) else size
  searchGrid value (344 + start.toNat) start

/-- Positional text of a count of `10 ^ exponent`. -/
def positional (count : Nat) (exponent : Int) : String :=
  let digits := Nat.toDigits 10 count
  if 0 ≤ exponent then String.ofList (digits ++ List.replicate exponent.toNat '0')
  else
    let places := (-exponent).toNat
    let padded := List.replicate (places + 1 - digits.length) '0' ++ digits
    String.ofList (padded.take (padded.length - places) ++ '.' :: padded.drop (padded.length - places))

/-- The shortest positional text of a magnitude. -/
def text (value : Binary64) : String :=
  if value.isZero then "0"
  else
    let (count, exponent) := value.shortest
    positional count exponent

end GroupFederation.Decimal.Binary64
