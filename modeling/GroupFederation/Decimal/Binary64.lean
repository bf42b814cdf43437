/-!
# Binary floating-point magnitudes

A magnitude is a mantissa of at most 53 bits times a power of two between `2 ^ -1074` and
`2 ^ 971`. Every operation takes the exact result as a quotient of two numbers and rounds it once,
to the nearest magnitude and to the even mantissa when two are equally near. A result beyond the
largest magnitude does not exist.

The decimal reader is the two-step one that many data readers use: the first digits that fit in 64
bits are rounded once, and scaling by a power of ten rounds again.
-/

namespace GroupFederation.Decimal

/-- The number `mantissa * 2 ^ exponent`. -/
structure Binary64 where
  mantissa : Nat
  exponent : Int
  deriving DecidableEq, Repr

namespace Binary64

def zero : Binary64 := ⟨0, 0⟩

def isZero (value : Binary64) : Bool :=
  value.mantissa == 0

/-- A power of two as a quotient of two whole numbers. -/
def powerOfTwo (exponent : Int) : Nat × Nat :=
  if 0 ≤ exponent then (Nat.pow 2 exponent.toNat, 1) else (1, Nat.pow 2 (-exponent).toNat)

/-- The exact value as a quotient. -/
def ratio (value : Binary64) : Nat × Nat :=
  let scale := powerOfTwo value.exponent
  (value.mantissa * scale.1, scale.2)

/-- The quotient rounded to a whole number, a half going to the even neighbour. -/
def roundQuotient (numerator denominator : Nat) : Nat :=
  let quotient := numerator / denominator
  let rest := numerator % denominator
  if denominator < 2 * rest || (2 * rest == denominator && quotient % 2 == 1) then quotient + 1
  else quotient

/-- The exponent at which the quotient has a mantissa of 53 bits, or the least exponent. -/
def exponentFor (numerator denominator : Nat) : Int :=
  let estimate : Int := (Nat.log2 numerator : Int) - (Nat.log2 denominator : Int) - 52
  let scale := powerOfTwo estimate
  let exponent :=
    if numerator * scale.2 < Nat.pow 2 52 * (denominator * scale.1) then estimate - 1
    else estimate
  if exponent < -1074 then -1074 else exponent

/-- The magnitude nearest to a quotient, if there is one. -/
def ofRatio (numerator denominator : Nat) : Option Binary64 :=
  if numerator = 0 then some zero
  else
    let exponent := exponentFor numerator denominator
    let scale := powerOfTwo exponent
    let mantissa := roundQuotient (numerator * scale.2) (denominator * scale.1)
    let rounded : Binary64 :=
      if mantissa = Nat.pow 2 53 then ⟨Nat.pow 2 52, exponent + 1⟩ else ⟨mantissa, exponent⟩
    if 971 < rounded.exponent then none else some rounded

/-- The product of two magnitudes, rounded. -/
def multiply (left right : Binary64) : Option Binary64 :=
  ofRatio (left.ratio.1 * right.ratio.1) (left.ratio.2 * right.ratio.2)

/-- The quotient of two magnitudes, rounded; the divisor is not zero. -/
def divide (left right : Binary64) : Option Binary64 :=
  ofRatio (left.ratio.1 * right.ratio.2) (left.ratio.2 * right.ratio.1)

/-- A power of ten, rounded. -/
def powerOfTen (exponent : Nat) : Option Binary64 :=
  ofRatio (Nat.pow 10 exponent) 1

/-- Scale by a power of ten: at most one factor `10 ^ 308` at a time, so that a long run of zeros
behind the point is divided away step by step. `steps` bounds their number. -/
def scaleByTen (steps : Nat) (value : Binary64) (exponent : Int) : Option Binary64 :=
  match steps with
  | 0 => some zero
  | steps + 1 =>
      if exponent.natAbs ≤ 308 then do
        let power ← powerOfTen exponent.natAbs
        if 0 ≤ exponent then value.multiply power else value.divide power
      else if value.isZero then some zero
      else if 0 ≤ exponent then none
      else do
        let smaller ← value.divide (← powerOfTen 308)
        scaleByTen steps smaller (exponent + 308)

/-- Digits taken into a number of at most 64 bits, and how many were left behind. -/
def absorb (number : Nat) : List Nat → Nat × Nat
  | [] => (number, 0)
  | digit :: digits =>
      if Nat.pow 2 64 ≤ number * 10 + digit then (number, digits.length + 1)
      else absorb (number * 10 + digit) digits

/-- The magnitude of a decimal: digits before the point, digits behind it, and a power of ten. -/
def ofDecimal (whole fraction : List Nat) (exponent : Int) : Option Binary64 :=
  let (front, dropped) := absorb 0 whole
  let (significand, ignored) := absorb front fraction
  let scale : Int := dropped - (fraction.length - ignored : Nat) + exponent
  if significand = 0 then some zero
  else (ofRatio significand 1).bind fun value => scaleByTen 4 value scale

/-- The nearest whole number, a half going up. -/
def toNearestNat (value : Binary64) : Nat :=
  let (numerator, denominator) := value.ratio
  (2 * numerator + denominator) / (2 * denominator)

end Binary64

end GroupFederation.Decimal
