import IntentSpec.Number.Power

/-!
# Binary floating-point numbers of 64 bits

A number is given by its bits: a sign, eleven bits of exponent and fifty-two bits of significand.
Rounding is exact: a quotient of natural numbers is rounded to the nearest number, a tie going to the
even one.

## Main definitions

* `Binary64` — the numbers, with the infinities and the values that are not numbers.
* `Binary64.ofRatio` — the number nearest to a quotient.
* `Binary64.ofDecimal` — the number nearest to a decimal.
* `Binary64.magnitude` — the significand and the exponent of a finite number.
-/

namespace IntentSpec

/-- A floating-point number, given by its bits. All that is computed with it is computed on natural
numbers, so that nothing depends on the machine. -/
structure Binary64 where
  /-- The sign, the exponent and the significand, from the most significant bit down. -/
  bits : UInt64
deriving DecidableEq, Repr

namespace Binary64

/-- The bits of infinity without a sign. -/
def infinityBits : Nat := 0x7ff * twoTo 52

/-- The number with a sign and the bits of its magnitude. -/
def ofParts (negative : Bool) (magnitude : Nat) : Binary64 :=
  ⟨(if negative then twoTo 63 + magnitude else magnitude).toUInt64⟩

/-- The value that is not a number. -/
def nan : Binary64 := ofParts false (0x7ff8 * twoTo 48)

/-- Infinity with a sign. -/
def infinity (negative : Bool) : Binary64 := ofParts negative infinityBits

/-- Whether the sign bit is set. -/
def negative (x : Binary64) : Bool := twoTo 63 ≤ x.bits.toNat

/-- The bits without the sign. -/
def magnitudeBits (x : Binary64) : Nat := x.bits.toNat % twoTo 63

/-- Whether the value is not a number. -/
def isNaN (x : Binary64) : Bool := infinityBits < x.magnitudeBits

/-- Whether the value is a number and no infinity. -/
def isFinite (x : Binary64) : Bool := x.magnitudeBits < infinityBits

/-- Whether the value is zero, of either sign. -/
def isZero (x : Binary64) : Bool := x.magnitudeBits == 0

/-- The significand `m` and the exponent `q` of a finite number of magnitude `m * 2 ^ (q - 1074)`. -/
def magnitude (x : Binary64) : Nat × Nat :=
  let field := x.magnitudeBits / twoTo 52
  let fraction := x.magnitudeBits % twoTo 52
  if field = 0 then (fraction, 0) else (twoTo 52 + fraction, field - 1)

/-- The quotient rounded to the nearest natural number, a tie going to the even one. -/
def roundQuotient (numerator denominator : Nat) : Nat :=
  let quotient := numerator / denominator
  let twice := 2 * (numerator % denominator)
  if twice < denominator then quotient
  else if denominator < twice then quotient + 1
  else quotient + quotient % 2

/-- The exponent of the unit in the last place of a positive quotient, counted from the least one. -/
def ulpExponent (numerator denominator : Nat) : Nat :=
  let estimate : Int := (numerator.log2 : Int) - denominator.log2
  let atLeast : Bool :=
    denominator * twoTo estimate.toNat ≤ numerator * twoTo (-estimate).toNat
  ((if atLeast then estimate else estimate - 1) - 52 + 1074).toNat

/-- The number nearest to a quotient.  Rounding may carry into the exponent, and does so in the bits
themselves; a quotient beyond the greatest number is infinite. -/
def ofRatio (negative : Bool) (numerator denominator : Nat) : Binary64 :=
  if numerator = 0 then ofParts negative 0
  else
    let q := ulpExponent numerator denominator
    let m := roundQuotient (numerator * twoTo 1074) (denominator * twoTo q)
    ofParts negative (min infinityBits (q * twoTo 52 + m))

/-- The number nearest to `digits * 10 ^ exponent`.  Exponents that are out of reach for the digits
are not computed with. -/
def ofDecimal (negative : Bool) (digits : Nat) (exponent : Int) : Binary64 :=
  let scale : Int := (toString digits).length + exponent
  if digits = 0 || scale < -400 then ofParts negative 0
  else if 400 < scale then infinity negative
  else if 0 ≤ exponent then ofRatio negative (digits * tenTo exponent.toNat) 1
  else ofRatio negative digits (tenTo (-exponent).toNat)

/-- The number nearest to a quotient of an integer. -/
def ofIntRatio (numerator : Int) (denominator : Nat) : Binary64 :=
  ofRatio (numerator < 0) numerator.natAbs denominator

/-- The integer that a number is, if it is one. -/
def toInt? (x : Binary64) : Option Int :=
  let (m, q) := x.magnitude
  if x.isFinite && m * twoTo q % twoTo 1074 == 0 then
    let n : Nat := m * twoTo q / twoTo 1074
    some (if x.negative then -n else n)
  else none

end Binary64

end IntentSpec
