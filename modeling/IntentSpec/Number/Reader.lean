import IntentSpec.Number.Binary64
import IntentSpec.Text.Character
import IntentSpec.Text.Pieces

/-!
# Reading numbers

A decimal numeral is read as the nearest floating-point number; the least and the greatest numbers that
are no finite ones are read from their names.

## Main definitions

* `Decimal`, `Decimal.read?` — a numeral by its parts.
* `Binary64.read?` — the number that a numeral or a name stands for.
-/

namespace IntentSpec

open Text

/-- A decimal numeral. -/
structure Decimal where
  /-- Whether there is a minus sign. -/
  negative : Bool := false
  /-- The digits in front of the point. -/
  whole : List Char
  fraction : Option (List Char) := none
  exponent : Option Int := none
deriving DecidableEq, Repr

namespace Decimal

/-- The number that digits stand for. -/
def value (digits : List Char) : Nat := digits.foldl (fun n c => 10 * n + (c.toNat - 48)) 0

/-- Digits, if there are some and nothing else. -/
def digits? (s : List Char) : Option (List Char) :=
  if s.isEmpty || !s.all isAsciiDigit then none else some s

/-- A power of ten with its sign. -/
def exponent? (s : List Char) : Option Int :=
  match s with
  | '-' :: s => (digits? s).map fun d => -(value d : Int)
  | '+' :: s => (digits? s).map fun d => (value d : Int)
  | s => (digits? s).map fun d => (value d : Int)

/-- The numeral that a text is. -/
def read? (s : List Char) : Option Decimal := do
  let (negative, s) := match s with
    | '-' :: s => (true, s)
    | s => (false, s)
  let (mantissa, exponent) ← match cutFirst? 'e' (s.map foldAscii) with
    | none => some (s, none)
    | some (mantissa, power) => (exponent? power).map fun e => (mantissa, some e)
  match cutFirst? '.' mantissa with
  | none => return { negative, whole := ← digits? mantissa, exponent }
  | some (whole, fraction) =>
    return { negative, whole := ← digits? whole, fraction := some (← digits? fraction), exponent }

/-- The integer that a numeral without a point and a power is. -/
def toInt? (d : Decimal) : Option Int :=
  if d.fraction.isSome || d.exponent.isSome then none
  else some (if d.negative then -(value d.whole : Int) else value d.whole)

/-- The nearest floating-point number. -/
def toBinary64 (d : Decimal) : Binary64 :=
  let fraction := d.fraction.getD []
  .ofDecimal d.negative (value (d.whole ++ fraction)) (d.exponent.getD 0 - fraction.length)

end Decimal

/-- The number that a numeral or a name stands for. -/
def Binary64.read? (text : String) : Option Binary64 :=
  match text with
  | "nan" => some nan
  | "inf" => some (infinity false)
  | "-inf" => some (infinity true)
  | _ => (Decimal.read? text.toList).map Decimal.toBinary64

end IntentSpec
