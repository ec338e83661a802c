import IntentSpec.Number.Binary64

/-!
# The shortest decimal of a number

A number is written with the fewest digits that read back to it, and of those with the nearest ones.
The reals that read back to a number form an interval that reaches halfway to its neighbours; its ends
belong to it when the significand is even.  All comparisons are made in natural numbers.

## Main definitions

* `Binary64.shortest` — the digits and the decimal exponent.
* `Binary64.toText` — positional notation for decimal exponents from -4 to 15, and otherwise an
  exponent of at least two digits with its sign.
-/

namespace IntentSpec.Binary64

/-- The interval of the reals that read back to a positive number, in units of a quarter of its last
place, and whether the ends belong to it.  Below a power of two the gap is half as wide. -/
structure Interval where
  low : Nat
  middle : Nat
  high : Nat
  /-- Whether the ends read back to the number. -/
  closed : Bool

/-- The interval of a significand and an exponent. -/
def intervalOf (m q : Nat) : Interval where
  low := if m == twoTo 52 && 0 < q then 4 * m - 1 else 4 * m - 2
  middle := 4 * m
  high := 4 * m + 2
  closed := m % 2 == 0

/-- A candidate `digits * 10 ^ exponent`, measured on both scales so that it can be compared. -/
def Interval.contains (i : Interval) (q digits : Nat) (exponent : Int) : Bool :=
  let candidate := digits * tenTo exponent.toNat * twoTo 1076
  let unit := twoTo q * tenTo (-exponent).toNat
  if i.closed then i.low * unit ≤ candidate && candidate ≤ i.high * unit
  else i.low * unit < candidate && candidate < i.high * unit

/-- The best decimal on one grid: of the two neighbours of the number those that read back, the nearer
one first, a tie going to the even one. -/
def onGrid (i : Interval) (q : Nat) (exponent : Int) : Option Nat :=
  let unit := twoTo q * tenTo (-exponent).toNat
  let step := tenTo exponent.toNat * twoTo 1076
  let below := i.middle * unit / step
  let twice := 2 * (i.middle * unit % step)
  let nearer := if twice < step || (twice == step && below % 2 == 0) then below else below + 1
  let farther := if nearer == below then below + 1 else below
  [nearer, farther].find? fun digits => i.contains q digits exponent

/-- The decimal exponent of the leading digit of `m * 2 ^ (q - 1074)`, found from an estimate that is
never too small by checking down from it. -/
def leadingExponent (m q : Nat) : Int :=
  let estimate : Int := ((m.log2 : Int) + q - 1074 + 1) * 30103 / 100000 + 1
  let reaches (k : Int) : Bool := tenTo k.toNat * twoTo 1074 ≤ m * twoTo q * tenTo (-k).toNat
  if reaches estimate then estimate
  else if reaches (estimate - 1) then estimate - 1
  else if reaches (estimate - 2) then estimate - 2
  else estimate - 3

/-- Moves trailing zeros of the digits into the exponent, at most `fuel` of them. -/
def stripZeros : Nat → Nat → Int → Nat × Int
  | 0, digits, exponent => (digits, exponent)
  | fuel + 1, digits, exponent =>
    if digits % 10 == 0 then stripZeros fuel (digits / 10) (exponent + 1) else (digits, exponent)

/-- The shortest decimal `digits * 10 ^ exponent` that reads back to a positive finite number.  With
seventeen digits one always does; the exact value stands in after that. -/
def shortest (x : Binary64) : Nat × Int :=
  let (m, q) := x.magnitude
  let i := intervalOf m q
  let lead := leadingExponent m q
  let found := (List.range 17).findSome? fun (count : Nat) =>
    (onGrid i q (lead - count)).map fun digits => (digits, lead - (count : Int))
  match found with
  | some (digits, exponent) => stripZeros 17 digits exponent
  | none => (m * twoTo q * Nat.pow 5 1074, -1074)

/-- Digits laid out around the point, or with an exponent.  `point` is the decimal exponent of the
leading digit. -/
def layout (digits : List Char) (point : Int) : List Char :=
  if point < -4 || 15 < point then
    let exponent := (toString point.natAbs).toList
    let mantissa :=
      match digits with
      | [] => []
      | [d] => [d]
      | d :: rest => d :: '.' :: rest
    mantissa ++ 'e' :: (if point < 0 then '-' else '+') ::
      (if exponent.length < 2 then '0' :: exponent else exponent)
  else if point < 0 then
    '0' :: '.' :: List.replicate ((-point).toNat - 1) '0' ++ digits
  else
    let whole := point.toNat + 1
    if digits.length ≤ whole then
      digits ++ List.replicate (whole - digits.length) '0' ++ ['.', '0']
    else digits.take whole ++ '.' :: digits.drop whole

/-- The text of a number, with given names for infinity and for what is not a number. -/
def render (infinityName nanName : String) (x : Binary64) : String :=
  let sign := if x.negative then "-" else ""
  if x.isNaN then nanName
  else if !x.isFinite then sign ++ infinityName
  else if x.isZero then sign ++ "0.0"
  else
    let (digits, exponent) := x.shortest
    let written := (toString digits).toList
    sign ++ String.ofList (layout written (exponent + written.length - 1))

/-- The text of a number in a message. -/
def toText (x : Binary64) : String := x.render "inf" "nan"

end IntentSpec.Binary64
