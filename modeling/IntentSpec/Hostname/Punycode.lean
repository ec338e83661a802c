import IntentSpec.Text.Character

/-!
# Labels in ASCII

A label with characters beyond ASCII is written as its ASCII characters, a hyphen, and digits that say
which other characters stand where.  The digits are numbers in a base of 36 whose thresholds adapt to the
numbers before.

## Main definitions

* `Punycode.encode` — a label in ASCII.
* `Punycode.decode?` — a label from ASCII, if it is one.

Labels are lists of code points, since what is decoded may be none of a character.
-/

namespace IntentSpec.Punycode

/-- The first code point beyond ASCII. -/
def firstBeyond : Nat := 0x80

/-- The last code point. -/
def lastPoint : Nat := 0x10ffff

/-- The adaptation at the start. -/
def startBias : Nat := 72

/-- The number of digits. -/
def base : Nat := 36

/-- The threshold of the digit at a position. -/
def threshold (position bias : Nat) : Nat := max 1 (min 26 (base * (position + 1) - bias))

/-- Divides a distance until it is small; answers it with the position that it then has. -/
def shrink : Nat → Nat → Nat → Nat × Nat
  | 0, delta, position => (delta, position)
  | fuel + 1, delta, position =>
    if 455 < delta then shrink fuel (delta / 35) (position + base) else (delta, position)

/-- The adaptation after a distance, given whether it was the first one and how many characters there
are. -/
def adapt (delta : Nat) (first : Bool) (count : Nat) : Nat :=
  let delta := if first then delta / 700 else delta / 2
  let (delta, position) := shrink delta (delta + delta / count) 0
  position + base * delta / (delta + 38)

/-- The digit of a value. -/
def digit (value : Nat) : Char := Char.ofNat (if value < 26 then 97 + value else 22 + value)

/-- The value of a digit. -/
def digitValue? (c : Char) : Option Nat :=
  if 'a' ≤ c ∧ c ≤ 'z' then some (c.toNat - 97)
  else if 'A' ≤ c ∧ c ≤ 'Z' then some (c.toNat - 65)
  else if '0' ≤ c ∧ c ≤ '9' then some (c.toNat - 22)
  else none

/-- The digits of a distance from a position on. -/
def digits (bias : Nat) : Nat → Nat → Nat → List Char
  | 0, _, delta => [digit delta]
  | fuel + 1, position, delta =>
    let t := threshold position bias
    if delta < t then [digit delta]
    else digit (t + (delta - t) % (base - t)) :: digits bias fuel (position + 1) ((delta - t) / (base - t))

/-- What is known while a label is encoded. -/
structure Encoding where
  delta : Nat
  bias : Nat
  /-- How many characters have been dealt with. -/
  count : Nat
  written : List Char

/-- Goes past one character of a label while all occurrences of `point` are encoded; `ascii` is the number
of ASCII characters. -/
def Encoding.pass (ascii point : Nat) (e : Encoding) (n : Nat) : Encoding :=
  if n < point then { e with delta := e.delta + 1 }
  else if n = point then
    { delta := 0
      bias := adapt e.delta (e.count == ascii) (e.count + 1)
      count := e.count + 1
      written := e.written ++ digits e.bias e.delta 0 e.delta }
  else e

/-- Encodes all occurrences of characters, which are given in increasing order. -/
def encodePoints (ascii : Nat) (label : List Nat) : Nat → List Nat → Encoding → Encoding
  | _, [], e => e
  | reached, point :: points, e =>
    let e := { e with delta := e.delta + (point - reached) * (e.count + 1) }
    let e := label.foldl (Encoding.pass ascii point) e
    encodePoints ascii label (point + 1) points { e with delta := e.delta + 1 }

/-- Code points in increasing order, each once. -/
def ordered (points : List Nat) : List Nat :=
  points.foldr (fun n done => done.takeWhile (· < n) ++ n :: done.dropWhile (· ≤ n)) []

/-- A label in ASCII. -/
def encode (label : List Nat) : List Char :=
  let ascii := label.filter (· < firstBeyond)
  let beyond := label.filter (firstBeyond ≤ ·)
  let e := encodePoints ascii.length label firstBeyond (ordered beyond) ⟨0, startBias, ascii.length, []⟩
  let front := if ascii.isEmpty then [] else ascii.map Char.ofNat ++ ['-']
  front ++ e.written

/-- The distance that digits give from a position on, and what follows them. -/
def distance? (bias : Nat) : Nat → Nat → Nat → List Char → Option (Nat × List Char)
  | _, _, _, [] => none
  | position, weight, sum, c :: s => do
    let value ← digitValue? c
    let t := threshold position bias
    let sum := sum + value * weight
    if value < t then return (sum, s)
    else distance? bias (position + 1) (weight * (base - t)) sum s

/-- Puts in the characters that digits give.  `reached` is the place and the character of the last one. -/
def insertAll : Nat → Bool → Nat → Nat × Nat → List Nat → List Char → Option (List Nat)
  | _, _, _, _, label, [] => some label
  | 0, _, _, _, _, _ :: _ => none
  | fuel + 1, first, bias, (place, point), label, c :: s => do
    let (delta, rest) ← distance? bias 0 1 0 (c :: s)
    let place := place + delta
    let point := point + place / (label.length + 1)
    let place := place % (label.length + 1)
    if lastPoint < point then none
    else
      let label := label.take place ++ point :: label.drop place
      insertAll fuel false (adapt delta first label.length) (place + 1, point) label rest

/-- A label from ASCII.  The last hyphen stands before the digits. -/
def decode? (s : List Char) : Option (List Nat) :=
  let digits := (s.reverse.takeWhile (· != '-')).reverse
  let front := (s.take (s.length - digits.length)).dropLast
  insertAll digits.length true startBias (0, firstBeyond) (front.map Char.toNat) digits

end IntentSpec.Punycode
