import IntentSpec.Number.Power
import IntentSpec.Text.Character
import IntentSpec.Text.Pieces
import IntentSpec.Text.Printable

/-!
# Reading and writing integers

Integers are unbounded, but their texts are not: turning digits into a number, or a number into digits,
takes time that grows with the square of their count, so a text from outside could keep the program busy
for as long as it likes.  One bound is therefore set on both directions, at 4300 digits.  It makes reading
*and writing* partial.  A number with more digits can be held all the same (a configuration file may give one
in hexadecimal digits, which are not bounded), and it is only where such a number is to be shown that the
program stops.  For this reason everything that prints an integer, from the form of a value in a message to
the text of a receipt, goes through `Text.writeInteger` and answers an error where that does.

An integer is read generously: blanks around it, a sign, the decimal digits of any script and single
underscores between digits are accepted.  An exact integer is one that is written the way it would be
printed.

## Main definitions

* `Text.readInteger`, `Text.writeInteger` — the generous reading, and the writing.
* `Text.NumeralError` — why a text is not read or not written.
* `Text.exactInteger?` — the strict reading.
-/

namespace IntentSpec.Text

/-- Why a text is not read as an integer, or an integer not written. -/
inductive NumeralError where
  | malformed (text : String)
  /-- The text has more digits than are read. -/
  | tooLong (digits : Nat)
  /-- The integer has more digits than are written. -/
  | unwritable
deriving DecidableEq, Repr

/-- The greatest number of digits that is read or written.  A sign does not count. -/
def maxDigits : Nat := 4300

/-- The message of the error.  Of a long text only a part is shown.  The digits of an integer are not counted
when it is written, so that message does not tell how many there are. -/
def NumeralError.message : NumeralError → String
  | malformed text =>
    "invalid literal for int() with base 10: " ++ String.ofList ((quoted text).toList.take 200)
  | tooLong digits =>
    s!"Exceeds the limit ({maxDigits} digits) for integer string conversion: value has {digits} " ++
      "digits; use sys.set_int_max_str_digits() to increase the limit"
  | unwritable =>
    s!"Exceeds the limit ({maxDigits} digits) for integer string conversion; " ++
      "use sys.set_int_max_str_digits() to increase the limit"

/-- The blanks allowed around an integer.  The information separators are not among them. -/
def isNumeralBlank (c : Char) : Bool := isAsciiBlank c || (0x7f ≤ c.toNat && isBlank c)

/-- Whether the character may stand in the digits of an integer. -/
def isNumeralPart (c : Char) : Bool := c == '_' || (digitValue? c).isSome

/-- The sign at the front of a text, and the rest. -/
def sign : List Char → Bool × List Char
  | '-' :: s => (true, s)
  | '+' :: s => (false, s)
  | s => (false, s)

/-- The integer that a text names. Too many digits are found out before it is known whether the
whole text is a numeral, so such a text is too long and not malformed. -/
def readInteger (text : String) : Except NumeralError Int :=
  let (negative, s) := sign (text.toList.dropWhile isNumeralBlank)
  let run := s.takeWhile isNumeralPart
  let digits := run.filterMap digitValue?
  if (splitAt '_' run).any (·.isEmpty) then .error (.malformed text)
  else if maxDigits < digits.length then .error (.tooLong digits.length)
  else if (s.dropWhile isNumeralPart).all isNumeralBlank then
    let magnitude : Nat := digits.foldl (fun n d => 10 * n + d) 0
    .ok (if negative then -magnitude else magnitude)
  else .error (.malformed text)

/-- The decimal digits of an integer, behind its sign.  This is the only way in which an integer from
outside gets into a text, so a number that is too long is met here whatever it was to be written for. -/
def writeInteger (n : Int) : Except NumeralError String :=
  if n.natAbs < tenTo maxDigits then .ok (toString n) else .error .unwritable

/-- The integer that a text names, if the text is what printing the integer gives.  What has been read is
short enough to be written again. -/
def exactInteger? (text : String) : Option Int :=
  match readInteger text with
  | .ok n => if toString n = text then some n else none
  | .error _ => none

end IntentSpec.Text
