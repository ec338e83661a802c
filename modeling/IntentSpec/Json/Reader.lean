import IntentSpec.Json.Basic
import IntentSpec.Number.Reader

/-!
# Reading JSON

The reader takes the characters of a text and answers the value at its front with the characters after
it.  Blanks between the signs do not count, so it reads a value in whatever style it is written.

It is bounded by a depth, which is what its recursion is on.  Every value takes at least one character, so the
length of the text is deep enough, and no text is refused for its nesting.  An escape is looked at as a whole,
and the characters that belong to it are skipped one by one, so that the reading of a text is a recursion over
the text itself.

A number with neither fraction nor exponent is an integer, and any other is rounded to a floating-point number.
The three words for numbers that are not finite are read as well, though the printer of exact values never
writes them.

## Main definitions

* `Json.string?` — a text with its escapes.
* `Json.value?` — a value.
* `Json.read?` — the value that a whole text is.
-/

namespace IntentSpec.Json

open Text

/-- The characters after blanks. -/
def skipBlanks (s : List Char) : List Char :=
  s.dropWhile fun c => c == ' ' || c == '\n' || c == '\t' || c == '\r'

/-- The value of a hexadecimal digit. -/
def hexDigit? (c : Char) : Option Nat :=
  if isAsciiDigit c then some (c.toNat - 48)
  else if 'a' ≤ c && c ≤ 'f' then some (c.toNat - 87)
  else if 'A' ≤ c && c ≤ 'F' then some (c.toNat - 55) else none

/-- The sixteen-bit unit that four hexadecimal digits at the front stand for. -/
def unit? : List Char → Option Nat
  | a :: b :: c :: d :: _ => do
    return ((← hexDigit? a) * 16 + (← hexDigit? b)) * 256 + (← hexDigit? c) * 16 + (← hexDigit? d)
  | _ => none

/-- The character that an escape by units stands for, given what follows the first backslash and letter,
and how many characters it takes. -/
def unitEscape? (s : List Char) : Option (Char × Nat) := do
  let high ← unit? s
  match s.drop 4 with
  | '\\' :: 'u' :: rest =>
    let low ← unit? rest
    if 0xd800 ≤ high && high < 0xdc00 && 0xdc00 ≤ low && low < 0xe000 then
      return (Char.ofNat (0x10000 + (high - 0xd800) * 0x400 + (low - 0xdc00)), 10)
    else return (Char.ofNat high, 4)
  | _ => return (Char.ofNat high, 4)

/-- The character that an escape stands for, given what follows the backslash, and how many characters
it takes. -/
def escape? (s : List Char) : Option (Char × Nat) :=
  match s with
  | 'u' :: rest => (unitEscape? rest).map fun (c, taken) => (c, taken + 1)
  | 'n' :: _ => some ('\n', 1)
  | 'r' :: _ => some ('\r', 1)
  | 't' :: _ => some ('\t', 1)
  | 'b' :: _ => some ('\x08', 1)
  | 'f' :: _ => some ('\x0c', 1)
  | c :: _ => if c = '"' || c = '\\' || c = '/' then some (c, 1) else none
  | [] => none

/-- The characters of a text up to its closing quotation mark, and the characters after that; `skip`
characters belong to an escape. -/
def stringFrom : Nat → List Char → Option (List Char × List Char)
  | _, [] => none
  | skip + 1, _ :: s => stringFrom skip s
  | 0, c :: s =>
    if c = '"' then some ([], s)
    else if c = '\\' then
      match escape? s with
      | none => none
      | some (d, taken) => (stringFrom taken s).map fun (done, rest) => (d :: done, rest)
    else (stringFrom 0 s).map fun (done, rest) => (c :: done, rest)

/-- A text after its opening quotation mark. -/
def string? (s : List Char) : Option (String × List Char) :=
  (stringFrom 0 s).map fun (done, rest) => (String.ofList done, rest)

/-- Whether the character may stand in a word or a number. -/
def isWordPart (c : Char) : Bool := isAsciiWord c || c == '-' || c == '+' || c == '.'

/-- The value that a word or a number is. -/
def word? (s : List Char) : Option Json :=
  match String.ofList s with
  | "null" => some .null
  | "true" => some (.bool true)
  | "false" => some (.bool false)
  | "NaN" => some (.number .nan)
  | "Infinity" => some (.number (.infinity false))
  | "-Infinity" => some (.number (.infinity true))
  | _ => (Decimal.read? s).map fun d =>
      match d.toInt? with
      | some n => .int n
      | none => .number d.toBinary64

mutual

/-- A value that is nested at most to a given depth. -/
def value? : Nat → List Char → Option (Json × List Char)
  | 0, _ => none
  | depth + 1, s =>
    match skipBlanks s with
    | '"' :: rest => (string? rest).map fun (t, rest) => (.text t, rest)
    | '[' :: rest =>
      match skipBlanks rest with
      | ']' :: rest => some (.array [], rest)
      | rest => (items? depth rest).map fun (items, rest) => (.array items, rest)
    | '\x7b' :: rest =>
      match skipBlanks rest with
      | '\x7d' :: rest => some (.object [], rest)
      | rest => (members? depth rest).map fun (members, rest) => (.object members, rest)
    | s => (word? (s.takeWhile isWordPart)).map fun v => (v, s.dropWhile isWordPart)

/-- The items of an array up to its end. -/
def items? : Nat → List Char → Option (List Json × List Char)
  | 0, _ => none
  | depth + 1, s => do
    let (item, s) ← value? depth s
    match skipBlanks s with
    | ']' :: rest => return ([item], rest)
    | ',' :: rest =>
      let (more, rest) ← items? depth rest
      return (item :: more, rest)
    | _ => none

/-- The members of an object up to its end. -/
def members? : Nat → List Char → Option (List (String × Json) × List Char)
  | 0, _ => none
  | depth + 1, s => do
    match skipBlanks s with
    | '"' :: s =>
      let (key, s) ← string? s
      match skipBlanks s with
      | ':' :: s =>
        let (v, s) ← value? depth s
        match skipBlanks s with
        | '\x7d' :: rest => return ([(key, v)], rest)
        | ',' :: rest =>
          let (more, rest) ← members? depth rest
          return ((key, v) :: more, rest)
        | _ => none
      | _ => none
    | _ => none

end

/-- The value that a text is. -/
def read? (text : String) : Option Json :=
  match value? (text.toList.length + 1) text.toList with
  | some (v, rest) => if (skipBlanks rest).isEmpty then some v else none
  | none => none

end IntentSpec.Json
