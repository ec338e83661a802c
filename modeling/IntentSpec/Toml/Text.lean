import IntentSpec.Text.Character

/-!
# Blanks, comments and texts in TOML

The readers of this module take the characters of a document and answer what they have read and the
characters after it, or nothing if the document is malformed there.

## Main definitions

* `Toml.skipBlanks`, `Toml.skipComment?`, `Toml.skipSpace?` — blanks and comments.
* `Toml.literal?`, `Toml.basic?` — texts without and with escapes.
* `Toml.multiline?` — texts of several lines.
-/

namespace IntentSpec.Toml

open Text

/-- Whether the character is a control character other than a tab. -/
def isControl (c : Char) : Bool := (c.toNat < 0x20 && c != '\t') || c.toNat == 0x7f

/-- A blank within a line. -/
def isGap (c : Char) : Bool := c == ' ' || c == '\t'

/-- The characters after blanks within a line. -/
def skipBlanks (s : List Char) : List Char := s.dropWhile isGap

/-- The characters after a comment, if there is one. -/
def skipComment? (s : List Char) : Option (List Char) :=
  match s with
  | '#' :: s =>
    if (s.takeWhile (· != '\n')).any isControl then none else some (s.dropWhile (· != '\n'))
  | _ => some s

/-- The characters after blanks, line feeds and at most a given number of comments. -/
def skipSpaceUpTo : Nat → List Char → Option (List Char)
  | 0, s => some s
  | comments + 1, s =>
    match s.dropWhile fun c => isGap c || c == '\n' with
    | '#' :: s => (skipComment? ('#' :: s)).bind (skipSpaceUpTo comments)
    | s => some s

/-- The characters after blanks, line feeds and comments. -/
def skipSpace? (s : List Char) : Option (List Char) := skipSpaceUpTo (s.length + 1) s

/-- The characters of a text without escapes up to its end, and the characters after that. -/
def literal? : List Char → Option (List Char × List Char)
  | [] => none
  | c :: s =>
    if c = '\'' then some ([], s)
    else if isControl c then none
    else (literal? s).map fun (text, rest) => (c :: text, rest)

/-- The value of hexadecimal digits. -/
def hexValue? (digits : List Char) : Option Nat :=
  digits.foldlM (fun n c =>
    if isAsciiDigit c then some (16 * n + (c.toNat - 48))
    else if 'a' ≤ c && c ≤ 'f' then some (16 * n + (c.toNat - 87))
    else if 'A' ≤ c && c ≤ 'F' then some (16 * n + (c.toNat - 55)) else none) 0

/-- The character that a number of hexadecimal digits name. -/
def codePoint? (width : Nat) (s : List Char) : Option Char := do
  if s.length < width then none
  let n ← hexValue? (s.take width)
  if n < 0xd800 || (0xe000 ≤ n && n < 0x110000) then some (Char.ofNat n) else none

/-- How many characters after a backslash are dropped: blanks up to the end of the line, and all blanks
and line feeds after it. -/
def continuation? (s : List Char) : Option Nat :=
  let gap := s.takeWhile isGap
  match s.drop gap.length with
  | [] => some gap.length
  | '\n' :: rest => some (gap.length + 1 + (rest.takeWhile fun c => isGap c || c == '\n').length)
  | _ => none

/-- What an escape stands for, given the characters after the backslash, and how many of them it
takes. -/
def escape? (severalLines : Bool) (s : List Char) : Option (List Char × Nat) :=
  match s with
  | [] => none
  | c :: rest =>
    if severalLines && (isGap c || c == '\n') then (continuation? s).map fun taken => ([], taken)
    else
      match c with
      | 'b' => some (['\x08'], 1)
      | 't' => some (['\t'], 1)
      | 'n' => some (['\n'], 1)
      | 'f' => some (['\x0c'], 1)
      | 'r' => some (['\r'], 1)
      | '"' => some (['"'], 1)
      | '\\' => some (['\\'], 1)
      | 'u' => (codePoint? 4 rest).map fun c => ([c], 5)
      | 'U' => (codePoint? 8 rest).map fun c => ([c], 9)
      | _ => none

/-- The characters of a text with escapes up to its end, and the characters after that; `skip`
characters belong to an escape. -/
def basicFrom : Nat → List Char → Option (List Char × List Char)
  | _, [] => none
  | skip + 1, _ :: s => basicFrom skip s
  | 0, c :: s =>
    if c = '"' then some ([], s)
    else if c = '\\' then
      match escape? false s with
      | none => none
      | some (text, taken) => (basicFrom taken s).map fun (more, rest) => (text ++ more, rest)
    else if isControl c then none
    else (basicFrom 0 s).map fun (more, rest) => (c :: more, rest)

/-- The characters of a text with escapes up to its end, and the characters after that. -/
def basic? (s : List Char) : Option (List Char × List Char) := basicFrom 0 s

/-- How many quotation marks stand at the front, at most five. -/
def marks (mark : Char) (s : List Char) : Nat := ((s.takeWhile (· == mark)).take 5).length

/-- The characters of a text of several lines up to its end, and the characters after that; `skip`
characters have been dealt with.  Up to two quotation marks right before the end belong to the text. -/
def linesFrom (mark : Char) : Nat → List Char → Option (List Char × List Char)
  | _, [] => none
  | skip + 1, _ :: s => linesFrom mark skip s
  | 0, c :: s =>
    let count := marks mark (c :: s)
    if 3 ≤ count then some (List.replicate (count - 3) mark, s.drop (count - 1))
    else if mark = '"' ∧ c = '\\' then
      match escape? true s with
      | none => none
      | some (text, taken) => (linesFrom mark taken s).map fun (more, rest) => (text ++ more, rest)
    else if isControl c && c != '\n' then none
    else (linesFrom mark 0 s).map fun (more, rest) => (c :: more, rest)

/-- The characters of a text of several lines; a line feed right at its front is dropped. -/
def multiline? (mark : Char) (s : List Char) : Option (List Char × List Char) :=
  linesFrom mark 0 (match s with
    | '\n' :: s => s
    | s => s)

end IntentSpec.Toml
