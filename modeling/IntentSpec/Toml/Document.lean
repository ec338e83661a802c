import IntentSpec.Toml.Number
import IntentSpec.Toml.Table

/-!
# Documents in TOML

A document is read statement by statement: a key with a value, the header of a table or the header of a
table of an array, each on a line of its own.  Values nest at most as deep as the document is long.

The depth bounds the recursion over values, so that it is one on a number.  Since every level of nesting takes
a character, no document is refused for it.  Tables are built up while the document is read, and whether a
statement may add to a table is decided by the operation on tables and not by the reader.

A document is malformed as a whole: the first statement that cannot be read, or that may not be made, ends the
reading without a position.  Only an integer with too many digits is told apart, since it is well formed and
its failure is another one.

## Main definitions

* `Toml.key?` — a dotted key.
* `Toml.value`, `Toml.pair` — a value, and a key with its value.
* `Toml.read` — the value of a document.
-/

namespace IntentSpec.Toml

open Text

/-- Reads on if there is something to read. -/
def expect {α : Type} : Option α → Except Fault α
  | some a => .ok a
  | none => .error .malformed

/-- Whether the character may stand in a key without quotation marks. -/
def isBare (c : Char) : Bool := isAsciiWord c || c == '-'

/-- A part of a key, and the characters after it. -/
def keyPart? (s : List Char) : Option (List Char × List Char) :=
  match s with
  | '\'' :: rest => literal? rest
  | '"' :: rest => basic? rest
  | c :: _ => if isBare c then some (s.takeWhile isBare, s.dropWhile isBare) else none
  | [] => none

/-- The parts of a key up to a given number, and the characters after it and the blanks behind it. -/
def keyUpTo : Nat → List Char → Option (List String × List Char)
  | 0, _ => none
  | parts + 1, s => do
    let (part, s) ← keyPart? s
    match skipBlanks s with
    | '.' :: s =>
      let (rest, s) ← keyUpTo parts (skipBlanks s)
      return (String.ofList part :: rest, s)
    | s => return ([String.ofList part], s)

/-- A dotted key, and the characters after it and the blanks behind it. -/
def key? (s : List Char) : Option (List String × List Char) := keyUpTo s.length s

/-- The section in which all dotted keys of an inline table stand. -/
def inlineSection : Nat := 0

/-- A value that holds no other values. -/
def scalar (s : List Char) : Except Fault (Datum × List Char) := do
  let text (found : Option (List Char × List Char)) : Except Fault (Datum × List Char) := do
    let (t, rest) ← expect found
    return (.text (String.ofList t), rest)
  match s with
  | '"' :: '"' :: '"' :: rest => text (multiline? '"' rest)
  | '"' :: rest => text (basic? rest)
  | '\'' :: '\'' :: '\'' :: rest => text (multiline? '\'' rest)
  | '\'' :: rest => text (literal? rest)
  | 't' :: 'r' :: 'u' :: 'e' :: rest => return (.bool true, rest)
  | 'f' :: 'a' :: 'l' :: 's' :: 'e' :: rest => return (.bool false, rest)
  | _ =>
    match ← moment? s with
    | some (m, rest) => return (.moment m, rest)
    | none => expect (← number? s)

mutual

/-- A value. -/
def value : Nat → List Char → Except Fault (Datum × List Char)
  | 0, _ => .error .malformed
  | depth + 1, s =>
    match s with
    | '[' :: rest => do
      match ← expect (skipSpace? rest) with
      | ']' :: rest => return (.list [], rest)
      | rest => arrayItems depth [] rest
    | '\x7b' :: rest =>
      match skipBlanks rest with
      | '\x7d' :: rest => .ok (.mapping [], rest)
      | rest => tableItems depth [] rest
    | _ => scalar s

/-- The further items of an array. -/
def arrayItems : Nat → List Datum → List Char → Except Fault (Datum × List Char)
  | 0, _, _ => .error .malformed
  | depth + 1, done, s => do
    let (d, s) ← value depth s
    match ← expect (skipSpace? s) with
    | ']' :: rest => return (.list (done ++ [d]), rest)
    | ',' :: rest =>
      match ← expect (skipSpace? rest) with
      | ']' :: rest => return (.list (done ++ [d]), rest)
      | rest => arrayItems depth (done ++ [d]) rest
    | _ => .error .malformed

/-- The further entries of an inline table. -/
def tableItems : Nat → Entries → List Char → Except Fault (Datum × List Char)
  | 0, _, _ => .error .malformed
  | depth + 1, done, s => do
    let ((keys, d), s) ← pair depth s
    let done ← expect (set inlineSection d keys done)
    match skipBlanks s with
    | '\x7d' :: rest => return (datumOf done, rest)
    | ',' :: rest => tableItems depth done (skipBlanks rest)
    | _ => .error .malformed

/-- A key with its value. -/
def pair : Nat → List Char → Except Fault ((List String × Datum) × List Char)
  | 0, _ => .error .malformed
  | depth + 1, s => do
    let (keys, s) ← expect (key? s)
    let s ← expect (mark? '=' s)
    let (d, s) ← value depth (skipBlanks s)
    return ((keys, d), s)

end

/-- A document while it is read. -/
structure Progress where
  entries : Entries := []
  /-- The table that the last header named. -/
  header : List String := []
  /-- The number of the current section. -/
  section_ : Nat := 0

/-- A statement, and the characters after it. -/
def statement (depth : Nat) (p : Progress) (s : List Char) : Except Fault (Progress × List Char) :=
  match s with
  | '[' :: '[' :: rest => do
    let (keys, s) ← expect (key? (skipBlanks rest))
    let entries ← expect (append keys p.entries)
    let s ← expect ((mark? ']' s).bind (mark? ']'))
    return ({ entries, header := keys, section_ := p.section_ + 1 }, s)
  | '[' :: rest => do
    let (keys, s) ← expect (key? (skipBlanks rest))
    let entries ← expect (declare (p.section_ + 1) keys p.entries)
    let s ← expect (mark? ']' s)
    return ({ entries, header := keys, section_ := p.section_ + 1 }, s)
  | _ => do
    let ((keys, d), s) ← pair depth s
    let entries ← expect (within (set p.section_ d keys) p.header p.entries)
    return ({ p with entries }, s)

/-- Reads at most a given number of lines. -/
def lines (depth : Nat) : Nat → Progress → List Char → Except Fault Progress
  | 0, _, _ => .error .malformed
  | count + 1, p, s => do
    let s := skipBlanks s
    let (p, s) ← match s with
      | [] | '\n' :: _ | '#' :: _ => pure (p, s)
      | _ => statement depth p s
    match ← expect (skipComment? (skipBlanks s)) with
    | [] => return p
    | '\n' :: rest => lines depth count p rest
    | _ => .error .malformed

/-- The value of a document. -/
def read (text : List Char) : Except Fault Datum := do
  let p ← lines (2 * text.length + 2) (text.length + 1) {} text
  return datumOf p.entries

end IntentSpec.Toml
