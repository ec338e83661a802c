import IntentSpec.Json.Basic
import IntentSpec.Number.Shortest
import IntentSpec.Text.Numeral
import IntentSpec.Text.Printable

/-!
# Writing JSON

One printer serves every output; a `Style` says which characters are escaped and where blanks and line
breaks stand.  The printer is partial: a value with an integer of too many digits has no text in any style,
and whoever asks for one is told so.  Since sorting the members of objects needs no text, a value can have a
canonical tree and still no canonical text.

## Main definitions

* `Json.Style` — the decisions of a format.
* `Json.render` — the text of a value.
* `Json.compactText`, `Json.indentedText` — the texts with sorted keys that serve as sort key and as
  receipt.
-/

namespace IntentSpec.Json

/-- The decisions of a written form: what is escaped, whether there are line breaks, and the two
signs between parts. -/
structure Style where
  /-- Whether characters beyond ASCII are escaped. -/
  ascii : Bool
  /-- Whether every item stands on a line of its own, indented by two blanks a level. -/
  indented : Bool
  comma : String
  /-- What stands between a key and its value. -/
  colon : String

/-- On one line, with a blank after each comma and colon, in ASCII. -/
def Style.spaced : Style := ⟨true, false, ", ", ": "⟩

/-- On one line without blanks. -/
def Style.compact : Style := ⟨false, false, ",", ":"⟩

/-- One item a line. -/
def Style.lined : Style := ⟨false, true, ",", ": "⟩

/-- The escape of a sixteen-bit unit. -/
def unitEscape (n : Nat) : List Char := '\\' :: 'u' :: Text.hexDigits 4 n

/-- One character of a text.  A character beyond the sixteen-bit range is escaped as two units. -/
def escapeChar (ascii : Bool) (c : Char) : List Char :=
  match c with
  | '"' => ['\\', '"']
  | '\\' => ['\\', '\\']
  | '\n' => ['\\', 'n']
  | '\r' => ['\\', 'r']
  | '\t' => ['\\', 't']
  | '\x08' => ['\\', 'b']
  | '\x0c' => ['\\', 'f']
  | _ =>
    let n := c.toNat
    if n < 0x20 then unitEscape n
    else if !ascii || n < 0x7f then [c]
    else if n < 0x10000 then unitEscape n
    else unitEscape (0xd800 + (n - 0x10000) / 0x400) ++ unitEscape (0xdc00 + (n - 0x10000) % 0x400)

/-- A text between double quotes. -/
def quote (ascii : Bool) (s : String) : List Char :=
  '"' :: s.toList.flatMap (escapeChar ascii) ++ ['"']

/-- What stands in front of an item at a depth. -/
def Style.gap (style : Style) (depth : Nat) : List Char :=
  if style.indented then '\n' :: List.replicate (2 * depth) ' ' else []

mutual

/-- The characters of a value at a depth. The first integer that cannot be written ends the work,
wherever it stands in the value. -/
def chars (style : Style) (depth : Nat) : Json → Except Text.NumeralError (List Char)
  | .null => return "null".toList
  | .bool true => return "true".toList
  | .bool false => return "false".toList
  | .int n => return (← Text.writeInteger n).toList
  | .number x => return (x.render "Infinity" "NaN").toList
  | .text s => return quote style.ascii s
  | .array [] => return "[]".toList
  | .array (item :: items) => do
    let first ← chars style (depth + 1) item
    let others ← charsItems style (depth + 1) items
    return '[' :: style.gap (depth + 1) ++ first ++ others ++ style.gap depth ++ [']']
  | .object [] => return "\x7b\x7d".toList
  | .object ((key, value) :: members) => do
    let first ← chars style (depth + 1) value
    let others ← charsMembers style (depth + 1) members
    return '\x7b' :: style.gap (depth + 1) ++ quote style.ascii key ++ style.colon.toList ++ first ++
      others ++ style.gap depth ++ ['\x7d']

/-- The further items of an array. -/
def charsItems (style : Style) (depth : Nat) : List Json → Except Text.NumeralError (List Char)
  | [] => return []
  | item :: items => do
    let first ← chars style depth item
    let others ← charsItems style depth items
    return style.comma.toList ++ style.gap depth ++ first ++ others

/-- The further members of an object. -/
def charsMembers (style : Style) (depth : Nat) :
    List (String × Json) → Except Text.NumeralError (List Char)
  | [] => return []
  | (key, value) :: members => do
    let first ← chars style depth value
    let others ← charsMembers style depth members
    return style.comma.toList ++ style.gap depth ++ quote style.ascii key ++ style.colon.toList ++ first ++
      others

end

/-- The text of a value, if every integer in it can be written. Floating-point numbers always can,
as they have words for what is not finite. -/
def render (style : Style) (value : Json) : Except Text.NumeralError String := do
  return String.ofList (← value.chars style 0)

/-- The text of a value on one line, with sorted keys and no blanks; it serves as a sort key. -/
def compactText (value : Json) : Except Text.NumeralError String := value.sortKeys.render .compact

/-- The text of a value with sorted keys and one item a line; it is the form of a receipt. -/
def indentedText (value : Json) : Except Text.NumeralError String := value.sortKeys.render .lined

end IntentSpec.Json
