import IntentSpec.Datum.Basic
import IntentSpec.Number.Shortest
import IntentSpec.Text.Numeral
import IntentSpec.Text.Printable

/-!
# Values in messages

The form in which a message shows a value that it rejects: texts are quoted, numbers are written out,
and containers show their items.  It is a partial form, since an integer of too many digits is not written, and
a container with such an integer anywhere in it is not shown either.  So a message about a value can fail
where the check of the value would have succeeded, and what makes such messages says so in its type.

## Main definitions

* `Datum.shown` — the form of a value in a message.
* `Datum.plain` — the form of a value where a text stands for itself.
-/

namespace IntentSpec.Datum

open Text

/-- One byte between quotation marks. -/
def shownByte (mark : Char) (b : UInt8) : List Char :=
  let c := Char.ofNat b.toNat
  if 0x20 ≤ b.toNat && b.toNat < 0x7f then quotedChar mark c
  else
    match c with
    | '\n' => ['\\', 'n']
    | '\r' => ['\\', 'r']
    | '\t' => ['\\', 't']
    | _ => '\\' :: 'x' :: hexDigits 2 b.toNat

/-- Bytes between quotation marks. -/
def shownBytes (b : List UInt8) : String :=
  let mark := quotationMark (b.map fun byte => Char.ofNat byte.toNat)
  "b" ++ String.ofList (mark :: b.flatMap (shownByte mark) ++ [mark])

mutual

/-- The form of a value in a message. It fails at the first integer that has too many digits, so a
value can be refused and the message about it not be written. -/
def shown : Datum → Except NumeralError String
  | null => return "None"
  | bool true => return "True"
  | bool false => return "False"
  | int n => writeInteger n
  | number x => return x.toText
  | text s => return quoted s
  | bytes b => return shownBytes b
  | moment m => return m.shown
  | list items => return "[" ++ ", ".intercalate (← shownItems items) ++ "]"
  | tuple [item] => return "(" ++ (← shown item) ++ ",)"
  | tuple items => return "(" ++ ", ".intercalate (← shownItems items) ++ ")"
  | mapping entries => return "\x7b" ++ ", ".intercalate (← shownEntries entries) ++ "\x7d"
  | record type fields => return type ++ "(" ++ ", ".intercalate (← shownFields fields) ++ ")"

/-- The forms of several values. -/
def shownItems : List Datum → Except NumeralError (List String)
  | [] => return []
  | item :: items => return (← shown item) :: (← shownItems items)

/-- The forms of the entries of a mapping. -/
def shownEntries : List (Datum × Datum) → Except NumeralError (List String)
  | [] => return []
  | (key, value) :: entries => return ((← shown key) ++ ": " ++ (← shown value)) :: (← shownEntries entries)

/-- The forms of the fields of a record. -/
def shownFields : List (String × Datum) → Except NumeralError (List String)
  | [] => return []
  | (name, value) :: fields => return (name ++ "=" ++ (← shown value)) :: (← shownFields fields)

end

/-- The form of a value in running text or in the path of a field, where a text stands for itself and a point in
time is written for people. -/
def plain : Datum → Except NumeralError String
  | text s => return s
  | moment m => return m.plain
  | d => d.shown

end IntentSpec.Datum
