import IntentSpec.Datum.Basic
import IntentSpec.Json.Printer

/-!
# Untyped values as JSON

A value whose parts all have a JSON form is exported to that form.  Tuples become arrays, and keys
that are no texts become the text of their JSON form.  Bytes, points in time and records have none.  Keys are
the only place where the export itself writes an integer: an integer that is a value stays one, and is
written, or found to be too long, when the exported tree is printed.

## Main definitions

* `Datum.ExportFault` — why a value has no JSON form.
* `Datum.toJson`, `Datum.toJsonWith` — the JSON form of a value, perhaps with something else for what has none.
* `Datum.ofJson` — a JSON value as an untyped value.
-/

namespace IntentSpec.Datum

/-- Why a value has no JSON form. -/
inductive ExportFault where
  /-- The value, or a part of it, is of a kind that JSON does not have. -/
  | noJson
  /-- An integer that is a key has too many digits. -/
  | numeral (e : Text.NumeralError)
deriving DecidableEq, Repr

/-- What cannot be written cannot be exported. -/
def exported {α : Type} : Except Text.NumeralError α → Except ExportFault α
  | .ok a => .ok a
  | .error e => .error (.numeral e)

/-- The JSON form of a key. -/
def keyText : Datum → Except ExportFault String
  | null => return "null"
  | bool b => return if b then "true" else "false"
  | int n => exported (Text.writeInteger n)
  | number x => return x.render "Infinity" "NaN"
  | text s => return s
  | _ => throw .noJson

section ToJson

variable (other : Datum → Except ExportFault Json)

mutual

/-- The JSON form of a value, with something else for the parts of it that have none. -/
def toJsonWith : Datum → Except ExportFault Json
  | null => return .null
  | bool b => return .bool b
  | int n => return .int n
  | number x => return .number x
  | text s => return .text s
  | list items | tuple items => return .array (← jsonItems items)
  | mapping entries => return .object (← jsonMembers entries)
  | bytes b => other (bytes b)
  | moment m => other (moment m)
  | record type fields => other (record type fields)

/-- The JSON forms of several values. -/
def jsonItems : List Datum → Except ExportFault (List Json)
  | [] => return []
  | item :: items => return (← toJsonWith item) :: (← jsonItems items)

/-- The JSON forms of the entries of a mapping. -/
def jsonMembers : List (Datum × Datum) → Except ExportFault (List (String × Json))
  | [] => return []
  | (key, value) :: entries => return (← keyText key, ← toJsonWith value) :: (← jsonMembers entries)

end

end ToJson

/-- There is nothing else for what has no JSON form. -/
def noForm : Datum → Except ExportFault Json := fun _ => throw .noJson

/-- The JSON form of a value, if it has one. -/
def toJson (d : Datum) : Except ExportFault Json := d.toJsonWith noForm

/-- The text of the JSON form of a value in a style. -/
def jsonText (style : Json.Style) (d : Datum) : Except ExportFault String := do
  exported ((← d.toJson).render style)

mutual

/-- A JSON value as an untyped value. -/
def ofJson : Json → Datum
  | .null => null
  | .bool b => bool b
  | .int n => int n
  | .number x => number x
  | .text s => text s
  | .array items => list (ofJsonItems items)
  | .object members => mapping (ofJsonMembers members)

/-- JSON values as untyped values. -/
def ofJsonItems : List Json → List Datum
  | [] => []
  | item :: items => ofJson item :: ofJsonItems items

/-- The members of a JSON object as entries of a mapping. -/
def ofJsonMembers : List (String × Json) → List (Datum × Datum)
  | [] => []
  | (key, value) :: members => (.text key, ofJson value) :: ofJsonMembers members

end

end IntentSpec.Datum
