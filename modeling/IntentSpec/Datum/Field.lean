import IntentSpec.Datum.Shown
import IntentSpec.Report.Basic

/-!
# Reading fields

A field is read at a path, which is the place that a rejection names.  Sequences are read item by item,
each at the path of its index.

Reading goes from left to right and stops at the first defect, so a payload with several of them is
rejected for the one that comes first.  What was expected and what was found are both part of the rejection,
as the name of a type or the words of a vocabulary.

Lists and tuples count as sequences alike, and a number is no integer even if it has no fraction.  Keys of
objects have to be texts.  Superfluous keys are reported before missing ones, all of them at once and in
order, since which of them comes first in a mapping says nothing.

## Main definitions

* `Field.text`, `Field.name`, `Field.member` — texts, texts that are not blank, words of a vocabulary.
* `Field.sequence`, `Field.texts` — sequences.
* `Field.members` — the members of an object with given keys.
* `Field.json` — a value that has an exact JSON form.
-/

namespace IntentSpec.Field

open Report (Defect Rejection)

/-- Rejects the value at a path. -/
def reject {α : Type} (path : String) (defect : Defect) : Except Rejection α := .error ⟨path, defect⟩

/-- Reads a text. -/
def text (path : String) : Datum → Except Rejection String
  | .text s => .ok s
  | d => reject path (.expected "string" d.typeName)

/-- Reads a text that is not blank. -/
def name (path : String) (d : Datum) : Except Rejection String := do
  let s ← text path d
  if Text.isBlankText s then reject path .blank else return s

/-- Reads a word of a vocabulary. -/
def member {α : Type} (all : List α) (word : α → String) (path : String) (d : Datum) :
    Except Rejection α := do
  let s ← text path d
  match all.find? (word · == s) with
  | some a => return a
  | none => reject path (.notMember (Text.quoted s) (all.map word))

/-- Reads a sequence. -/
def sequence (path : String) : Datum → Except Rejection (List Datum)
  | .list items | .tuple items => .ok items
  | d => reject path (.expected "array" d.typeName)

/-- The path of an item. -/
def itemPath (path : String) (index : Nat) : String := s!"{path}[{index}]"

/-- Reads the items of a sequence one by one, the first at a given index. -/
def items {α : Type} (read : String → Datum → Except Rejection α) (path : String) :
    Nat → List Datum → Except Rejection (List α)
  | _, [] => .ok []
  | index, d :: ds => do return (← read (itemPath path index) d) :: (← items read path (index + 1) ds)

/-- Reads a sequence of texts. -/
def texts (path : String) (d : Datum) : Except Rejection (List String) := do
  items text path 0 (← sequence path d)

/-- Reads a value that may be absent. -/
def optional {α : Type} (read : Datum → Except Rejection α) : Datum → Except Rejection (Option α)
  | .null => .ok none
  | d => do return some (← read d)

/-- Reads entries whose keys are texts. -/
def textKeys (path : String) : List (Datum × Datum) → Except Rejection (List (String × Datum))
  | [] => .ok []
  | (.text key, value) :: entries => do return (key, value) :: (← textKeys path entries)
  | (key, _) :: _ => reject path (.keyNotText key.typeName)

/-- Reads an object that has all required keys and no others than those and the optional ones. -/
def members (path : String) (required optional : List String) :
    Datum → Except Rejection (List (String × Datum))
  | .mapping entries => do
    let members ← textKeys path entries
    let keys := members.map (·.1)
    let surplus := keys.filter fun key => !(required.contains key || optional.contains key)
    let missing := required.filter fun key => !keys.contains key
    if !surplus.isEmpty then
      reject path (.unexpectedFields (Text.quotedList (sortTexts surplus)))
    else if !missing.isEmpty then
      reject path (.missingFields (Text.quotedList (sortTexts missing)))
    else return members
  | d => reject path (.expected "object" d.typeName)

/-- The value of a key, absent if there is none. -/
def get (key : String) (members : List (String × Datum)) : Datum :=
  ((members.find? (·.1 == key)).map (·.2)).getD .null

mutual

/-- Reads a value that has an exact JSON form. -/
def json (path : String) : Datum → Except Rejection Json
  | .null => .ok .null
  | .bool b => .ok (.bool b)
  | .int n => .ok (.int n)
  | .text s => .ok (.text s)
  | .number x => if x.isFinite then .ok (.number x) else reject path .notFinite
  | .mapping entries => do return .object (← jsonMembers path entries)
  | .list items | .tuple items => do return .array (← jsonItems path 0 items)
  | d@(.bytes _) | d@(.moment _) | d@(.record ..) => reject path (.notExportable d.typeName)

/-- Reads the items of an array, the first at a given index. -/
def jsonItems (path : String) : Nat → List Datum → Except Rejection (List Json)
  | _, [] => .ok []
  | index, d :: ds => do
    return (← json (itemPath path index) d) :: (← jsonItems path (index + 1) ds)

/-- Reads the members of an object. -/
def jsonMembers (path : String) : List (Datum × Datum) → Except Rejection (List (String × Json))
  | [] => .ok []
  | (.text key, value) :: entries => do
    return (key, ← json (path ++ "." ++ key) value) :: (← jsonMembers path entries)
  | (key, _) :: _ => reject path (.keyNotText key.typeName)

end

/-- Reads an object whose values have an exact JSON form. -/
def jsonObject (path : String) : Datum → Except Rejection (List (String × Json))
  | .mapping entries => jsonMembers path entries
  | d => reject path (.expected "object" d.typeName)

end IntentSpec.Field
