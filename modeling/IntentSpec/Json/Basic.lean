import IntentSpec.Number.Binary64
import IntentSpec.Sorting

/-!
# JSON values

The tree that every report and receipt is turned into before it is written.  The members of an object
are a list, in the order in which they are written.

Keeping the order lets one tree stand for one text.  Trees whose members differ in order only are different
here, and they become equal by sorting (`Json.sortKeys`), which is what all canonical texts do first.  A key
may stand twice in a tree that was put together by hand; the trees of the program come from mappings, where
it cannot.

Integers and floating-point numbers are kept apart, as they are written differently even where they are
equal.  Integers have no bound as values.  Printing them does have one, and it belongs to the printer.

## Main definitions

* `Json` — the values.
* `Json.sortKeys` — the members of every object in increasing order of their keys.
-/

namespace IntentSpec

/-- A JSON value.  Integers are kept apart from floating-point numbers, and are unbounded. -/
inductive Json where
  | null
  | bool (b : Bool)
  | int (n : Int)
  | number (x : Binary64)
  | text (s : String)
  | array (items : List Json)
  /-- An object, with its members in written order. -/
  | object (members : List (String × Json))

namespace Json

instance : Inhabited Json := ⟨.null⟩

/-- An array of texts. -/
def texts (l : List String) : Json := .array (l.map .text)

mutual

/-- The value with the members of every object in increasing order of their keys.  Arrays keep their
order. -/
def sortKeys : Json → Json
  | .array items => .array (sortItems items)
  | .object members => .object (sortBy (fun a b => textLe a.1 b.1) (sortMembers members))
  | .null => .null
  | .bool b => .bool b
  | .int n => .int n
  | .number x => .number x
  | .text s => .text s

/-- The items of an array, each sorted. -/
def sortItems : List Json → List Json
  | [] => []
  | item :: items => sortKeys item :: sortItems items

/-- The members of an object in their order, with the values sorted. -/
def sortMembers : List (String × Json) → List (String × Json)
  | [] => []
  | (key, value) :: members => (key, sortKeys value) :: sortMembers members

end

end Json

end IntentSpec
