import IntentSpec.Datum.Moment
import IntentSpec.Number.Binary64

/-!
# Untyped values

What a caller hands in before anything is known about it: the content of a configuration file, a
report that another program wrote, the fields of a log event.  Such a value is read into a type of this
library by a function that names the place and the kind of whatever does not fit.

A mapping can be given as a mapping or as a sequence of pairs, each of which consists of a key and a value.

## Main definitions

* `Datum` — the values.
* `Datum.typeName` — the name of a kind of value in messages.
* `Datum.sameKey` — when two values are the same key of a mapping.
* `Datum.find?`, `Datum.assign` — access to the entries of a mapping.
* `Datum.elements?` — what a value consists of.
* `Datum.PairFault`, `Datum.PairFault.message?` — why a value gives no mapping.
* `Datum.entries` — the entries that a value gives.
-/

namespace IntentSpec

/-- An untyped value. Values that are equal as numbers are told apart by their kind, and a mapping
keeps the order of its entries; what is equal and what is one key is said by functions on them. -/
inductive Datum where
  | null
  | bool (b : Bool)
  | int (n : Int)
  | number (x : Binary64)
  | text (s : String)
  | bytes (b : List UInt8)
  | moment (m : Moment)
  | list (items : List Datum)
  /-- A tuple, which is a sequence as a list is. -/
  | tuple (items : List Datum)
  /-- A mapping, with its entries in written order. -/
  | mapping (entries : List (Datum × Datum))
  /-- A record of a named type with the fields it was built from. -/
  | record (type : String) (fields : List (String × Datum))

namespace Datum

/-- A mapping whose keys are texts. -/
def object (members : List (String × Datum)) : Datum :=
  .mapping (members.map fun (key, value) => (.text key, value))

/-- The name of the kind of a value, as messages give it. -/
def typeName : Datum → String
  | null => "NoneType"
  | bool _ => "bool"
  | int _ => "int"
  | number _ => "float"
  | text _ => "str"
  | bytes _ => "bytes"
  | moment m => m.typeName
  | list _ => "list"
  | tuple _ => "tuple"
  | mapping _ => "dict"
  | record type _ => type

/-- Whether the value counts as nothing: it is absent, false, zero or empty. A point in time and a
record never do, whatever they hold. -/
def isNothing : Datum → Bool
  | null => true
  | bool b => !b
  | int n => n == 0
  | number x => x.isZero
  | text s => s.isEmpty
  | bytes b => b.isEmpty
  | list items | tuple items => items.isEmpty
  | mapping entries => entries.isEmpty
  | moment _ | record .. => false

/-- The integer that a value equals. -/
def toInt? : Datum → Option Int
  | bool b => some (if b then 1 else 0)
  | int n => some n
  | number x => x.toInt?
  | _ => none

mutual

/-- Whether two values are the same key.  Numbers of different kinds are the same key when they are
equal, and what is not a number is no key but its own. -/
def sameKey : Datum → Datum → Bool
  | null, null => true
  | text s, text t => s == t
  | bytes a, bytes b => a == b
  | moment a, moment b => a.same b
  | tuple a, tuple b => sameKeys a b
  | number x, number y => x.toInt? == y.toInt? && (x.toInt?.isSome || (x == y && !x.isNaN))
  | a, b => a.toInt?.isSome && a.toInt? == b.toInt?

/-- Whether two sequences of values agree item by item. -/
def sameKeys : List Datum → List Datum → Bool
  | [], [] => true
  | a :: l, b :: m => sameKey a b && sameKeys l m
  | _, _ => false

end

/-- The entry of a text key. -/
def lookup? (key : String) (entries : List (Datum × Datum)) : Option Datum :=
  (entries.find? fun entry => entry.1.sameKey (.text key)).map (·.2)

/-- The entry of a text key in a mapping. -/
def find? (key : String) : Datum → Option Datum
  | mapping entries => lookup? key entries
  | _ => none

/-- Sets the entry of a key, where it stands or else at the end. The key that stands there stays,
even if another value counts as the same key. -/
def assign (key value : Datum) : List (Datum × Datum) → List (Datum × Datum)
  | [] => [(key, value)]
  | entry :: entries =>
    if entry.1.sameKey key then (entry.1, value) :: entries else entry :: assign key value entries

/-- The mapping of a list of entries; of several entries of one key the last counts, at the place of
the first. -/
def ofEntries (entries : List (Datum × Datum)) : Datum :=
  .mapping (entries.foldl (fun done entry => assign entry.1 entry.2 done) [])

mutual

/-- Whether a value can be the key of a mapping. -/
def isKey : Datum → Bool
  | list _ | mapping _ => false
  | tuple items => areKeys items
  | _ => true

/-- Whether all values can be keys. -/
def areKeys : List Datum → Bool
  | [] => true
  | item :: items => isKey item && areKeys items

end

/-- The items of a sequence. -/
def items? : Datum → Option (List Datum)
  | list items | tuple items => some items
  | _ => none

/-- The values that a value consists of, one after another: the items of a sequence, the keys of a mapping,
the characters of a text, the numbers of bytes. -/
def elements? : Datum → Option (List Datum)
  | list items | tuple items => some items
  | mapping entries => some (entries.map (·.1))
  | text s => some (s.toList.map fun c => text (String.singleton c))
  | bytes b => some (b.map fun n => int n.toNat)
  | _ => none

/-- The text that a value is. -/
def text? : Datum → Option String
  | text s => some s
  | _ => none

end Datum

end IntentSpec

namespace IntentSpec.Datum

/-! ## Mappings from pairs -/

/-- Why a value gives no mapping. Only a pair of the wrong length has a message that tells where it
stands. -/
inductive PairFault where
  | notSequence
  | notKey
  /-- What stands at a position is no pair, for its length. -/
  | length (position length : Nat)
deriving DecidableEq, Repr

/-- The wording of a fault that has one. -/
def PairFault.message? : PairFault → Option String
  | notSequence | notKey => none
  | length position n =>
    some ("dictionary update sequence element #" ++ toString position ++ " has length " ++ toString n ++
      "; 2 is required")

/-- The entries that the pairs from a position on give. -/
def entriesFrom (position : Nat) : List Datum → Except PairFault (List (Datum × Datum))
  | [] => .ok []
  | pair :: pairs =>
    match pair.elements? with
    | none => .error .notSequence
    | some [key, value] =>
      if key.isKey then do return (key, value) :: (← entriesFrom (position + 1) pairs)
      else .error .notKey
    | some elements => .error (.length position elements.length)

/-- The entries that a value gives; of several entries of one key the last counts. A mapping gives
its own, and anything else has to consist of pairs. -/
def entries : Datum → Except PairFault (List (Datum × Datum))
  | mapping entries => .ok entries
  | d =>
    match d.elements? with
    | none => .error .notSequence
    | some pairs => do
      return (← entriesFrom 0 pairs).foldl (fun done entry => assign entry.1 entry.2 done) []

end IntentSpec.Datum
