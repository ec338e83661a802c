import IntentSpec.Datum.Basic
import IntentSpec.Sorting

/-!
# The order of keys

The keys of a mapping are sorted when any two of them can be compared: numbers with numbers, texts with
texts, bytes with bytes, tuples item by item.  Keys of different kinds have no order.

Sorting thus comes to nothing unless any two of the keys can be compared.  One key, or none, is always in order.
A number that is not a number lies neither below nor above anything: it can be compared, and the answer is no.
Integers have no bound and are compared with floating-point numbers exactly, for which both are counted in the
least unit that such a number can have.

## Main definitions

* `Datum.below?` — whether one key lies below another, if they can be compared.
* `Datum.sortOn?`, `Datum.sortEntries?` — things in increasing order of their keys.
* `Datum.sortKeys?` — a value with the keys of every mapping in order; tuples are left as they are.
-/

namespace IntentSpec

/-- The units in which numbers are compared: the least positive floating-point number is one. -/
def unitsOfInt (n : Int) : Int := n * (twoTo 1074 : Nat)

/-- A finite floating-point number in these units. -/
def Binary64.units (x : Binary64) : Int :=
  let (m, q) := x.magnitude
  let n : Nat := m * twoTo q
  if x.negative then -n else n

namespace Datum

/-- Whether an integer, in units, lies below a number. -/
def unitsBelow (m : Int) (y : Binary64) : Bool :=
  if y.isNaN then false else if y.isFinite then m < y.units else !y.negative

/-- Whether a number lies below an integer, in units. -/
def belowUnits (x : Binary64) (n : Int) : Bool :=
  if x.isNaN then false else if x.isFinite then x.units < n else x.negative

/-- Whether one number lies below another. -/
def numberBelow (x y : Binary64) : Bool :=
  if x.isNaN then false
  else if x.isFinite then unitsBelow x.units y
  else if y.isNaN then false
  else if y.isFinite then x.negative
  else x.negative && !y.negative

/-- The integer that a truth value or an integer stands for. -/
def whole? : Datum → Option Int
  | bool b => some (if b then 1 else 0)
  | int n => some n
  | _ => none

/-- The order of bytes. -/
def bytesBelow : List UInt8 → List UInt8 → Bool
  | _, [] => false
  | [], _ :: _ => true
  | a :: l, b :: m => a < b || (a == b && bytesBelow l m)

mutual

/-- Whether one key lies below another, if they can be compared. -/
def below? : Datum → Datum → Option Bool
  | text s, text t => some (decide (s < t))
  | bytes a, bytes b => some (bytesBelow a b)
  | tuple a, tuple b => itemsBelow? a b
  | number x, number y => some (numberBelow x y)
  | number x, b => b.whole?.map fun n => belowUnits x (unitsOfInt n)
  | a, number y => a.whole?.map fun m => unitsBelow (unitsOfInt m) y
  | a, b =>
    match a.whole?, b.whole? with
    | some m, some n => some (decide (m < n))
    | _, _ => none

/-- Whether one sequence lies below another: at the first items that differ, or because it ends. -/
def itemsBelow? : List Datum → List Datum → Option Bool
  | _, [] => some false
  | [], _ :: _ => some true
  | a :: l, b :: m => if a.sameKey b then itemsBelow? l m else below? a b

end

/-- Things in increasing order of their keys, if any two keys can be compared. -/
def sortOn? {α : Type} (key : α → Datum) (l : List α) : Option (List α) :=
  let comparable := match l with
    | [] | [_] => true
    | _ => l.all fun a => l.all fun b => (below? (key a) (key b)).isSome
  if comparable then some (sortBy (fun a b => below? (key b) (key a) != some true) l) else none

/-- Entries in increasing order of their keys, if any two keys can be compared. -/
def sortEntries? (entries : List (Datum × Datum)) : Option (List (Datum × Datum)) :=
  sortOn? (·.1) entries

mutual

/-- The value with the keys of every mapping in order, if they can be sorted.  The items of tuples are
left as they are. -/
def sortKeys? : Datum → Option Datum
  | list items => (sortItems? items).map .list
  | mapping entries => do return .mapping (← sortEntries? (← sortValues? entries))
  | d => some d

/-- The items of a list, each sorted. -/
def sortItems? : List Datum → Option (List Datum)
  | [] => some []
  | item :: items => do return (← sortKeys? item) :: (← sortItems? items)

/-- The entries of a mapping in their order, with the values sorted. -/
def sortValues? : List (Datum × Datum) → Option (List (Datum × Datum))
  | [] => some []
  | (key, value) :: entries => do return (key, ← sortKeys? value) :: (← sortValues? entries)

end

end Datum

end IntentSpec
