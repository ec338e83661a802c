import IntentSpec.Document.Scan

/-!
# Predicates of validations

A validation may carry a predicate, a quoted text on a line of its own.  The predicates are collected in
a pass of their own over the document, which follows the braces of the validations blocks only.

The pass does not know the system block.  It enters at any line that begins like the opening of a
validations block, restarts its count of braces there, and leaves once the count is back at zero.  So it may
find predicates where the parse sees no validation, behind the end of the system for instance; such a
predicate has no validation that it could be planned for, unless one of its name is declared elsewhere.

Under one name the last predicate counts, at the place of the first.  A predicate without a validation before
it in the block is passed over.

## Main definitions

* `Predicate.Extraction`, `Predicate.Extraction.step` — the state of the pass and what a line does to it.
* `Predicate.extract` — the predicates of a document, in the order in which their validations are first
  given one.
-/

namespace IntentSpec

/-- Sets the value of a key, where the key stands or else at the end. -/
def setValue (key value : String) : List (String × String) → List (String × String)
  | [] => [(key, value)]
  | (k, v) :: rest => if k = key then (key, value) :: rest else (k, v) :: setValue key value rest

/-- The value of a key. -/
def value? (key : String) (l : List (String × String)) : Option String :=
  (l.find? (·.1 == key)).map (·.2)

namespace Predicate

open Text Document

/-- Whether a trimmed line begins with the opening of a validations block. -/
def opensValidations (trimmed : List Char) : Bool :=
  match dropWord? "validations".toList trimmed with
  | some rest => (skipAsciiBlanks rest).head? == some '\x7b'
  | none => false

/-- The predicate on a trimmed line. -/
def predicateText? (trimmed : List Char) : Option String := do
  match skipAsciiBlanks (← dropWord? "predicate".toList trimmed) with
  | ':' :: rest => do
    let (inner, _) ← quotedFront? (skipAsciiBlanks rest)
    some (String.ofList inner)
  | _ => none

/-- The state of the pass. -/
structure Extraction where
  /-- Whether the line is inside a validations block. -/
  inside : Bool := false
  /-- The open braces of the block. -/
  depth : Int := 0
  /-- The validation whose lines are being read. -/
  current : Option String := none
  found : List (String × String) := []
deriving DecidableEq, Repr

/-- What a line does to the state.  An opening restarts the count of braces, even inside a block, and
leaves the current validation as it is. -/
def Extraction.step (e : Extraction) (raw : List Char) : Extraction :=
  let line := trim (stripComment raw)
  if opensValidations line then { e with inside := true, depth := 1 }
  else if !e.inside then e
  else
    let depth := e.depth + balance line
    if depth ≤ 0 then { e with inside := false, depth, current := none }
    else
      match validationHeading? line with
      | some id => { e with depth, current := some id }
      | none =>
        match predicateText? line, e.current with
        | some text, some id => { e with depth, found := setValue id text e.found }
        | _, _ => { e with depth }

/-- The predicates of a document, each under the name of its validation. A name stands once, with
the predicate that was found last. -/
def extract (text : String) : List (String × String) :=
  ((lines text.toList).foldl Extraction.step {}).found

end Predicate

end IntentSpec
