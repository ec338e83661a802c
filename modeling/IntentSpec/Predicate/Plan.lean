import IntentSpec.Predicate.Params

/-!
# Planned checks

A validation becomes a check when it requires a capability that can be checked and its predicate begins
with the name of that capability.  The checks of a document may be filtered by the identifiers of their
validations.

That the predicate has to repeat the capability keeps a validation from being checked with parameters that were
written for something else.  A validation that falls through is no error and leaves no record; only what is
planned is accounted for in a receipt.

A check is named after its validation, with a fixed beginning, so the order of the checks by their names is
that of the validations by theirs.  Filters are about the names of validations.  When identifiers are given,
beginnings are not looked at, and with neither every check is meant.

## Main definitions

* `PlannedCheck` — a check that is to be carried out.
* `PlannedCheck.select` — the checks of a document, in the order of its validations.
* `PlannedCheck.filter` — exact identifiers win over beginnings of identifiers.
-/

namespace IntentSpec

open Text Document

/-- A check that is to be carried out: the validation that asks for it, the capability that it
takes, and the predicate with its parameters, which have not been read yet. -/
structure PlannedCheck where
  validation : String
  capability : String
  predicate : String
deriving DecidableEq, Repr

namespace PlannedCheck

/-- The identifier of a check in a receipt. -/
def id (check : PlannedCheck) : String := "validations." ++ check.validation

/-- The check that a validation asks for, given the predicates of the document. -/
def ofValidation? (predicates : List (String × String)) (v : Validation) : Option PlannedCheck := do
  let capability ← v.requires
  if (Capability.ofName? capability).isNone then none
  else
    let predicate ← value? v.id predicates
    if (words predicate.toList).head?.map String.ofList = some capability then
      some { validation := v.id, capability, predicate }
    else none

/-- The checks of a document, in the order in which its validations are declared. A validation gives
one check at most. -/
def select (spec : Spec) (predicates : List (String × String)) : List PlannedCheck :=
  spec.validations.entries.filterMap (ofValidation? predicates)

/-- The checks that are asked for by identifier, or failing that by the beginning of it, or all. -/
def filter (ids beginnings : List String) (checks : List PlannedCheck) : List PlannedCheck :=
  if !ids.isEmpty then checks.filter fun check => ids.contains check.validation
  else if !beginnings.isEmpty then
    checks.filter fun check =>
      beginnings.any fun beginning => beginning.toList.isPrefixOf check.validation.toList
  else checks

/-- The checks of a text, filtered. -/
def ofText (text : String) (ids beginnings : List String) : List PlannedCheck :=
  filter ids beginnings (select (Spec.parse text) (Predicate.extract text))

end PlannedCheck

end IntentSpec
