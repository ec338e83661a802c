import IntentSpec.Json.Printer
import IntentSpec.Text.Character

/-!
# Reports

The result of validating a specification: one outcome for each rule, the violations that the rules
found, and a verdict.  An outcome gives a reason exactly when its rule could not be decided, and a
report with the verdict valid has no violations; both are checked when a value is admitted.

The text of a report does not depend on the order in which its parts were found.  Targets are sorted
inside their outcome, outcomes by their rule and then by their targets, violations by their code and
then by the written form of what they refer to, and the members of every object by their keys.

## Main definitions

* `Status`, `Verdict`, `EvidenceKind` — the closed vocabularies.
* `Evidence`, `Outcome`, `Violation`, `Report` — the parts of a report.
* `Rejection` — why a value is not admitted, and where.
* `Outcome.accept`, `Violation.accept`, `Report.accept` — the checks.
* `Report.toJson` — the export; what is absent is left out.
* `Report.Outcome.sortKey`, `Report.Violation.sortKey` — the keys that order the parts.
* `Report.normalize` — the canonical tree.
* `Report.canonicalText` — its text, without a final line feed.
-/

namespace IntentSpec

/-- The verdict on a specification. A specification that cannot be decided is neither of the others,
as somebody who knew more could still find it to be either. -/
inductive Verdict where
  | valid
  /-- Some rule is violated, or the specification cannot be read. -/
  | invalid
  /-- No rule is violated, but some rule cannot be decided. -/
  | undecidable
deriving DecidableEq, Repr

namespace Verdict

/-- All verdicts. -/
def all : List Verdict := [.valid, .invalid, .undecidable]

/-- The word for a verdict. -/
def name : Verdict → String
  | valid => "valid"
  | invalid => "invalid"
  | undecidable => "undecidable"

/-- The verdict that a word names. -/
def ofName? (word : String) : Option Verdict := all.find? (·.name == word)

/-- The exit status of a validation with the verdict. -/
def exitCode : Verdict → Nat
  | valid => 0
  | invalid => 1
  | undecidable => 2

end Verdict

namespace Report

/-- How a rule fared. A rule that could not be decided is told from one that was violated, and gives
a reason. -/
inductive Status where
  | satisfied
  | unsatisfied
  /-- The rule could not be decided. -/
  | unknown
  | inapplicable
deriving DecidableEq, Repr

/-- All statuses. -/
def Status.all : List Status := [.satisfied, .unsatisfied, .unknown, .inapplicable]

/-- The word for a status. -/
def Status.name : Status → String
  | satisfied => "satisfied"
  | unsatisfied => "unsatisfied"
  | unknown => "unknown"
  | inapplicable => "inapplicable"

/-- The status that a word names. -/
def Status.ofName? (word : String) : Option Status := all.find? (·.name == word)

/-- What a piece of evidence holds. -/
inductive EvidenceKind where
  | ref
  | excerpt
deriving DecidableEq, Repr

/-- All kinds of evidence. -/
def EvidenceKind.all : List EvidenceKind := [.ref, .excerpt]

/-- The word for a kind of evidence. -/
def EvidenceKind.name : EvidenceKind → String
  | ref => "ref"
  | excerpt => "excerpt"

/-- The kind of evidence that a word names. -/
def EvidenceKind.ofName? (word : String) : Option EvidenceKind := all.find? (·.name == word)

/-- One piece of evidence: where something is to be found, or the words themselves. -/
structure Evidence where
  /-- Whether it is a reference or an excerpt. -/
  kind : EvidenceKind
  value : String
deriving DecidableEq, Repr

/-- The outcome of one rule. Evidence and notes may be recorded and empty, which is exported
otherwise than if none are recorded. -/
structure Outcome where
  validation : String
  status : Status
  targets : List String := []
  /-- Why the rule could not be decided. -/
  reason : Option String := none
  /-- The evidence, if any is recorded. -/
  evidence : Option (List Evidence) := none
  notes : Option (List String) := none
deriving DecidableEq, Repr

/-- A violation of a rule, in a form that programs can read. What it refers to is an object of any
shape, and the canonical order compares it by its written form. -/
structure Violation where
  code : String
  message : String
  refs : List (String × Json) := []
  /-- The evidence, if any is recorded. -/
  evidence : Option (List Evidence) := none
  notes : Option (List String) := none

/-- What is wrong with a value. -/
inductive Defect where
  /-- A value of another kind was expected. -/
  | expected (wanted found : String)
  | blank
  /-- A text names no member of a vocabulary. -/
  | notMember (shown : String) (allowed : List String)
  /-- The status is unknown and there is no reason. -/
  | reasonMissing
  /-- There is a reason and the status is not unknown. -/
  | reasonForbidden
  /-- The verdict is valid and there are violations. -/
  | violationsForbidden
  /-- There are fields that the type does not have. -/
  | unexpectedFields (shown : String)
  | missingFields (shown : String)
  /-- The key of a member is no text. -/
  | keyNotText (found : String)
  /-- A number is infinite or not a number. -/
  | notFinite
  | notExportable (found : String)
deriving DecidableEq, Repr

/-- The wording of a defect. -/
def Defect.message : Defect → String
  | expected wanted found => s!"expected {wanted}, got {found}"
  | blank => "must not be empty"
  | notMember shown allowed => s!"invalid value {shown}; expected one of: " ++ ", ".intercalate allowed
  | reasonMissing => "is required when status is 'unknown'"
  | reasonForbidden => "is only allowed when status is 'unknown'"
  | violationsForbidden => "must be empty when state is 'valid'"
  | unexpectedFields shown => s!"unexpected fields: {shown}"
  | missingFields shown => s!"missing required fields: {shown}"
  | keyNotText found => s!"object key must be string, got {found}"
  | notFinite => "float values must be finite"
  | notExportable found => s!"value is not JSON-serializable ({found})"

/-- Why a value is not admitted, and where. The path starts with the type and leads to what is at
fault. -/
structure Rejection where
  path : String
  defect : Defect
deriving DecidableEq, Repr

/-- The wording of a rejection. -/
def Rejection.message (r : Rejection) : String := r.path ++ ": " ++ r.defect.message

/-- Whether an optional text is there and not empty. -/
def given (text : Option String) : Bool := text.any (· != "")

/-- Admits an outcome whose rule is named and that gives a reason exactly when it is unknown. -/
def Outcome.accept (o : Outcome) : Except Rejection Outcome :=
  if Text.isBlankText o.validation then .error ⟨"ValidationOutcome.validation_id", .blank⟩
  else if o.status = .unknown ∧ !given o.reason then
    .error ⟨"ValidationOutcome.reason", .reasonMissing⟩
  else if o.status ≠ .unknown ∧ given o.reason then
    .error ⟨"ValidationOutcome.reason", .reasonForbidden⟩
  else .ok o

/-- Admits a violation whose kind is named. Nothing is asked of its message, nor of what it refers
to. -/
def Violation.accept (v : Violation) : Except Rejection Violation :=
  if Text.isBlankText v.code then .error ⟨"StructuredError.code", .blank⟩ else .ok v

/-- The export of a piece of evidence. -/
def Evidence.toJson (e : Evidence) : Json :=
  .object [("kind", .text e.kind.name), ("value", .text e.value)]

/-- The members for evidence and notes that are recorded. -/
def annotations (evidence : Option (List Evidence)) (notes : Option (List String)) :
    List (String × Json) :=
  (evidence.map fun l => ("evidence", Json.array (l.map Evidence.toJson))).toList ++
    (notes.map fun l => ("notes", Json.texts l)).toList

/-- The export of an outcome.  An empty reason is left out. -/
def Outcome.toJson (o : Outcome) : Json :=
  .object <|
    [("validation_id", .text o.validation), ("status", .text o.status.name),
      ("targets", .texts o.targets)] ++
    (if given o.reason then [("reason", .text (o.reason.getD ""))] else []) ++
    annotations o.evidence o.notes

/-- The export of a violation. -/
def Violation.toJson (v : Violation) : Json :=
  .object <|
    [("code", .text v.code), ("message", .text v.message), ("refs", .object v.refs)] ++
    annotations v.evidence v.notes

end Report

/-- The report on a specification. Validation puts nothing into it about when and where it was made,
so two reports on one specification are equal. -/
structure Report where
  /-- The version line of the specification. -/
  specVersion : String
  systemId : String
  verdict : Verdict
  outcomes : List Report.Outcome := []
  violations : List Report.Violation := []
  notes : Option (List String) := none
  /-- Further members, if any are recorded. -/
  extensions : Option (List (String × Json)) := none

namespace Report

/-- Admits a report that has no violations when its verdict is valid. The other verdicts may come
with violations or without. -/
def accept (r : Report) : Except Rejection Report :=
  if r.verdict = .valid ∧ !r.violations.isEmpty then
    .error ⟨"CanonicalReport.errors", .violationsForbidden⟩
  else .ok r

/-- The exit status of the validation. -/
def exitCode (r : Report) : Nat := r.verdict.exitCode

/-- The export with given outcomes and violations. -/
def toJsonWith (r : Report) (outcomes violations : List Json) : Json :=
  .object <|
    [("spec_version", .text r.specVersion), ("system_id", .text r.systemId),
      ("state", .text r.verdict.name), ("outcomes", .array outcomes), ("errors", .array violations)] ++
    (r.notes.map fun l => ("notes", Json.texts l)).toList ++
    (r.extensions.map fun members => ("extensions", Json.object members)).toList

/-- The export of a report, in the order in which it was built. -/
def toJson (r : Report) : Json :=
  r.toJsonWith (r.outcomes.map Outcome.toJson) (r.violations.map Violation.toJson)

end Report

end IntentSpec

namespace IntentSpec.Report

/-! ## The canonical form -/

/-- An outcome with its targets in increasing order. -/
def Outcome.sortTargets (o : Outcome) : Outcome := { o with targets := sortTexts o.targets }

/-- Outcomes are ordered by their rule and then by their targets, joined by a character that sorts
before every other. -/
def Outcome.sortKey (o : Outcome) : String × String :=
  (o.validation, "\x00".intercalate o.targets)

/-- Violations are ordered by their code and then by the written form of what they refer to.  A violation that
refers to an integer which cannot be written has no place in the order. -/
def Violation.sortKey (v : Violation) : Except Text.NumeralError (String × String) := do
  return (v.code, ← (Json.object v.refs).compactText)

/-- The outcomes in canonical order, each with its targets in order. -/
def canonicalOutcomes (r : Report) : List Outcome :=
  sortBy (fun a b => pairLe a.sortKey b.sortKey) (r.outcomes.map Outcome.sortTargets)

/-- The violations in canonical order.  All keys are made before the first two are compared, so one violation
without a key is enough for there to be no order, even if it is the only one. -/
def canonicalViolations (r : Report) : Except Text.NumeralError (List Violation) := do
  let keyed ← r.violations.mapM fun v => return (← v.sortKey, v)
  return (sortBy (fun a b => pairLe a.1 b.1) keyed).map (·.2)

/-- The canonical tree of a report: its parts in canonical order, and the members of every object in
increasing order of their keys. There is none if a violation has no place in the order. -/
def normalize (r : Report) : Except Text.NumeralError Json := do
  let violations ← r.canonicalViolations
  return (r.toJsonWith (r.canonicalOutcomes.map Outcome.toJson) (violations.map Violation.toJson)).sortKeys

/-- The canonical text of a report, without a final line feed.  It needs more than the canonical tree does:
the further members of a report are not looked at for the order, but they are written. -/
def canonicalText (r : Report) : Except Text.NumeralError String := do
  (← r.normalize).render .lined

end IntentSpec.Report
