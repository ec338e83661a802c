import IntentSpec.Datum.Field

/-!
# Reading reports

A report that another program wrote is read strictly: every object has exactly the keys of its type,
every field has its type, and what is admitted obeys the rules of `Report.accept`.  The first defect is
reported with the place where it is.

A value is built in two ways.  It is read from an object, whose parts are objects themselves; or it is
assembled from fields, whose parts are records that were assembled before.

## Main definitions

* `Evidence.ofDatum`, `Outcome.ofDatum`, `Violation.ofDatum`, `Report.ofDatum` — reading.
* `Evidence.ofFields`, `Outcome.assemble`, `Violation.assemble`, `Report.assemble` — assembling.
* `Report.ofValue` — a report that is assembled or read.
* `verdictExit` — the exit status of an untyped verdict.
-/

namespace IntentSpec

namespace Field

open Report (Rejection)

/-- Whether fields are all known and include the required ones. -/
def fit (required optional : List String) (fields : List (String × Datum)) : Bool :=
  fields.all (fun field => required.contains field.1 || optional.contains field.1) &&
    required.all fun key => fields.any (·.1 == key)

/-- The value of a key, or what stands for it. -/
def getOr (key : String) (default : Datum) (fields : List (String × Datum)) : Datum :=
  ((fields.find? (·.1 == key)).map (·.2)).getD default

/-- Assembles the records of one type from a sequence.  All items are looked at before the first is
assembled. -/
def records {α : Type} (type : String) (assemble : List (String × Datum) → Except Rejection α)
    (path : String) (d : Datum) : Except Rejection (List α) := do
  let fields ← items (fun path d =>
    match d with
    | .record found fields =>
      if found = type then .ok fields else reject path (.expected type found)
    | d => reject path (.expected type d.typeName)) path 0 (← sequence path d)
  fields.mapM assemble

end Field

namespace Report

open IntentSpec.Field

/-- Evidence from its fields. -/
def Evidence.ofFields (m : List (String × Datum)) : Except Rejection Evidence := do
  let kind ← member EvidenceKind.all EvidenceKind.name "EvidenceItem.kind" (get "kind" m)
  let value ← text "EvidenceItem.value" (get "value" m)
  return { kind, value }

/-- Reads evidence from an object. -/
def Evidence.ofDatum (d : Datum) : Except Rejection Evidence := do
  Evidence.ofFields (← members "EvidenceItem" ["kind", "value"] [] d)

/-- Reads a list of evidence that may be absent. -/
def evidenceList (path : String) : Datum → Except Rejection (Option (List Evidence)) :=
  optional fun d => do (← sequence path d).mapM Evidence.ofDatum

/-- Assembles a list of evidence that may be absent. -/
def evidenceRecords (path : String) : Datum → Except Rejection (Option (List Evidence)) :=
  optional (records "EvidenceItem" Evidence.ofFields path)

/-- An outcome from its fields, given what reading the evidence answers.  The fields are looked at in
the order in which they are listed. -/
def Outcome.ofFields (m : List (String × Datum))
    (evidence : Except Rejection (Option (List Evidence))) : Except Rejection Outcome := do
  let validation ← name "ValidationOutcome.validation_id" (get "validation_id" m)
  let status ← member Status.all Status.name "ValidationOutcome.status" (get "status" m)
  let targets ← texts "ValidationOutcome.targets" (getOr "targets" (.tuple []) m)
  let reason ← optional (text "ValidationOutcome.reason") (get "reason" m)
  let evidence ← evidence
  let notes ← optional (texts "ValidationOutcome.notes") (get "notes" m)
  Outcome.accept { validation, status, targets, reason, evidence, notes }

/-- Reads an outcome from an object. -/
def Outcome.ofDatum (d : Datum) : Except Rejection Outcome := do
  let m ← members "ValidationOutcome" ["validation_id", "status", "targets"]
    ["reason", "evidence", "notes"] d
  let evidence ← evidenceList "ValidationOutcome.evidence" (get "evidence" m)
  Outcome.ofFields m (.ok evidence)

/-- Assembles an outcome from fields. -/
def Outcome.assemble (m : List (String × Datum)) : Except Rejection Outcome :=
  Outcome.ofFields m (evidenceRecords "ValidationOutcome.evidence" (get "evidence" m))

/-- A violation from its fields, given what it refers to and what reading the evidence answers. -/
def Violation.ofFields (m : List (String × Datum)) (refs : Datum)
    (evidence : Except Rejection (Option (List Evidence))) : Except Rejection Violation := do
  let code ← name "StructuredError.code" (get "code" m)
  let message ← text "StructuredError.message" (get "message" m)
  let refs ← jsonObject "StructuredError.refs" refs
  let evidence ← evidence
  let notes ← optional (texts "StructuredError.notes") (get "notes" m)
  Violation.accept { code, message, refs, evidence, notes }

/-- Reads a violation from an object. Whatever counts as nothing stands for no references, be it of
the right type or not. -/
def Violation.ofDatum (d : Datum) : Except Rejection Violation := do
  let m ← members "StructuredError" ["code", "message"] ["refs", "evidence", "notes"] d
  let refs := get "refs" m
  let evidence ← evidenceList "StructuredError.evidence" (get "evidence" m)
  Violation.ofFields m (if refs.isNothing then .mapping [] else refs) (.ok evidence)

/-- Assembles a violation from fields. -/
def Violation.assemble (m : List (String × Datum)) : Except Rejection Violation :=
  Violation.ofFields m (getOr "refs" (.mapping []) m)
    (evidenceRecords "StructuredError.evidence" (get "evidence" m))

/-- A report from its fields, given what reading its outcomes and its violations answers. -/
def ofFields (m : List (String × Datum)) (outcomes : Except Rejection (List Outcome))
    (violations : Except Rejection (List Violation)) : Except Rejection Report := do
  let specVersion ← text "CanonicalReport.spec_version" (get "spec_version" m)
  let systemId ← text "CanonicalReport.system_id" (get "system_id" m)
  let verdict ← member Verdict.all Verdict.name "CanonicalReport.state" (get "state" m)
  let outcomes ← outcomes
  let violations ← violations
  let notes ← optional (texts "CanonicalReport.notes") (get "notes" m)
  let extensions ← optional (jsonObject "CanonicalReport.extensions") (get "extensions" m)
  accept { specVersion, systemId, verdict, outcomes, violations, notes, extensions }

/-- Reads a report from an object. Its parts are read before it is admitted as a whole, so a defect
inside a part is reported first. -/
def ofDatum (d : Datum) : Except Rejection Report := do
  let m ← members "CanonicalReport"
    ["spec_version", "system_id", "state", "outcomes", "errors"] ["notes", "extensions"] d
  let outcomeItems ← sequence "CanonicalReport.outcomes" (get "outcomes" m)
  let violationItems ← sequence "CanonicalReport.errors" (get "errors" m)
  let outcomes ← outcomeItems.mapM Outcome.ofDatum
  let violations ← violationItems.mapM Violation.ofDatum
  ofFields m (.ok outcomes) (.ok violations)

/-- Assembles a report from fields. -/
def assemble (m : List (String × Datum)) : Except Rejection Report :=
  ofFields m
    (records "ValidationOutcome" Outcome.assemble "CanonicalReport.outcomes"
      (getOr "outcomes" (.tuple []) m))
    (records "StructuredError" Violation.assemble "CanonicalReport.errors"
      (getOr "errors" (.tuple []) m))

/-- A report from a value that is a report or an object. -/
def ofValue : Datum → Except Rejection Report
  | .record "CanonicalReport" fields => assemble fields
  | d => ofDatum d

/-- The exit status of an untyped verdict. What names no verdict has none. -/
def verdictExit (d : Datum) : Except Rejection Nat := do
  return (← member Verdict.all Verdict.name "state" d).exitCode

end Report

end IntentSpec
