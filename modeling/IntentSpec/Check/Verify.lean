import IntentSpec.Check.File
import IntentSpec.Check.Gate
import IntentSpec.Check.Http
import IntentSpec.Check.Receipt
import IntentSpec.Check.Registry
import IntentSpec.Predicate.Plan

/-!
# Verifying a specification

Every planned check is carried out once.  A check whose parameters are rejected is unknown and asks
nothing.  The receipt lists the records by the identifiers of the checks, and without checks the
specification is verified.

A check is a program that may ask (`Inquiry`), and carrying it out answers what it asks from a world and keeps
the questions (`Trace`).  The questions are thus a result of the run and not a part of what a check reports,
and nothing that a check does to the world can be missing from them.

Checks run side by side, and their records are gathered in the order of the plan.  Here they are simply taken
one after another.  That the order in which they end makes no difference is proved of the gathering itself,
which is a machine of its own.

## Main definitions

* `Check.inquiry`, `Check.run` — the check of a capability, and its course.
* `Check.planned`, `Check.runPlanned` — a planned check, and its course.
* `verifyText` — the receipt of a text, and what was asked.
-/

namespace IntentSpec

namespace Check

/-- The checkers that are registered from the start. -/
def builtin : Registry :=
  ⟨Capability.all.map fun capability => (capability.name, .checker capability.name)⟩

/-- The check of a capability. -/
def inquiry (context : CheckContext) (capability : Capability) (params : Params) : Inquiry CheckOutcome :=
  match capability with
  | .commandExit => command context params
  | .fileExists => file params
  | .httpEndpoint => http context params

/-- Carries out the check of a capability with parameters that have been accepted. -/
def run (world : World) (context : CheckContext) (capability : Capability) (params : Params) : Trace :=
  .of world (inquiry context capability params)

/-- A planned check.  Its parameters are read first, and a check whose parameters are rejected is unknown. -/
def planned (context : CheckContext) (check : PlannedCheck) : Inquiry CheckOutcome :=
  match Params.read check.predicate check.capability with
  | .error fault => throw (.hostname fault)
  | .ok (.error fault) => return .unknown fault.reason
  | .ok (.ok params) =>
    match Capability.ofName? check.capability with
    | some capability => inquiry context capability params
    | none => return .unknown (Params.Fault.unsupportedCapability check.capability).reason

/-- Carries out a planned check. -/
def runPlanned (world : World) (context : CheckContext) (check : PlannedCheck) : Trace :=
  .of world (planned context check)

end Check

/-- What a verification is about, besides the text. -/
structure VerificationRequest where
  specHash : String
  validationRef : String
  settings : VerificationSettings := {}
  /-- The identifiers of the validations that are asked for. -/
  ids : List String := []
  /-- The beginnings of identifiers that are asked for. -/
  beginnings : List String := []

/-- The receipt of a specification whose checks came out as recorded. -/
def receiptOf (spec : Document.Spec) (request : VerificationRequest) (records : List CheckRecord) :
    Receipt :=
  Receipt.sorted
    { specVersion := spec.version
      systemId := spec.system
      specHash := request.specHash
      validationRef := request.validationRef
      state := .ofStatuses (records.map (·.status))
      checks := records }

/-- The record of a planned check, and what it asked. The questions are those of the whole run of
the check, its parameters included. -/
def recordOf (world : World) (context : CheckContext) (check : PlannedCheck) :
    Except Trouble (CheckRecord × List Question) :=
  let trace := Check.runPlanned world context check
  trace.outcome.map fun outcome =>
    (CheckRecord.ofOutcome check.id check.capability outcome, trace.questions)

/-- The receipt of a text, and what was asked, in the order of the planned checks. -/
def verifyText (world : World) (request : VerificationRequest) (text : String) :
    Except Trouble (Receipt × List CheckRecord × List Question) := do
  let checks := PlannedCheck.ofText text request.ids request.beginnings
  let results ← Gate.gather (recordOf world request.settings.toCheckContext) checks
  let records := results.map (·.1)
  return (receiptOf (Document.Spec.parse text) request records, records, results.flatMap (·.2))

end IntentSpec
