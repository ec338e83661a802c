import IntentSpec.Check.Outcome
import IntentSpec.Report.Summary

/-!
# Verification receipts

A receipt holds one record for each check, sorted by the identifiers of the checks, and the state that
they amount to.  Its text has nothing in it that varies from run to run.

There is no time in it, no duration and no name of a machine, and the members of every object are written in
the order of their keys.  Two runs that observe the same therefore write the same bytes, whichever check was
over first.  What was observed may still differ, as the output of a command does, and it is cut to a
length that the settings give.

A member of the evidence whose value is null is left out, since it stands for something that was not
looked at.  Writing fails only for an integer that is too long to be printed.

## Main definitions

* `CheckRecord` — the record of a check, which is named.
* `Receipt`, `Receipt.sorted` — a receipt, and its records in order.
* `Receipt.text` — the text, without a final line feed.
* `Receipt.summary` — the summary.
-/

namespace IntentSpec

/-- The record of a check. -/
structure CheckRecord where
  id : String
  capability : String
  status : CheckStatus
  /-- Why the check is not passed. -/
  reason : Option String := none
  /-- What was observed; null values are not exported. -/
  evidence : Option (List (String × Json)) := none

namespace CheckRecord

/-- The record of an outcome. -/
def ofOutcome (id capability : String) (o : CheckOutcome) : CheckRecord :=
  { id, capability, status := o.status, reason := o.reason, evidence := o.evidence }

/-- Whether a value is null. -/
def isNull : Json → Bool
  | .null => true
  | _ => false

/-- The export of a record. -/
def toJson (r : CheckRecord) : Json :=
  .object <|
    [("capability", .text r.capability), ("check_id", .text r.id), ("status", .text r.status.name)] ++
    (r.reason.map fun reason => ("reason", Json.text reason)).toList ++
    (r.evidence.map fun evidence =>
      ("evidence", Json.object (evidence.filter fun member => !isNull member.2))).toList

end CheckRecord

/-- A verification receipt. It refers to the specification by its hash and to the validation receipt
by its place, and has no copy of either. -/
structure Receipt where
  /-- The version line of the specification. -/
  specVersion : String
  systemId : String
  specHash : String
  validationRef : String
  /-- The state that the checks amount to. -/
  state : VerificationState
  checks : List CheckRecord := []

namespace Receipt

/-- The order of records by the identifiers of their checks. -/
def recordLe (a b : CheckRecord) : Bool := textLe a.id b.id

/-- The receipt with its records in order. Records with one identifier would keep their order, but
identifiers are distinct. -/
def sorted (r : Receipt) : Receipt := { r with checks := sortBy recordLe r.checks }

/-- The exit status of the verification. -/
def exitCode (r : Receipt) : Nat := r.state.exitCode

/-- The export of a receipt. -/
def toJson (r : Receipt) : Json :=
  .object
    [("checks", .array (r.checks.map CheckRecord.toJson)), ("receipt_type", .text "verification"),
     ("receipt_version", .text "DIL:verify v0"), ("spec_hash", .text r.specHash),
     ("spec_version", .text r.specVersion), ("state", .text r.state.name),
     ("system_id", .text r.systemId), ("validation_receipt_ref", .text r.validationRef)]

/-- The text of a receipt, without a final line feed. -/
def text (r : Receipt) : Except Text.NumeralError String := r.toJson.indentedText

/-- The lines of a summary, given the rows of its checks. -/
def summaryLines (systemId : String) (state : VerificationState) (validationRef : String)
    (rows : List (List String)) : List String :=
  [Summary.labelled "System" systemId,
    Summary.labelled "State" (state.name ++ " (exit " ++ toString state.exitCode ++ ")"),
    Summary.labelled "Validation receipt" validationRef] ++
  if rows.isEmpty then ["No verification checks selected."]
  else Summary.table ["CHECK", "CAPABILITY", "STATUS", "REASON"] rows (some "Checks:")

/-- The lines of the summary of a receipt. -/
def summary (r : Receipt) : List String :=
  summaryLines r.systemId r.state r.validationRef
    (r.checks.map fun c => [c.id, c.capability, c.status.name, c.reason.getD ""])

end Receipt

end IntentSpec
