import IntentSpec.Check.Receipt
import IntentSpec.Datum.Order
import IntentSpec.Datum.Shown

/-!
# Receipts from untyped fields

A caller may hand in the fields of records and receipts as they are.  Only that is looked at on which a
receipt depends: a record has an identifier and a status, and a receipt has a state and records that can
be sorted.  All other fields are exported as they were given.

This is the door for receipts that no verification has made.  A receipt of the program is typed all through
and cannot fail but for an integer that is too long; a draft can fail in as many ways as an untyped value can
be wrong, and each way is a fault of its own.  Of identifiers nothing is asked but that they are something and
that they can be compared, as the records are put in order by them.

## Main definitions

* `RecordDraft`, `RecordDraft.ofFields`, `RecordDraft.toDatum` — a record, and its export.
* `ReceiptDraft`, `ReceiptDraft.ofFields`, `ReceiptDraft.toDatum` — a receipt, and its export.
* `ReceiptDraft.text`, `ReceiptDraft.summary` — its text and its summary.
* `DraftFault` — why there is none of these.
-/

namespace IntentSpec

/-- Why there is no record, no receipt or no export of one. -/
inductive DraftFault where
  | refused (r : Refusal)
  /-- A word is none of its vocabulary. -/
  | unlisted (u : Unlisted)
  /-- What is among the records is none. -/
  | notRecord
  /-- What was observed is no mapping. -/
  | notMapping
  | notSequence
  /-- The identifiers of the records or the keys of a mapping cannot be compared. -/
  | unsorted
  /-- A value has no JSON form. -/
  | noJson
  /-- An integer has too many digits to be written. -/
  | numeral (e : Text.NumeralError)
deriving DecidableEq, Repr

namespace DraftFault

/-- The value, or a fault if there is none. -/
def orElse {α : Type} (fault : DraftFault) : Option α → Except DraftFault α
  | some a => .ok a
  | none => .error fault

/-- The word that a value is, or else the fault that it is none. -/
def ofWord {α : Type} : Except Unlisted α → Except DraftFault α
  | .ok a => .ok a
  | .error u => .error (unlisted u)

/-- What cannot be exported makes no text. -/
def ofExport {α : Type} : Except Datum.ExportFault α → Except DraftFault α
  | .ok a => .ok a
  | .error .noJson => .error noJson
  | .error (.numeral e) => .error (numeral e)

end DraftFault

/-- The record of a check as it is handed in. -/
structure RecordDraft where
  id : Datum
  capability : Datum
  status : CheckStatus
  /-- Why the check is not passed; null if nothing is said. -/
  reason : Datum
  /-- What was observed; null if nothing is said. -/
  evidence : Datum

namespace RecordDraft

/-- A record from its fields. -/
def ofFields (fields : List (String × Datum)) : Except DraftFault RecordDraft := do
  let id := Field.get "check_id" fields
  if id.isNothing then throw (.refused ⟨"CheckRecord.check_id", "must be a non-empty string"⟩)
  let status ← DraftFault.ofWord (CheckStatus.ofDatum (Field.get "status" fields))
  return { id, capability := Field.get "capability" fields, status
           reason := Field.get "reason" fields, evidence := Field.get "evidence" fields }

/-- Whether a value is null. -/
def isNull : Datum → Bool
  | .null => true
  | _ => false

/-- The export of a record. -/
def toDatum (r : RecordDraft) : Except DraftFault Datum := do
  let evidence ← match r.evidence with
    | .null => pure []
    | .mapping entries => pure [("evidence", .mapping (entries.filter fun entry => !isNull entry.2))]
    | _ => throw .notMapping
  return .object <|
    [("capability", r.capability), ("check_id", r.id), ("status", .text r.status.name)] ++
      (if isNull r.reason then [] else [("reason", r.reason)]) ++ evidence

/-- The row of a record in a summary. -/
def row (r : RecordDraft) : Except Text.NumeralError (List String) := do
  return [← r.id.plain, ← r.capability.plain, r.status.name,
    ← if r.reason.isNothing then pure "" else r.reason.plain]

end RecordDraft

/-- A receipt as it is handed in. -/
structure ReceiptDraft where
  /-- The version line of the specification. -/
  specVersion : Datum
  systemId : Datum
  specHash : Datum
  validationRef : Datum
  /-- The state that the checks amount to. -/
  state : VerificationState
  checks : List RecordDraft

namespace ReceiptDraft

/-- The records that a value consists of. -/
def recordsOf (d : Datum) : Except DraftFault (List RecordDraft) := do
  (← DraftFault.notSequence.orElse d.elements?).mapM fun d => match d with
    | .record "CheckRecord" fields => RecordDraft.ofFields fields
    | _ => throw .notRecord

/-- A receipt from its fields, with its records in order. -/
def ofFields (fields : List (String × Datum)) : Except DraftFault ReceiptDraft := do
  let field (key : String) := Field.get key fields
  let state ← DraftFault.ofWord (VerificationState.ofDatum (field "state"))
  let checks ← match fields.find? (·.1 == "checks") with
    | some (_, d) => recordsOf d
    | none => pure []
  let checks ← DraftFault.unsorted.orElse (Datum.sortOn? (·.id) checks)
  return ⟨field "spec_version", field "system_id", field "spec_hash", field "validation_receipt_ref",
    state, checks⟩

/-- The export of a receipt. -/
def toDatum (r : ReceiptDraft) : Except DraftFault Datum := do
  return .object
    [("checks", .list (← r.checks.mapM RecordDraft.toDatum)), ("receipt_type", .text "verification"),
     ("receipt_version", .text "DIL:verify v0"), ("spec_hash", r.specHash),
     ("spec_version", r.specVersion), ("state", .text r.state.name), ("system_id", r.systemId),
     ("validation_receipt_ref", r.validationRef)]

/-- The text of a receipt, without a final line feed. -/
def text (r : ReceiptDraft) : Except DraftFault String := do
  let sorted ← DraftFault.unsorted.orElse (← r.toDatum).sortKeys?
  DraftFault.ofExport (sorted.jsonText .lined)

/-- The lines of the summary of a receipt. -/
def summary (r : ReceiptDraft) : Except Text.NumeralError (List String) := do
  return Receipt.summaryLines (← r.systemId.plain) r.state (← r.validationRef.plain)
    (← r.checks.mapM RecordDraft.row)

end ReceiptDraft

end IntentSpec
