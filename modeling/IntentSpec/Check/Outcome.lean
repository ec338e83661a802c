import IntentSpec.Datum.Basic
import IntentSpec.Datum.Export
import IntentSpec.Datum.Field

/-!
# Outcomes of checks

A check is passed, failed or unknown; what cannot be determined is unknown.  The reason says why a check
is not passed, and the evidence records what was observed.

The state of a document is read off the statuses of its checks, and their number and order do not count: one
failed check makes it unverified, and failing that one unknown check makes it unknown.  Without checks it is
verified, as nothing was asked that could have been answered otherwise.  The exit status goes with the state.

Words from outside may name none of these.  Such a word is refused with a message that shows it, and showing it
may fail in turn, as values can hold integers that are too long to be printed.

## Main definitions

* `CheckStatus`, `CheckOutcome` — how a check came out.
* `VerificationState`, `VerificationState.ofStatuses` — how all checks of a document came out.
* `Unlisted`, `Refusal` — a word that is none of a vocabulary, and a field that breaks a rule.
-/

namespace IntentSpec

/-- How a check came out. -/
inductive CheckStatus where
  /-- What was to be checked holds. -/
  | passed
  /-- What was to be checked does not hold. -/
  | failed
  | unknown
deriving DecidableEq, Repr

namespace CheckStatus

/-- All statuses. -/
def all : List CheckStatus := [.passed, .failed, .unknown]

/-- The word for a status. -/
def name : CheckStatus → String
  | passed => "passed"
  | failed => "failed"
  | unknown => "unknown"

/-- The status that a word names. -/
def ofName? (word : String) : Option CheckStatus := all.find? (·.name == word)

end CheckStatus

/-- How all checks of a document came out. -/
inductive VerificationState where
  | verified
  | unverified
  /-- No check is failed and some check is unknown. -/
  | unknown
deriving DecidableEq, Repr

namespace VerificationState

/-- All states. -/
def all : List VerificationState := [.verified, .unverified, .unknown]

/-- The word for a state. -/
def name : VerificationState → String
  | verified => "verified"
  | unverified => "unverified"
  | unknown => "unknown"

/-- The state that a word names. -/
def ofName? (word : String) : Option VerificationState := all.find? (·.name == word)

/-- The exit status of a verification. -/
def exitCode : VerificationState → Nat
  | verified => 0
  | unverified => 1
  | unknown => 2

/-- The state that the statuses of all checks amount to. Only which statuses occur counts, neither
how often nor in which order. -/
def ofStatuses (statuses : List CheckStatus) : VerificationState :=
  if statuses.contains .failed then unverified
  else if statuses.contains .unknown then unknown
  else verified

end VerificationState

/-- A value that is no word of a vocabulary.  The message about it shows the value; a value that cannot be shown
is refused with the reason for that. -/
inductive Unlisted where
  | named (shown vocabulary : String)
  | unshown (e : Text.NumeralError)
deriving DecidableEq, Repr

/-- The wording for a value that is no word of a vocabulary. -/
def Unlisted.message : Unlisted → String
  | named shown vocabulary => shown ++ " is not a valid " ++ vocabulary
  | unshown e => e.message

/-- A field that breaks a rule. -/
structure Refusal where
  path : String
  rule : String
deriving DecidableEq, Repr

/-- The wording for a field that breaks a rule. -/
def Refusal.message (r : Refusal) : String := r.path ++ ": " ++ r.rule

/-- Reads a word of a vocabulary. -/
def readWord {α : Type} (vocabulary : String) (ofName? : String → Option α) (d : Datum) :
    Except Unlisted α :=
  match d.text?.bind ofName?, d.shown with
  | some a, _ => .ok a
  | none, .ok shown => .error (.named shown vocabulary)
  | none, .error e => .error (.unshown e)

/-- Reads the status of a check. -/
def CheckStatus.ofDatum (d : Datum) : Except Unlisted CheckStatus :=
  readWord "CheckStatus" CheckStatus.ofName? d

/-- Reads the state of a verification. -/
def VerificationState.ofDatum (d : Datum) : Except Unlisted VerificationState :=
  readWord "VerificationState" VerificationState.ofName? d

/-- What a check observed. A passed check needs no reason; what was observed is recorded for it as
well. -/
structure CheckOutcome where
  status : CheckStatus
  /-- Why the check is not passed. -/
  reason : Option String := none
  /-- What was observed; a null value means that there is nothing to observe. -/
  evidence : Option (List (String × Json)) := none

namespace CheckOutcome

/-- The refusal of a status that is none, if it can be shown. -/
def unsupportedStatus (d : Datum) : Except Text.NumeralError Refusal := do
  return ⟨"CheckOutcome.status", "unsupported value " ++ (← d.shown)⟩

/-- The refusal of a reason that says nothing. -/
def emptyReason : Refusal := ⟨"CheckOutcome.reason", "must be a non-empty string when present"⟩

/-- Why there is no outcome. -/
inductive Fault where
  | refused (r : Refusal)
  /-- What was observed is no mapping. -/
  | notMapping (f : Datum.PairFault)
  /-- What was observed has no JSON form. -/
  | unexported (f : Datum.ExportFault)
  /-- The message about what is refused cannot be written. -/
  | unshown (e : Text.NumeralError)
deriving DecidableEq, Repr

/-- What was observed, from an untyped value. -/
def evidenceOf : Datum → Except Fault (Option (List (String × Json)))
  | .null => .ok none
  | d =>
    match d.entries with
    | .error f => .error (.notMapping f)
    | .ok entries =>
      match Datum.jsonMembers Datum.noForm entries with
      | .ok members => .ok (some members)
      | .error f => .error (.unexported f)

/-- An outcome from its untyped fields. -/
def ofFields (status reason evidence : Datum) : Except Fault CheckOutcome :=
  match CheckStatus.ofDatum status with
  | .error _ =>
    match unsupportedStatus status with
    | .ok refusal => .error (.refused refusal)
    | .error e => .error (.unshown e)
  | .ok status =>
    match reason with
    | .null => do return ⟨status, none, ← evidenceOf evidence⟩
    | .text s =>
      if s.isEmpty then .error (.refused emptyReason) else do return ⟨status, some s, ← evidenceOf evidence⟩
    | _ => .error (.refused emptyReason)

/-- All members of an outcome, those that are absent included. -/
def toJson (o : CheckOutcome) : List (String × Json) :=
  [("status", .text o.status.name), ("reason", (o.reason.map Json.text).getD .null),
   ("evidence", (o.evidence.map Json.object).getD .null)]

/-- A passed check. -/
def passed (evidence : List (String × Json)) : CheckOutcome := ⟨.passed, none, some evidence⟩

/-- A failed check. -/
def failed (reason : String) (evidence : Option (List (String × Json)) := none) : CheckOutcome :=
  ⟨.failed, some reason, evidence⟩

/-- A check that could not be determined. -/
def unknown (reason : String) (evidence : Option (List (String × Json)) := none) : CheckOutcome :=
  ⟨.unknown, some reason, evidence⟩

end CheckOutcome

end IntentSpec
