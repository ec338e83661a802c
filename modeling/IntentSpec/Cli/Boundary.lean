import IntentSpec.Datum.Basic
import IntentSpec.Failure.Graph
import IntentSpec.Text.Character

/-!
# The boundary of the process

Whatever the program answers or fails with becomes an exit status.  A failure that a faulty configuration
has led to is told from all others.

The boundary is the one place where statuses are made.  What is answered may be any value: a number within the
range of statuses is taken as one and nothing as success, while a text is reported as an error, and so is a
number that no process could end with.  Leaving the process with a value is treated as answering it.

Of a failure of the configuration only the message is reported, as it is meant for the user who wrote the
file.  Behind any other failure there is a fault of the program, and more is shown than a message; what is
shown then is not part of this description, only that it is more.

## Main definitions

* `ExitStatus` — the statuses with a meaning.
* `ExitStatus.ofAnswer` — the status for what the program answers, and what is reported of it.
* `ExitStatus.ofFailure` — the status for what the program fails with, and what is reported of it.
* `ExitStatus.ofConclusion` — the status for whatever the program ends with.
-/

namespace IntentSpec

open Text

namespace ExitStatus

/-- All is well. -/
def success : Nat := 0

/-- The specification is rejected, or the program is not called as it should be. -/
def rejected : Nat := 1

/-- It cannot be decided. -/
def undecidable : Nat := 2

/-- The configuration is faulty. -/
def configuration : Nat := 3

/-- Something else has gone wrong. -/
def internal : Nat := 4

/-- A text without the blanks at its ends. -/
def trimmed (s : String) : String := String.ofList (trim s.toList)

/-- The status for what the program answers, and what is reported of it: a number within the range of
statuses is one, nothing means success, and a text is an error message. -/
def ofAnswer : Datum → Nat × String
  | .null => (success, "")
  | .int n => (if 0 ≤ n ∧ n ≤ 255 then n.toNat else internal, "")
  | .text s => (internal, if isBlankText s then "" else trimmed s ++ "\n")
  | _ => (internal, "")

/-- What is reported of a failure: its message, or its kind if it has none. -/
def report (g : FailureGraph) : String :=
  match g with
  | [] => ""
  | f :: _ => (if isBlankText f.text then f.kind.name else trimmed f.text) ++ "\n"

/-- The status for what the program fails with.  Of a faulty configuration the message is reported; of
all else more is shown than a message. -/
def ofFailure (g : FailureGraph) : Nat × Option String :=
  if g.causes.any fun f => f.kind.isConfiguration then (configuration, some (report g))
  else (internal, none)

end ExitStatus

/-- How the program ends. -/
inductive Conclusion where
  | answer (value : Datum)
  /-- It asks for the process to be left, as the reading of options does once help is shown. -/
  | exit (value : Datum)
  | failure (g : FailureGraph)
  /-- It is stopped by what is no failure of its own, such as an interrupt. -/
  | stopped

/-- The status for whatever the program ends with, and what is reported of it.  With what is no failure of
the program the process is left, and there is none. -/
def ExitStatus.ofConclusion : Conclusion → Option (Nat × Option String)
  | .answer value | .exit value =>
    let (status, text) := ofAnswer value
    some (status, some text)
  | .failure g => some (ofFailure g)
  | .stopped => none

end IntentSpec
