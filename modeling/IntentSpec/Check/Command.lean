import IntentSpec.Check.Settings
import IntentSpec.Check.World

/-!
# Checking a command

A command check runs a command and compares its exit status.  No shell is involved: the words of the
command are given one by one.  A command that does not exist fails; one that cannot be started for
another reason, or whose time is over, leaves the check unknown.

Parameters come first: a status or a time limit that is no integer is found out before anything is run,
and so is a time limit too large to be a number of seconds.  The command is then asked for once, with all
its words and its limit, so that whoever answers has everything that the process would be started with.

A command that was ended by a signal has a negative status, or none.  Both count as the status one, since
no process can give itself either of them and a specification has no words for signals.

## Main definitions

* `Check.argv` — the words of a command.
* `CommandSpec`, `CommandSpec.check` — a command with its time limit.
* `Check.commandOutcome` — the outcome for an answer.
* `Check.command` — the check.
-/

namespace IntentSpec

open Text

/-- A command that can be run: it has at least one word, and its time limit is positive. -/
structure CommandSpec where
  argv : List String
  timeout : Option Binary64 := none
deriving DecidableEq, Repr

/-- The refusal of a command without words. -/
def CommandSpec.noWords : Refusal := ⟨"CommandSpec.argv", "must be a non-empty sequence of strings"⟩

/-- Admits a command that has a word and no time limit but a positive one. -/
def CommandSpec.check (spec : CommandSpec) : Except Refusal CommandSpec :=
  if spec.argv.isEmpty then .error CommandSpec.noWords
  else if spec.timeout.any fun x => !x.isNaN && (x.negative || x.isZero) then
    .error ⟨"CommandSpec.timeout_seconds", "must be > 0"⟩
  else .ok spec

/-- The words that an untyped value consists of, if it consists of anything. -/
def CommandSpec.wordsOf? (d : Datum) : Option (Except Refusal (List String)) :=
  if d.isNothing then some (.error noWords)
  else d.elements?.map fun elements =>
    match elements.mapM Datum.text? with
    | some words => .ok words
    | none => .error noWords

/-- The number that an untyped value is. -/
def CommandSpec.timeoutOf? : Datum → Option (Option Binary64)
  | .null => some none
  | .number x => some (some x)
  | d => d.toInt?.map fun n => some (Binary64.ofIntRatio n 1)

/-- A command from untyped words and an untyped time limit, if these can be looked through and compared
with a number. -/
def CommandSpec.ofDatums (argv timeout : Datum) : Option (Except Refusal CommandSpec) := do
  match ← wordsOf? argv with
  | .error r => return .error r
  | .ok argv => return check { argv, timeout := ← timeoutOf? timeout }

namespace Check

/-- The words of a command: its name, and the arguments between commas that are not empty. -/
def argv (cmd args : String) : List String :=
  cmd :: ((splitAt ',' args.toList).filter (!·.isEmpty)).map String.ofList

/-- The outcome for a command that could not be started. -/
def startFailure (code : Option Int) : CheckOutcome :=
  if code = some Errno.noEntry then .failed "command_not_found"
  else if code = some Errno.accessDenied then .unknown "permission_denied"
  else .unknown ("spawn_error:" ++ Errno.name code)

/-- The exit status that is compared; one is taken for a command that a signal ended. -/
def effectiveExit : Option Int → Int
  | some n => if n < 0 then 1 else n
  | none => 1

/-- The first characters of an output. -/
def cutOutput (limit : Int) (s : String) : String := String.ofList (s.toList.take limit.toNat)

/-- The outputs that go into the evidence. -/
def outputs (limit : Int) (answer : CommandAnswer) : List (String × Json) :=
  [("stdout_truncated", .text (cutOutput limit answer.stdout)),
   ("stderr_truncated", .text (cutOutput limit answer.stderr))]

/-- The outcome for the answer of a command. -/
def commandOutcome (limit expected : Int) (answer : CommandAnswer) : CheckOutcome :=
  match answer.startError with
  | some code => startFailure (some code)
  | none =>
    let outputs := outputs limit answer
    if answer.timedOut then .unknown "timeout_exceeded" (some outputs)
    else
      let actual := effectiveExit answer.exitCode
      let evidence := ("actual_exit", Json.int actual) :: outputs
      if actual ≠ expected then
        .failed ("exit_mismatch:expected=" ++ toString expected ++ ",actual=" ++ toString actual)
          (some evidence)
      else .passed evidence

/-- The command that parameters describe, and the exit status that is expected of it. -/
def commandQuestion (context : CheckContext) (params : Params) :
    Except Trouble (Int × List String × Binary64) := do
  let expected ← integer? "expected_exit" params
  let timeout ← integer? "timeout_ms" params
  let cmd ← need "cmd" params
  let args ← need "args" params
  let limit ← seconds (timeout.getD context.commandTimeout)
  match CommandSpec.check { argv := argv cmd args, timeout := some limit } with
  | .ok spec => return (expected.getD 0, spec.argv, limit)
  | .error r => throw (.refused r)

/-- Checks a command. -/
def command (context : CheckContext) (params : Params) : Inquiry CheckOutcome := do
  let (expected, argv, limit) ← commandQuestion context params
  match ← Inquiry.ask (.command argv limit) with
  | .ok answer => return commandOutcome context.maxOutput expected answer
  | .error failures => throw (.failed failures)

end Check

end IntentSpec
