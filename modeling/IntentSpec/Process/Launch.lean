import IntentSpec.Check.Machine
import IntentSpec.Datum.Order
import IntentSpec.Process.Shell.Control

/-!
# Starting commands

A command is looked for and started.  Its outputs are read as text, with a replacement character for what
is no text, and it is ended when its time is over; what it has written until then is kept.

## Main definitions

* `Host.execute` — a process after a program has run.
* `Host.launch`, `Host.launcher` — the answer of a command, and the host as a machine.
-/

namespace IntentSpec

open Text

namespace Host

/-- The error number of a word that is no text that the operating system takes. -/
def noNumber : Int := -1

/-- The greatest number of bytes of a word that the operating system takes. -/
def wordLimit : Nat := 131071

/-- The error number of words that are too long. -/
def wordTooLong : Int := 7

/-- Whether a text cannot be handed to the operating system. -/
def hasNul (s : String) : Bool := s.toList.contains '\x00'

/-- A process after a program, called by a word, has run with arguments. -/
def execute (r : Run) (called program : String) (arguments : List String) : Run :=
  Shell.program (Shell.run Shell.bound) r called program (arguments.map String.toList)

/-- The least number of milliseconds that is not below a number of seconds. -/
def patience? (timeout : Binary64) : Option Nat :=
  if timeout.isFinite then
    some ((timeout.units * 1000 + (unitsOfInt 1 - 1)) / unitsOfInt 1).toNat
  else none

/-- The wording for an output of which no character is kept. -/
def noCharacters : String := "max_output_chars must be > 0"

/-- The text of an output, cut after a number of characters. -/
def shown (limit : Option Int) (b : List UInt8) : String :=
  let s := Utf8.decodeLenient b
  String.ofList (match limit with
    | some n => s.take n.toNat
    | none => s)

/-- Whether the time of a process was over before it ended, or before those that it did not wait for had
written everything. -/
def isLate (r : Run) : Bool :=
  match r.jump with
  | some (.ended .expired) | some (.ended .endless) => true
  | _ => r.deadline.any (· ≤ r.lingering)

/-- The exit status of a process that has ended by itself, negative for a signal. -/
def exitCode (r : Run) : Option Int :=
  if isLate r then none
  else
    match r.jump with
    | some (.ended (.signal n)) => some (-n)
    | _ => some r.status

/-- The answer of a command. -/
def launch (host : Host) (limit : Option Int) (spec : Launch) : CommandAnswer :=
  let environment := spec.environment.getD host.environment
  let directory := spec.directory.getD host.directory
  let failed (code : Int) : CommandAnswer := { exitCode := none, startError := some code }
  match spec.argv with
  | [] => failed noNumber
  | name :: arguments =>
    if spec.argv.any hasNul || hasNul directory ||
        environment.any (fun v => hasNul v.1 || hasNul v.2 || v.1.toList.contains '=') then
      failed noNumber
    else if directory.isEmpty || host.isBlocked directory then
      failed (if directory.isEmpty then Errno.noEntry else Errno.notDirectory)
    else
      match host.kind? (Host.place host.directory directory) with
      | some .directory =>
        match host.locate environment directory name with
        | .error code => failed code
        | .ok program =>
          if (spec.argv ++ environment.map fun v => v.1 ++ "=" ++ v.2).any
              fun word => word.utf8ByteSize > wordLimit then failed wordTooLong
          else
            let started : Run :=
              { host, values := environment, exported := environment.map (·.1), directory
                deadline := spec.timeout.bind patience? }
            let r := execute started name program arguments
            { exitCode := exitCode r
              stdout := shown limit (r.written 0)
              stderr := shown limit (r.written 1)
              timedOut := isLate r }
      | some _ => failed Errno.notDirectory
      | none => failed Errno.noEntry

/-- The machine of a host.  Its programs change no files. -/
def launcher (host : Host) : Launcher := fun limit launch files => (.ok (host.launch limit launch), files)

/-- The surroundings of paths on a host. -/
def environmentOf (host : Host) (vars : Variables) : Environment :=
  { vars, homes := fun user => Variables.value? host.homes user }

end Host

end IntentSpec
