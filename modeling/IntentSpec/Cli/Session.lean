import IntentSpec.Check.Machine
import IntentSpec.Cli.Boundary
import IntentSpec.Log.Event
import IntentSpec.Store.Receipts

/-!
# The course of a call

A call meets with files, variables and programs.  In its course files change, lines are printed and
reported, events are logged, and the deeds that matter are done one after the other.  It ends with a status
or is given up; what was done until then stays done.

Of the machine on which a call is made nothing is supposed.  Its programs (`Setting.launcher`), its users and
their homes (in `Setting.environment`), and what goes wrong when files are written are part of the setting, so
what is proved of calls is proved for every machine.  Programs are reached only by `Act.launch`, which records
the start as a deed before it hands the command over; a call cannot start a command that its deeds do not show.

## Main definitions

* `Cli.Setting` — what a call meets with.
* `Cli.Session` — what has been done.
* `Cli.Halt` — why a call is given up.
* `Cli.Act` — a part of a call.
-/

namespace IntentSpec.Cli

/-- What a call meets with, besides the files. Everything that a call may depend on is here or among
its words, so a call is a function of the two and of the files. -/
structure Setting where
  directory : Path
  environment : Environment
  launcher : Launcher
  /-- What tells the runs of a specification apart. -/
  entropy : String := "00000000"
  /-- The errors at the steps of writing a file, by its path, or for a receipt in its usual place by the
  directory of the receipts; none, unless it is said otherwise. -/
  faults : Path → WriteFaults := fun _ => {}
  /-- The error that is reported when the directory of a run is made, besides those for what stands in the
  way. -/
  runError : Option Int := none

/-- What is done in the course of a call, as far as it is visible from outside or decides what may
be done next. -/
inductive Deed where
  | configured
  | specRead (path : Path)
  /-- A specification has been validated, with a status. -/
  | validated (status : Nat)
  | receiptWritten (path : Path)
  /-- The directory of a run has been made. -/
  | runCreated (path : Path)
  /-- A file of a run has been written. -/
  | fileWritten (path : Path)
  /-- A command has been started or tried to. -/
  | launched (command : Launch)
deriving DecidableEq, Repr

/-- What has been done in the course of a call. It is there also if the call is given up, with all
that was done up to then. -/
structure Session where
  files : FileTree
  /-- What has been printed, each text on lines of its own. -/
  printed : List String := []
  /-- What has been reported, each text on lines of its own. -/
  reported : List String := []
  /-- The events, whether they are logged or not. -/
  events : List Log.Event := []
  log : Log.Settings := {}
  deeds : List Deed := []

/-- Why a call is given up. A refusal has the status that goes with it, while a failure gets its
status at the boundary of the process. -/
inductive Halt where
  /-- The call is refused with a message and a status. -/
  | refused (message : String) (status : Nat)
  /-- Something fails that is not foreseen. -/
  | failed (failures : FailureGraph)
deriving DecidableEq, Repr

/-- A part of a call. The session is outside of what can fail, so that what has been done is kept
when a call is given up. -/
abbrev Act := ReaderT Setting (ExceptT Halt (StateM Session))

namespace Act

/-- Prints a text on lines of its own. -/
def print (text : String) : Act Unit := modify fun s => { s with printed := s.printed ++ [text] }

/-- Reports lines. -/
def report (lines : List String) : Act Unit :=
  modify fun s => { s with reported := s.reported ++ lines }

/-- Notes an event. -/
def note (level : Log.Level) (text : String) (fields : List (String × Datum)) : Act Unit :=
  modify fun s => { s with events := s.events ++ [⟨level, text, fields⟩] }

/-- Records a deed. -/
def did (deed : Deed) : Act Unit := modify fun s => { s with deeds := s.deeds ++ [deed] }

/-- Gives up with a message and a status. -/
def refuse {α : Type} (message : String) (status : Nat) : Act α := throw (.refused message status)

/-- Gives up because of a failure that is not foreseen. -/
def fail {α : Type} (kind : FailureKind) (text : String := "") : Act α :=
  throw (.failed [{ kind, text }])

/-- Gives up because a value is not what it should be. -/
def invalid {α : Type} (text : String := "") : Act α := fail (.other "ValueError") text

/-- A text that is to be printed or kept, if all of it can be written. -/
def written : Except Text.NumeralError String → Act String
  | .ok text => pure text
  | .error e => invalid e.message

/-- Starts a command, which is a deed whatever comes of it, and takes over what it does to the files. -/
def launch (command : Launch) : Act CommandAnswer := do
  did (.launched command)
  let (answer, files) := (← read).launcher none command (← get).files
  modify fun s => { s with files }
  match answer with
  | .ok answer => return answer
  | .error failures => throw (.failed failures)

/-- Takes over what a store has done, whether it succeeds or not: the files are those that a failed
write leaves behind. -/
def stored {α : Type} (act : FileTree → FileTree × Except StoreFault α) : Act α := do
  let (files, result) := act (← get).files
  modify fun s => { s with files }
  match result with
  | .ok a => return a
  | .error .badHash => invalid StoreFault.hashMessage
  | .error fault =>
    match fault.message? with
    | some message => refuse message ExitStatus.internal
    | none => invalid

end Act

end IntentSpec.Cli
