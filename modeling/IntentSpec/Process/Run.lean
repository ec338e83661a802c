import IntentSpec.Process.Host
import IntentSpec.Process.Script.Token
import IntentSpec.Text.Utf8

/-!
# Processes while they run

What matters of a process is its variables and functions, where its descriptors lead, and what has been
written, each piece with the time at which it was.  A process ends with a status or by a signal, or it is
stopped because its time is over.

## Main definitions

* `Ending`, `Jump` — how a process ends, and what else keeps it from going on.
* `Sink` — where a descriptor leads.
* `Run` — a process while it runs.
* `Run.write`, `Run.sleep`, `Run.redirect`, `Run.child`, `Run.afterChild` — what a process does.
-/

namespace IntentSpec

open Text

/-- How a process ended. -/
inductive Ending where
  | exit (code : Nat)
  | signal (number : Nat)
  | expired
  /-- Not at all: it goes on for ever. -/
  | endless
deriving DecidableEq, Repr

/-- What keeps a process from carrying out the next command. -/
inductive Jump where
  | ended (ending : Ending)
  /-- A number of loops is left, or the outermost of them is begun again. -/
  | leave (levels : Nat) (again : Bool)
  | back
deriving DecidableEq, Repr

/-- Where a descriptor leads. -/
inductive Sink where
  | stream (n : Nat)
  | file (path : String)
  | nowhere
deriving DecidableEq, Repr

/-- A process while it runs. -/
structure Run where
  host : Host := {}
  values : List (String × String) := []
  /-- The variables that other programs see. -/
  exported : List String := []
  /-- The variables that cannot be changed. -/
  readOnly : List String := []
  name : String := "sh"
  arguments : List String := []
  functions : List (String × Script) := []
  /-- What is carried out at a signal, or at the end. -/
  traps : List (String × String) := []
  /-- The letters of the options that are set. -/
  options : List Char := []
  directory : String := "/"
  /-- The status of the last command. -/
  status : Nat := 0
  line : Nat := 1
  /-- How many loops the command is in. -/
  loops : Nat := 0
  /-- How many functions the command is in. -/
  depth : Nat := 0
  input : List UInt8 := []
  /-- The time at which all of that is there. -/
  inputTime : Nat := 0
  sinks : List (Nat × Sink) := [(1, .stream 0), (2, .stream 1)]
  /-- What was written to each stream and when, last first. -/
  streams : List (List (Nat × List UInt8)) := [[], []]
  files : List (String × List UInt8) := []
  clock : Nat := 0
  /-- When the time of the process is over. -/
  deadline : Option Nat := none
  /-- The time at which processes that are not waited for stop writing. -/
  lingering : Nat := 0
  /-- What a signal has asked for and is carried out next. -/
  pending : Option String := none
  /-- Whether the process is part of a shell and not the shell itself. -/
  isPart : Bool := false
  /-- A signal that a part of the shell has sent to the shell. -/
  sent : Option Nat := none
  /-- What keeps the process from going on. -/
  jump : Option Jump := none
deriving Repr

namespace Run

/-! ## Status -/

/-- Sets the status. -/
def withStatus (r : Run) (status : Nat) : Run := { r with status }

/-- Ends the process. -/
def finish (r : Run) (ending : Ending) : Run := { r with jump := some (.ended ending) }

/-- Ends the process with a status. -/
def exit (r : Run) (code : Nat) : Run := { r with status := code, jump := some (.ended (.exit code)) }

/-- Lets time go by until a moment, unless the time of the process is over before. -/
def waitUntil (r : Run) (moment : Nat) : Run :=
  if r.deadline.any (· ≤ moment) then r.finish .expired else { r with clock := max r.clock moment }

/-- Sleeps for a number of milliseconds. -/
def sleep (r : Run) (n : Nat) : Run := (r.waitUntil (r.clock + n)).withStatus 0

/-! ## Variables -/

/-- The value of a variable. -/
def value? (r : Run) (name : String) : Option String := r.values.lookup name

/-- Sets a variable. -/
def assign (r : Run) (name value : String) : Run :=
  if r.values.any (·.1 == name) then
    { r with values := r.values.map fun v => if v.1 == name then (name, value) else v }
  else { r with values := r.values ++ [(name, value)] }

/-- Shows a variable to other programs. -/
def publish (r : Run) (name : String) : Run :=
  { r with exported := name :: r.exported.filter (· != name) }

/-- Forgets a variable. -/
def unset (r : Run) (name : String) : Run :=
  { r with values := r.values.filter (·.1 != name), exported := r.exported.filter (· != name) }

/-- The place of a variable in the order in which a shell hands variables on. -/
def variableRank (name : String) : Nat :=
  match Utf8.encode name with
  | [] => 0
  | b :: more => (b.toNat * 16 + (b :: more).foldl (fun n c => n + c.toNat) 0) % 39

/-- The variables that other programs see. -/
def environment (r : Run) : List (String × String) :=
  r.values.filter fun v => r.exported.contains v.1

/-- The variables that a shell hands on to other programs. -/
def handedOn (r : Run) : List (String × String) :=
  r.environment.mergeSort fun a b => variableRank a.1 ≤ variableRank b.1

/-- The characters that separate fields. -/
def separators (r : Run) : List Char := ((r.value? "IFS").getD " \t\n").toList

/-! ## Reading and writing -/

/-- Where a descriptor leads; nowhere if it is closed. -/
def sink (r : Run) (descriptor : Nat) : Sink := (r.sinks.lookup descriptor).getD .nowhere

/-- What a file holds that was written. -/
def content? (r : Run) (path : String) : Option (List UInt8) := r.files.lookup path

/-- Makes a file hold bytes. -/
def setContent (r : Run) (path : String) (b : List UInt8) : Run :=
  { r with files := (path, b) :: r.files.filter (·.1 != path) }

/-- Writes bytes to a descriptor. -/
def write (r : Run) (descriptor : Nat) (b : List UInt8) : Run :=
  if b.isEmpty then r
  else
    match r.sink descriptor with
    | .stream n => { r with streams := r.streams.modify n ((r.clock, b) :: ·) }
    | .file path => r.setContent path ((r.content? path).getD [] ++ b)
    | .nowhere => r

/-- Writes a line to the error output. -/
def complain (r : Run) (line : String) : Run := r.write 2 (Utf8.encode line ++ [10])

/-- Writes a message of the shell to the error output. -/
def warn (r : Run) (message : String) : Run :=
  r.complain (r.name ++ ": " ++ toString r.line ++ ": " ++ message)

/-- Writes a message and ends the process. -/
def abort (r : Run) (message : String) : Run := (r.warn message).exit 2

/-- All bytes that were written to a stream, in the order of time. -/
def written (r : Run) (n : Nat) : List UInt8 :=
  (((r.streams.getD n []).reverse.mergeSort fun a b => a.1 ≤ b.1).map (·.2)).flatten

/-- Takes all that there is to read. -/
def takeInput (r : Run) : List UInt8 × Run :=
  (r.input, { r.waitUntil r.inputTime with input := [] })

/-- Points a descriptor somewhere. -/
def pointTo (r : Run) (descriptor : Nat) (sink : Sink) : Run :=
  { r with sinks := (descriptor, sink) :: r.sinks.filter (·.1 != descriptor) }

/-- Closes a descriptor. -/
def close (r : Run) (descriptor : Nat) : Run :=
  { r with sinks := r.sinks.filter (·.1 != descriptor) }

/-- What stands at a path, if anything does. -/
def kind? (r : Run) (path : String) : Option PlaceKind :=
  let place := Host.place r.directory path
  if path.isEmpty then none
  else (r.host.kind? place).orElse fun _ =>
    (r.content? (Host.ofParts (Host.parts place))).map fun _ => .plain

/-- The bytes at a path: none in a device but for zeros, and none if they are not known. -/
def read (r : Run) (path : String) : List UInt8 :=
  if path = "/dev/zero" then List.replicate 262144 0
  else (r.content? (Host.ofParts (Host.parts (Host.place r.directory path)))).getD []

/-- Points a descriptor to a file that is written, or says what is wrong with the path. -/
def openToWrite (r : Run) (descriptor : Nat) (path : String) (append : Bool) : Except String Run :=
  let place := Host.ofParts (Host.parts (Host.place r.directory path))
  let parent := Host.ofParts (Host.parts place).dropLast
  match r.kind? path with
  | some .directory => .error ("cannot create " ++ path ++ ": Is a directory")
  | some .device =>
    .ok (r.pointTo descriptor
      (if place = "/dev/stdout" then r.sink 1 else if place = "/dev/stderr" then r.sink 2 else .nowhere))
  | some _ =>
    let opened := r.pointTo descriptor (.file place)
    .ok (if append then opened else opened.setContent place [])
  | none =>
    if path.isEmpty || r.kind? parent != some .directory then
      .error ("cannot create " ++ path ++ ": Directory nonexistent")
    else
      let opened := r.pointTo descriptor (.file place)
      .ok (if append then opened else opened.setContent place [])

/-- Reads from a file from now on, or says what is wrong with the path. -/
def openToRead (r : Run) (path : String) : Except String Run :=
  match r.kind? path with
  | none => .error ("cannot open " ++ path ++ ": No such file")
  | some _ => .ok { r with input := r.read path, inputTime := r.clock }

/-! ## Other processes -/

/-- A process like this one that is begun on its behalf.  Its time is not limited: it goes on even if
this one is ended. -/
def child (r : Run) : Run :=
  { r with
    traps := r.traps.filter fun trap => trap.2.isEmpty
    loops := 0, pending := none, isPart := true, deadline := none }

/-- The status that stands for the end of another process. -/
def Ending.status : Ending → Nat
  | .exit code => code
  | .signal n => 128 + n
  | .expired | .endless => 0

/-- The process after another one that ran on its behalf and that it has waited for: what was written and
read remains. -/
def afterChild (before after : Run) : Run :=
  let r := { before with
    streams := after.streams, files := after.files, input := after.input
    inputTime := after.inputTime, lingering := after.lingering
    sent := after.sent.orElse fun _ => before.sent }
  let r := r.waitUntil after.clock
  match r.jump, after.jump with
  | some _, _ => r
  | none, some (.ended .expired) => r.finish .expired
  | none, some (.ended .endless) => r.finish .endless
  | none, some (.ended ending) => r.withStatus (Ending.status ending)
  | none, _ => r.withStatus after.status

/-- The words for signals that are noted when they end a process. -/
def signalNotes : List (Nat × String) :=
  [(1, "Hangup"), (3, "Quit"), (4, "Illegal instruction"), (6, "Aborted"), (7, "Bus error"),
   (8, "Floating point exception"), (9, "Killed"), (10, "User defined signal 1"),
   (11, "Segmentation fault"), (12, "User defined signal 2"), (14, "Alarm clock"), (15, "Terminated")]

/-- Notes the signal that ended another process, if one did. -/
def noteSignal (r after : Run) : Run :=
  if r.jump.isSome then r
  else
    match signalNotes.find? fun note => after.jump == some (.ended (.signal note.1)) with
    | some (_, note) => r.complain note
    | none => r

end Run

end IntentSpec
