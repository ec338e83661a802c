import IntentSpec.Check.Outcome
import IntentSpec.Failure.Errno
import IntentSpec.Failure.Graph
import IntentSpec.Predicate.Params

/-!
# What checks ask and what they are told

A check asks the world what stands at a path, how a command ends, or how a server answers.  The world is a
function from questions to answers, so that a check can be studied without carrying it out.  A server is asked
with the locator of the request as it is written, since every part of it (the port, the path, the query)
may matter for the answer.

A check does not keep a record of its questions.  It is written in a monad (`Inquiry`) whose only access to the
world is `Inquiry.ask`, and that access makes the entry in the log before it hands out the answer.  So how often
a check asks, and what, is not said by the check itself but follows from what it does: a check that asked
twice, or asked before it had looked at its parameters, would show it in its `Trace`.

## Main definitions

* `World` — the answers to all questions.
* `Question`, `World.answer` — what is asked, and the answer.
* `Trouble` — why a check has no outcome.
* `Inquiry`, `Inquiry.ask` — a part of a check, and its access to the world.
* `Trace`, `Trace.of` — what a check asked and how it came out.
-/

namespace IntentSpec

/-- The kinds of files that are told apart. -/
inductive FileKind where
  | file
  | directory
  | other
deriving DecidableEq, Repr

/-- The word for a kind of file. -/
def FileKind.name : FileKind → String
  | file => "file"
  | directory => "directory"
  | other => "other"

/-- What stands at a path. A text that is no path at all has an answer of its own, since the
operating system is not even asked about it and reports no number. -/
inductive FileAnswer where
  /-- A file of a kind and a size. -/
  | found (kind : FileKind) (size : Int)
  /-- The operating system reports an error. -/
  | failed (code : Option Int)
  | noPath
deriving DecidableEq, Repr

/-- How a command ended. A command that could not be started has an error number, and the other
fields then say nothing. -/
structure CommandAnswer where
  /-- The exit status, negative for a signal, if there is one. -/
  exitCode : Option Int := some 0
  stdout : String := ""
  /-- What the command wrote to its error output. -/
  stderr : String := ""
  timedOut : Bool := false
  /-- The error number if the command could not be started. -/
  startError : Option Int := none
deriving DecidableEq, Repr

/-- How a server answered. A failed request comes with everything that led to it, as the check looks
through all of it. -/
inductive HttpAnswer where
  /-- With a status, and perhaps with another location. -/
  | response (status : Int) (location : Option String)
  | failed (failures : FailureGraph)
deriving DecidableEq, Repr

/-- The answers to all questions. A world is the same for the whole of a verification: what a check
observes does not depend on which checks were carried out before it. -/
structure World where
  stat : String → FileAnswer
  /-- How a command ends, given its words and its time limit in seconds. -/
  run : List String → Binary64 → Except FailureGraph CommandAnswer
  /-- How a server answers, given the method, the locator of the request and the time limit in seconds. -/
  request : String → String → Binary64 → HttpAnswer

/-- A question to the world, with everything that the answer may depend on. Two checks that ask the
same question get the same answer. -/
inductive Question where
  | stat (path : String)
  | command (argv : List String) (timeout : Binary64)
  | request (method locator : String) (timeout : Binary64)
deriving DecidableEq, Repr

/-- What an answer to a question is. -/
abbrev Question.Answer : Question → Type
  | stat _ => FileAnswer
  | command .. => Except FailureGraph CommandAnswer
  | request .. => HttpAnswer

/-- The answer to a question. -/
def World.answer (world : World) : (q : Question) → q.Answer
  | .stat path => world.stat path
  | .command argv timeout => world.run argv timeout
  | .request method locator timeout => world.request method locator timeout

/-- Why a check has no outcome. None of these is an outcome that the check would report; each ends
the verification that the check belongs to. -/
inductive Trouble where
  | missing (key : String)
  | numeral (e : Text.NumeralError)
  /-- A number of milliseconds is too great for a number of seconds. -/
  | overflow
  | refused (r : Refusal)
  /-- The host of a request cannot be decoded. -/
  | hostname (fault : Hostname.Fault)
  /-- A header cannot be written in ASCII. -/
  | notAscii
  /-- A request was answered whose locator does not say where it went. -/
  | unknownLocator (text : String)
  /-- A request was answered whose locator has no address where it is read again. -/
  | noAddress (text : String)
  /-- The question failed in a way that is not foreseen. -/
  | failed (failures : FailureGraph)
deriving DecidableEq, Repr

/-- The wording for a locator that does not say where a request went. -/
def Trouble.unknownLocatorMessage (text : String) : String := "unknown url type: " ++ Text.quoted text

/-- The wording for a text that is no address. -/
def Trouble.noAddressMessage (text : String) : String :=
  Text.quoted text ++ " does not appear to be an IPv4 or IPv6 address"

/-- A part of a check.  It meets with a world and may come to nothing, and what it asks is recorded whether it
does or not. -/
abbrev Inquiry := ReaderT World (ExceptT Trouble (StateM (List Question)))

/-- Asks the world.  The entry in the log and the access are one act, and there is no other access. -/
def Inquiry.ask (q : Question) : Inquiry q.Answer := do
  modify (· ++ [q])
  return (← read).answer q

/-- What a check asked and how it came out. The questions are there even if there is no outcome. -/
structure Trace where
  questions : List Question := []
  /-- The outcome, if there is one. -/
  outcome : Except Trouble CheckOutcome

/-- The course of a check that meets with a world, from an empty log. -/
def Trace.of (world : World) (inquiry : Inquiry CheckOutcome) : Trace :=
  let (outcome, questions) := (inquiry world).run []
  { questions, outcome }

namespace Check

/-- A parameter that has to be there. -/
def need (key : String) (params : Params) : Except Trouble String :=
  match value? key params with
  | some value => .ok value
  | none => .error (.missing key)

/-- An integer parameter. -/
def integer? (key : String) (params : Params) : Except Trouble (Option Int) :=
  match value? key params with
  | none => .ok none
  | some text =>
    match Text.readInteger text with
    | .ok n => .ok (some n)
    | .error e => .error (.numeral e)

/-- Milliseconds in seconds. The division is one of floating-point numbers, and a number of
milliseconds that is too great for it is no limit but trouble. -/
def seconds (milliseconds : Int) : Except Trouble Binary64 :=
  let x := Binary64.ofIntRatio milliseconds 1000
  if x.isFinite then .ok x else .error .overflow

end Check

end IntentSpec
