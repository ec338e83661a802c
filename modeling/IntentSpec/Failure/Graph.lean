import IntentSpec.Failure.Errno

/-!
# Failures and what led to them

A failure may have a cause that is given explicitly, a context in which it arose, and members if it
stands for several failures at once.  These links form a finite graph, in which failures may be shared
and chains may run in circles.

## Main definitions

* `Failure`, `FailureGraph` — the failures, which refer to each other by their position.
* `FailureGraph.reachable` — all failures that a failure leads to, breadth first and each once.
* `FailureGraph.causes` — the chain of what is shown as having led to a failure.
-/

namespace IntentSpec

/-- The kinds of failures that are told apart, be it by a check or at the boundary of the process.
Those that are treated alike keep the names under which they are reported. -/
inductive FailureKind where
  /-- A configuration cannot be loaded or is not valid. -/
  | configuration (name : String)
  | connectionRefused
  | nameResolution
  /-- A secure connection cannot be set up. -/
  | secureConnection
  /-- The time for an operation is over. -/
  | timeout
  /-- The operating system reports an error. -/
  | system (name : String)
  /-- The time for a part of a request is over. -/
  | requestTimeout (name : String)
  /-- A request is made for a scheme that is not supported. -/
  | unsupportedProtocol
  /-- A request is made for what is no locator. -/
  | invalidLocator
  /-- A request fails in another way. -/
  | transport (name : String)
  | several
  | other (name : String)
deriving DecidableEq, Repr

namespace FailureKind

/-- The name under which a failure is reported. -/
def name : FailureKind → String
  | configuration name | system name | requestTimeout name | transport name | other name => name
  | connectionRefused => "ConnectionRefusedError"
  | nameResolution => "gaierror"
  | secureConnection => "SSLError"
  | timeout => "TimeoutError"
  | unsupportedProtocol => "UnsupportedProtocol"
  | invalidLocator => "InvalidURL"
  | several => "ExceptionGroup"

/-- The failures of the operating system that have a name of their own, by their error numbers. -/
def systemNames : List (Int × String) :=
  [(1, "PermissionError"), (2, "FileNotFoundError"), (3, "ProcessLookupError"),
   (4, "InterruptedError"), (10, "ChildProcessError"), (11, "BlockingIOError"),
   (13, "PermissionError"), (17, "FileExistsError"), (20, "NotADirectoryError"),
   (21, "IsADirectoryError"), (32, "BrokenPipeError"), (103, "ConnectionAbortedError"),
   (104, "ConnectionResetError"), (108, "BrokenPipeError"), (114, "BlockingIOError"),
   (115, "BlockingIOError")]

/-- The kind of a failure that the operating system reports with an error number. -/
def ofErrorNumber (code : Int) : FailureKind :=
  if code = Errno.connectionRefused then connectionRefused
  else if code = Errno.timedOut then timeout
  else system (((systemNames.find? (·.1 == code)).map (·.2)).getD "OSError")

/-- The kinds of failures of the program itself. -/
def ownNames : List String := ["ValueError", "KeyError", "RuntimeError"]

/-- The kinds of failures in dealing with an answer, which are none of the request. -/
def answerNames : List String := ["StreamError", "CookieConflict"]

/-- The kind of failure that is reported under a name, without an error number. -/
def ofName (name : String) : FailureKind :=
  match name with
  | "ConfigLoadError" | "ConfigValidationError" => configuration name
  | "ConnectionRefusedError" => connectionRefused
  | "gaierror" => nameResolution
  | "SSLError" => secureConnection
  | "TimeoutError" => timeout
  | "OSError" => system name
  | "UnsupportedProtocol" => unsupportedProtocol
  | "InvalidURL" => invalidLocator
  | "Group" => several
  | _ =>
    if ownNames.contains name || answerNames.contains name then other name
    else if name.endsWith "Timeout" || name == "TimeoutException" then requestTimeout name
    else transport name

/-- Whether a failure is reported by the operating system, and may carry an error number. -/
def isSystem : FailureKind → Bool
  | connectionRefused | nameResolution | secureConnection | timeout | system _ => true
  | _ => false

/-- Whether a failure is one of the configuration. -/
def isConfiguration : FailureKind → Bool
  | configuration _ => true
  | _ => false

end FailureKind

/-- A failure. Other failures are given by their position in the graph, so they may be shared and
may lead back to where they came from. -/
structure Failure where
  kind : FailureKind
  text : String
  /-- The error number, if there is one. -/
  code : Option Int := none
  /-- The failure given as the cause. -/
  cause : Option Nat := none
  /-- The failure in the course of whose handling this one arose. -/
  context : Option Nat := none
  /-- The failures that this one stands for. -/
  members : List Nat := []
  /-- Whether the context is not to be shown. -/
  contextHidden : Bool := false
deriving DecidableEq, Repr

/-- The failures that this one leads to. -/
def Failure.links (f : Failure) : List Nat := f.members ++ f.cause.toList ++ f.context.toList

/-- A finite graph of failures; the first is the one that was met. A position behind the end stands
for nothing. -/
abbrev FailureGraph := List Failure

namespace FailureGraph

/-- The failures to be visited next after one has been looked at. -/
def linksOf (g : FailureGraph) (i : Nat) : List Nat := (g[i]?.map Failure.links).getD []

/-- How many visits a traversal makes at most: one for the start and one for every link. -/
def visits (g : FailureGraph) : Nat := 1 + (g.flatMap Failure.links).length

/-- The failures met from the pending ones on, first met first, besides those that were seen. -/
def traverse (g : FailureGraph) : Nat → List Nat → List Nat → List Nat
  | 0, _, _ => []
  | _ + 1, _, [] => []
  | fuel + 1, seen, i :: pending =>
    if seen.contains i || g.length ≤ i then traverse g fuel seen pending
    else i :: traverse g fuel (i :: seen) (pending ++ linksOf g i)

/-- The positions of all failures that the first one leads to, itself included, breadth first. -/
def reachablePositions (g : FailureGraph) : List Nat := traverse g g.visits [] [0]

/-- All failures that the first one leads to, itself included, breadth first and each once. Members,
causes and contexts all count, and hidden contexts among them. -/
def reachable (g : FailureGraph) : List Failure := g.reachablePositions.filterMap (g[·]?)

/-- What is shown as having led to a failure: its cause, or else its context unless that is hidden. -/
def shownLink (f : Failure) : Option Nat :=
  f.cause.orElse fun _ => if f.contextHidden then none else f.context

/-- The chain of shown links from a position on, until it ends or comes round. -/
def chain (g : FailureGraph) : Nat → List Nat → Nat → List Failure
  | 0, _, _ => []
  | fuel + 1, seen, i =>
    if seen.contains i then []
    else
      match g[i]? with
      | none => []
      | some f =>
        f :: match shownLink f with
          | some j => chain g fuel (i :: seen) j
          | none => []

/-- The first failure and what is shown as having led to it, each once. There is one way on from
each failure, so this is a chain. -/
def causes (g : FailureGraph) : List Failure := chain g (g.length + 1) [] 0

end FailureGraph

end IntentSpec
