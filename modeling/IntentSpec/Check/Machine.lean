import IntentSpec.Check.Command
import IntentSpec.Files.Tree

/-!
# The world of one machine

Commands are started on a specification whose receipt has been written, and by the checks of a
specification.  Which programs there are, and what they do, is no matter of this library: a machine is given by
a function (`Launcher`) that says what becomes of a command with its surroundings.  A program may change the
files while it runs, and the attempt to start it may itself fail in a way that nobody has foreseen; a
launcher answers both.

On a machine without a network, the answers to the questions of checks come from its files and its launcher.
The files are those that are there when the checks begin; what the commands of some checks change in them is not
seen by the other checks, which may be carried out at the same time.

## Main definitions

* `Launch` — a command with its surroundings.
* `Launcher` — what becomes of commands.
* `FileTree.answer` — what stands at a path.
* `HttpAnswer.offline` — how servers answer without a network.
* `World.ofMachine` — the world.
-/

namespace IntentSpec

open Text

/-! ## Commands -/

/-- A command with its surroundings: where it is started and with which variables. Nothing else is
handed on to a process. -/
structure Launch extends CommandSpec where
  /-- The working directory, if it is not that of the program. -/
  directory : Option String := none
  /-- The variables, if they are not those of the program. -/
  environment : Option Variables := none
deriving DecidableEq, Repr

/-- What becomes of a command, given how many characters of its outputs are kept, if not all, and the files as
they are: its answer, and the files after it. -/
abbrev Launcher := Option Int → Launch → FileTree → Except FailureGraph CommandAnswer × FileTree

/-! ## Questions -/

/-- Whether only a directory can stand at the path, since it ends in a slash or in a single dot. -/
def namesDirectory (path : String) : Bool :=
  match path.toList.reverse with
  | '/' :: _ | '.' :: '/' :: _ => true
  | _ => false

/-- What stands at a path, as the operating system reports it. A path that ends in a slash names a
directory, so a file there is no answer to it. -/
def FileTree.answer (files : FileTree) (directory : Path) (path : String) : FileAnswer :=
  if path.toList.contains '\x00' then .noPath
  else if path.isEmpty then .failed (some Errno.noEntry)
  else
    match files.stat directory (Path.ofText path) with
    | .error code => .failed (some code)
    | .ok .directory | .ok (.closedDirectory _) => .found .directory 0
    | .ok (.file content) | .ok (.closedFile content _) =>
      if namesDirectory path then .failed (some Errno.notDirectory)
      else .found .file content.length

/-- The error number of a name that cannot be resolved. -/
def unresolvedName : Int := -3

/-- How servers answer without a network: this machine refuses connections, and other names cannot be
resolved. -/
def HttpAnswer.offline (host : String) : HttpAnswer :=
  let isAddress := host == "localhost" || host.toList.contains ':' || Address.isQuad host.toList
  .failed
    [if isAddress then
      { kind := .connectionRefused, text := "", code := some Errno.connectionRefused }
    else { kind := .nameResolution, text := "", code := some unresolvedName }]

/-- The host to which a request with a locator goes; empty if the locator does not say one. -/
def requestedHost (locator : String) : String :=
  match Url.parse locator with
  | .ok url => if url.isAbsolute then url.shownHost.toOption.getD "" else ""
  | .error _ => ""

/-- The world of a machine, given how many characters of the outputs of commands are kept. -/
def World.ofMachine (launcher : Launcher) (files : FileTree) (directory : Path) (vars : Variables)
    (limit : Int) : World where
  stat := files.answer directory
  run argv timeout :=
    (launcher (some limit)
      { argv, timeout := some timeout, directory := some directory.text, environment := some vars }
      files).1
  request _ locator _ := .offline (requestedHost locator)

end IntentSpec
