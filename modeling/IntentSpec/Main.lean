import IntentSpec.Cli.Workflow
import IntentSpec.Process.Launch

/-!
# The program

Reads the files that a call may look at, carries out the call on them, and writes back the files that have
changed.  Nothing is decided here.
-/

open IntentSpec

namespace IntentSpec.Cli

/-- What stands at a path, if anything does. -/
def nodeAt? (path : Path) : IO (Option Node) := do
  try
    return some (.file (← IO.FS.readBinFile path.text).toList)
  catch
    | .inappropriateType .. => return some .directory
    | .permissionDenied .. => return some (.closedFile [] Errno.accessDenied)
    | _ => return none

/-- A tree with what stands at paths. -/
def loadAll (directory : Path) (paths : List Path) (files : FileTree) : IO FileTree :=
  paths.foldlM (fun files path => do
    let path := path.absolute directory
    match ← nodeAt? path with
    | some node => return files.putBelow path.parts node
    | none => return files) files

/-- Writes the files that are not as they were. -/
def saveChanges (before after : FileTree) : IO Unit :=
  after.nodes.forM fun (place, node) => do
    if before.find? place != some node then
      let path : Path := ⟨1, place⟩
      match node with
      | .directory | .closedDirectory _ => IO.FS.createDirAll path.text
      | .file content | .closedFile content _ =>
        IO.FS.createDirAll path.parent.text
        IO.FS.writeBinFile path.text ⟨content.toArray⟩

/-- The paths that the words of a call may name, and the configuration file that is looked for anyway. -/
def namedPaths (environment : Environment) (words : List String) : List Path :=
  let values := words.filterMap fun word => (Text.cutFirst? '=' word.toList).map (String.ofList ·.2)
  (Config.defaultName :: words ++ values).filterMap fun word =>
    (Path.ofText word).expandHome? environment

/-- The entry of a user in the list of users, told by the field of a number. -/
def userRow? (users : String) (field : Nat) (value : String) : Option (List String) :=
  ((users.splitOn "\n").map (·.splitOn ":")).find? fun entry => entry[field]? == some value

/-- The home directories that are on record, where the users are told by their names or, for the one who runs
the program, by the number that the system knows them by. -/
def homesOf : IO (String → Option String) := do
  let status ← IO.FS.readFile "/proc/self/status"
  let users ← IO.FS.readFile "/etc/passwd"
  let own := ((status.splitOn "\n").find? (·.startsWith "Uid:")).bind fun line => (line.splitOn "\t")[1]?
  return fun user =>
    let entry := if user.isEmpty then own.bind (userRow? users 2) else userRow? users 0 user
    entry.bind (·[5]?)

/-- The variables that a call may look at, and the home directories. -/
def environmentOf : IO Environment := do
  let names := ["PATH", "HOME"] ++ (Config.leaves (.mapping Config.defaults)).map fun leaf =>
    Config.variableName leaf.1 leaf.2.1
  let found ← names.mapM fun name => do return (← IO.getEnv name).map fun value => (name, value)
  return { vars := found.filterMap id, homes := ← homesOf }

/-- What tells the runs of a specification apart. -/
def newEntropy : IO String := do
  return String.ofList ((← IO.getRandomBytes 4).toList.flatMap fun b => Text.hexDigits 2 b.toNat)

/-- Carries out a call on the files of the machine. -/
def callOnMachine (words : List String) : IO Outcome := do
  let directory := Path.ofText (toString (← IO.currentDir))
  let environment ← environmentOf
  let host : Host := {}
  let setting : Setting :=
    { directory, environment, entropy := ← newEntropy
      launcher := { host with directories := directory.text :: host.directories }.launcher }
  let files ← loadAll directory (namedPaths environment words)
    (FileTree.putBelow {} directory.parts .directory)
  let files ← loadAll directory (lookups setting files words) files
  let outcome := call setting files words
  saveChanges files outcome.session.files
  return outcome

end IntentSpec.Cli

/-- The program. -/
def main (words : List String) : IO UInt32 := do
  let outcome ← Cli.callOnMachine words
  if outcome.help then IO.println Cli.Invocation.grammar.usage
  IO.print outcome.printed
  outcome.reported.forM IO.eprintln
  match outcome.logged.bind fun events => events.mapM fun event => Datum.exported (event.render .spaced) with
  | .ok lines => lines.forM IO.eprintln
  | .error _ => throw (IO.userError "an event of the call cannot be written")
  return outcome.status.toUInt32
