import IntentSpec.Config.Layers
import IntentSpec.Files.Tree
import IntentSpec.Text.Utf8
import IntentSpec.Toml.Document

/-!
# Loading the configuration

The layers of a configuration are, from below, the defaults, a file, the environment and overrides.  The
configuration is checked with and without the upper two, and at last its paths are made absolute, relative
ones against the directory of the file.

It is checked twice because a variable is read by the type that its field has below: a file in which a field
has the wrong type has to be refused before a variable is read as that type, and what comes from above has to
be checked as well.  Relative paths are seen from the file and not from the working directory, so that a
configuration means the same wherever the program is started.

Only a file that was named has to be there.  For the file in the working directory it is enough that nothing
stands at its path; an error of the operating system that says something else is passed on.  Where home
directories are is asked of the environment, which need not know an answer.

## Main definitions

* `Config.absolutePath`, `Config.normalizePaths` — the paths of a configuration.
* `Config.storedPath` — a path of a configuration.
* `Config.fileLayer` — the layer of a file.
* `Config.load` — the configuration.
-/

namespace IntentSpec.Config

open Text

/-- Turns a missing answer into a fault. -/
def orFault {α : Type} (fault : Fault) : Option α → Except Fault α
  | some a => .ok a
  | none => .error fault

/-- A configuration with nothing wrong, in its normal form. -/
def checked (d : Datum) : Except Fault Datum :=
  match validate d with
  | .ok (.ok d) => .ok d
  | .ok (.error found) => .error (.invalid found)
  | .error e => .error (.numeral e)

/-- A mapping laid over another one. -/
def merged (base upper : List (Datum × Datum)) : Except Fault (List (Datum × Datum)) :=
  orFault .unsorted (merge? base upper)

/-- The fields that hold paths. -/
def pathFields : List String := ["receipts_dir", "verification_dir", "runs_dir"]

/-- The section of the paths. -/
def pathSection : String := "paths"

/-- An absolute path: variables and the home directory are put in, a relative path is seen from a base
directory, and steps to the parent are cancelled. -/
def absolutePath (environment : Environment) (base : Path) (raw : String) : Except Fault Path := do
  let p ← orFault .noHome ((Path.ofText (environment.expand raw)).expandHome? environment)
  return ((if p.isAbsolute then p else base.join p).normal)

/-- The text of a path of a configuration, if it is one. -/
def storedText? (key : String) (entries : List (Datum × Datum)) : Option String :=
  match Datum.atKey? (.text pathSection) entries with
  | some (.mapping inner) => (Datum.atKey? (.text key) inner).bind Datum.text?
  | _ => none

/-- A configuration with absolute paths. -/
def normalizePaths (environment : Environment) (base : Path) (config : Datum) :
    Except Fault (List (Datum × Datum)) := do
  let entries := match config with
    | .mapping entries => entries
    | _ => []
  pathFields.foldlM (fun entries key =>
    match storedText? key entries with
    | none => .ok entries
    | some raw => do
      assignAt (.text (← absolutePath environment base raw).text) [pathSection, key] entries)
    (← merged [] entries)

/-- A path of a configuration. -/
def storedPath (config : Datum) (key : String) : Except Fault Path :=
  let found := match config with
    | .mapping entries => storedText? key entries
    | _ => none
  orFault (.load (.notConfigured key)) (found.map Path.ofText)

/-- Text with every line end as a line feed. -/
def lineFeeds : List Char → List Char
  | [] => []
  | c :: s =>
    if c = '\r' then (if s.head? = some '\n' then lineFeeds s else '\n' :: lineFeeds s)
    else c :: lineFeeds s

/-- The entries of a file that is there. -/
def fileEntries (shown : String) (content : List UInt8) : Except Fault (List (Datum × Datum)) := do
  let text ← orFault (.load (.unreadable shown)) (Utf8.decode? content)
  match Toml.read (lineFeeds text) with
  | .ok (.mapping entries) => return entries
  | .ok _ => throw (.load (.malformed shown))
  | .error .malformed => throw (.load (.malformed shown))
  | .error (.numeral e) => throw (.numeral e)

/-- The layer of a file, which may be absent unless it is required.  It is found out first whether anything stands
there; an error that says neither is passed on. -/
def fileLayer (files : FileTree) (source : Path) (required : Bool) :
    Except Fault (List (Datum × Datum)) :=
  match files.stat source.parent source with
  | .ok _ =>
    match files.read source.parent source with
    | .ok content => fileEntries source.text content
    | .error _ => .error (.load (.unreadable source.text))
  | .error code =>
    if FileTree.absences.contains code then
      if required then .error (.load (.notFound source.text)) else .ok []
    else .error (.system code)

/-- The name of the configuration file in the working directory. -/
def defaultName : String := "dil.toml"

/-- The path of the configuration file. -/
def sourcePath (environment : Environment) (directory : Path) (given : Option String) :
    Except Fault Path := do
  let p ← match given with
    | none => pure (directory.child defaultName)
    | some text => orFault .noHome ((Path.ofText text).expandHome? environment)
  if p.hasNul then throw .nul
  return p.absolute directory

/-- The configuration.  The variables of the layer may be others than those of the environment in which paths
are read. -/
def load (files : FileTree) (environment : Environment) (directory : Path) (given : Option String)
    (above : Variables) (overrides : List (String × Datum)) : Except Fault Datum := do
  let source ← sourcePath environment directory given
  let file ← fileLayer files source given.isSome
  let layered ← checked (.mapping (← merged defaults file))
  let entries := match layered with
    | .mapping entries => entries
    | _ => []
  let entries ← merged entries (← environmentLayer layered above)
  let entries ← merged entries (← overrideLayer overrides)
  let config ← checked (.mapping entries)
  return .mapping (← normalizePaths environment source.parent config)

end IntentSpec.Config
