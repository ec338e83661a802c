import IntentSpec.Files.Write
import IntentSpec.Hash.Sha256
import IntentSpec.Path.Basic

/-!
# Receipts in files

Receipts are kept in files that are named by the hash of the specification.  A run has a directory of its
own, whose name begins with the beginning of that hash.  Every file is written in one step.

The hash is the only key: a specification that changes has another receipt, and validating one again replaces
its receipt.  A text that is no hash is refused before any path is made of it, so no path leads out of the
directories of the store.

Every write answers the files as they are afterwards, also when it fails, and takes the faults that may befall
it on its way as an argument.  What is proved of it thus holds for any of them.  Faults are errors of the
system; that the process itself is stopped in the middle is described with the write, not here, since a store
that has been stopped answers nothing.

## Main definitions

* `ReceiptStore`, `ReceiptStore.open?` — the directories of a store.
* `ReceiptStore.validationPath`, `ReceiptStore.verificationPath` — where receipts are.
* `ReceiptStore.findValidation?` — a receipt that is there.
* `ReceiptStore.writeReceipt`, `ReceiptStore.writeRunFile` — writing.
* `ReceiptStore.createRun`, `RunWorkspace` — the directory of a run.
-/

namespace IntentSpec

/-- Why a store cannot do what it is asked to. -/
inductive StoreFault where
  | badHash
  /-- An action on a path fails with an error of the operating system. -/
  | system (path : Path) (action : String) (code : Int)
  /-- A file is to be written where there is no directory. -/
  | notInDirectory (path : Path) (action : String) (parent : Path)
  /-- A write fails in another way. -/
  | write (trouble : WriteTrouble)
  /-- It cannot be told whether a receipt is there, since the operating system reports an error. -/
  | lookup (code : Int)
deriving DecidableEq, Repr

namespace StoreFault

/-- The wording for a text that is no hash. -/
def hashMessage : String := "spec_hash must be a lowercase SHA-256 hex digest"

/-- The wording of a fault that has one of its own. -/
def message? : StoreFault → Option String
  | badHash => some hashMessage
  | system path action code =>
    some (path.text ++ ": unable to " ++ action ++ ": " ++ Errno.message code)
  | notInDirectory path action parent =>
    some (path.text ++ ": unable to " ++ action ++ ": " ++ parent.text ++ " is not a directory")
  | write _ | lookup _ => none

/-- The fault of a write. -/
def ofTrouble (path : Path) (action : String) : WriteTrouble → StoreFault
  | .system code => system path action code
  | .notInDirectory parent => notInDirectory path action parent
  | trouble => write trouble

end StoreFault

/-- The directories of a store. They need not exist; a write makes what is missing. -/
structure ReceiptStore where
  receipts : Path
  verification : Path
  runs : Path
deriving DecidableEq, Repr

/-- The directory of a run. -/
structure RunWorkspace where
  id : String
  path : Path
deriving DecidableEq, Repr

namespace RunWorkspace

/-- The file that says where the validation receipt is. -/
def pointer (w : RunWorkspace) : Path := w.path.child "receipt.path"

/-- The file of what the command wrote. -/
def stdoutLog (w : RunWorkspace) : Path := w.path.child "executor.stdout.log"

/-- The file of what the command wrote to its error output. -/
def stderrLog (w : RunWorkspace) : Path := w.path.child "executor.stderr.log"

end RunWorkspace

namespace ReceiptStore

/-- A store in given directories, if there is a home directory for every tilde. Nothing is made or
looked at when it is opened. -/
def open? (environment : Environment) (receipts verification runs : Path) : Option ReceiptStore := do
  return { receipts := ← receipts.expandHome? environment
           verification := ← verification.expandHome? environment
           runs := ← runs.expandHome? environment }

/-- A text that is a hash. -/
def checkedHash (hash : String) : Except StoreFault String :=
  if Sha256.isHex hash then .ok hash else .error .badHash

/-- Where the validation receipt of a specification is. -/
def validationPath (store : ReceiptStore) (hash : String) : Except StoreFault Path := do
  return store.receipts.child ((← checkedHash hash) ++ ".validation.json")

/-- Where the verification receipt of a specification is. -/
def verificationPath (store : ReceiptStore) (hash : String) : Except StoreFault Path := do
  return store.verification.child ((← checkedHash hash) ++ ".verification.json")

/-- The validation receipt of a specification, if there is one.  Most errors of the operating system mean that
there is none; a path that it does not take at all is passed on as an error. -/
def findValidation? (store : ReceiptStore) (directory : Path) (files : FileTree) (hash : String) :
    Except StoreFault (Option Path) := do
  let path ← store.validationPath hash
  match files.isFile directory path with
  | .ok there => return if there then some path else none
  | .error code => throw (.lookup code)

/-- Writes a file; on failure answers the files as they are then. -/
def writeFile (action : String) (directory path : Path) (payload : String) (files : FileTree)
    (faults : WriteFaults := {}) : FileTree × Except StoreFault Path :=
  let run := ({ faults.interruptions with
                directory, target := path, payload := .text payload "utf-8", makeParents := true } :
      FileWrite).run files
  (run.last, match run.ending with
    | .done => .ok path
    | .failed trouble => .error (.ofTrouble path action trouble)
    | .stopped => .ok path) -- no error stops the process, `WriteFaults.ne_stop`

/-- The text of a receipt as it is written: it ends in a line feed. -/
def receiptPayload (text : String) : String :=
  if text.toList.getLast? = some '\n' then text else text ++ "\n"

/-- Writes a receipt to a path. -/
def writeReceiptTo (directory path : Path) (text : String) (files : FileTree)
    (faults : WriteFaults := {}) : FileTree × Except StoreFault Path :=
  writeFile "write receipt" directory path (receiptPayload text) files faults

/-- Writes a receipt to a given path, or else to where it belongs. -/
def writeReceipt (place : Except StoreFault Path) (directory : Path) (out : Option Path) (text : String)
    (files : FileTree) (faults : WriteFaults := {}) :
    FileTree × Except StoreFault Path :=
  match out, place with
  | some path, _ | none, .ok path => writeReceiptTo directory path text files faults
  | none, .error fault => (files, .error fault)

/-- Writes the validation receipt of a specification. -/
def writeValidation (store : ReceiptStore) (directory : Path) (hash text : String) (out : Option Path)
    (files : FileTree) (faults : WriteFaults := {}) :
    FileTree × Except StoreFault Path :=
  writeReceipt (store.validationPath hash) directory out text files faults

/-- Writes the verification receipt of a specification. -/
def writeVerification (store : ReceiptStore) (directory : Path) (hash text : String)
    (out : Option Path) (files : FileTree) (faults : WriteFaults := {}) :
    FileTree × Except StoreFault Path :=
  writeReceipt (store.verificationPath hash) directory out text files faults

/-- Writes a file of a run. -/
def writeRunFile (directory path : Path) (text : String) (files : FileTree)
    (faults : WriteFaults := {}) : FileTree × Except StoreFault Path :=
  writeFile "write run artifact" directory path text files faults

/-- The identifier of a run: the beginning of the hash of the specification, and something that tells
runs apart. -/
def runId (hash entropy : String) : Except StoreFault String := do
  return String.ofList ((← checkedHash hash).toList.take 16) ++ "-" ++ entropy

/-- Makes the directory of a run. That it is new is up to what tells runs apart; one that is there
already is taken as it is. -/
def createRun (store : ReceiptStore) (directory : Path) (hash entropy : String) (files : FileTree) :
    FileTree × Except StoreFault RunWorkspace :=
  match runId hash entropy with
  | .error fault => (files, .error fault)
  | .ok id =>
    let path := store.runs.child id
    if path.hasNul then (files, .error (.write .nul))
    else
      match files.makeDirectories directory path with
      | (files, none) => (files, .ok ⟨id, path⟩)
      | (files, some code) => (files, .error (.system path "create run directory" code))

end ReceiptStore

end IntentSpec
