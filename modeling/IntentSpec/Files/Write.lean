import IntentSpec.Files.Tree
import IntentSpec.Text.Utf8

/-!
# Writing a file in one step

A file is written beside its target under a name of its own and then takes the place of the target, so
that the target never holds a part of what is written.  Every step may fail or be the last one that is
carried out; a failure before the end removes what was written beside the target.

What may go wrong is handed in (`Interruptions`) and not derived from a state of the machine: an error number
at any step, the end of the process at any step, and how far a step had got that was broken off.  A disk that
is full and a directory that is not to be written to are in this way as good as any other reason.  The
table of encodings is handed in, too, since which encodings there are is not for this program to say.

## Main definitions

* `WriteStep`, `Interruption` — the steps of a write, and what may happen at them.
* `WriteFaults` — the errors that a process lives through.
* `WriteTrouble` — why a write fails.
* `Encoding.encode?` — a text as bytes.
* `FileTree.atomicWrite` — the trees that a write goes through, and how it ends.
-/

namespace IntentSpec

open Text

/-- The steps of a write, in their order, and the one that follows a failure. Between two of them
the tree can be seen by others. -/
inductive WriteStep where
  /-- The directories above the target are made. -/
  | makeParents
  /-- The directory of the target is looked up. -/
  | resolveParent
  /-- An empty file is made beside the target. -/
  | create
  /-- The content is written to it. -/
  | write
  /-- What is written is brought to the disk. -/
  | sync
  /-- It takes the place of the target. -/
  | replace
  /-- The directory is brought to the disk. -/
  | syncParent
  /-- After a failure, the file beside the target is removed. -/
  | remove
deriving DecidableEq, Repr

/-- What may happen at a step. After an error the write goes on to clean up; when the process is
stopped, nothing more is done. -/
inductive Interruption where
  /-- The operating system reports an error. -/
  | error (code : Int)
  | stop
deriving DecidableEq, Repr

/-- Why a write fails. Only the first kind comes from the operating system; the others are found out
before it is asked to do anything. -/
inductive WriteTrouble where
  /-- The operating system reports an error. -/
  | system (code : Int)
  /-- The target does not stand in a directory. -/
  | notInDirectory (parent : Path)
  /-- The path has a character that no path can have. -/
  | nul
  /-- A character has no bytes in the encoding. -/
  | unencodable
  | unknownEncoding
deriving DecidableEq, Repr

/-- A table of encodings: what turns texts into bytes, by the name of the encoding.  A text has no bytes in an
encoding that lacks one of its characters. -/
abbrev Codecs := String → Option (String → Option (List UInt8))

/-- The encodings of text that are always there. -/
inductive Encoding where
  | utf8
  | ascii
  | latin1
deriving DecidableEq, Repr

namespace Encoding

/-- The encoding that a name stands for; case, hyphens and underscores do not matter. -/
def ofName? (name : String) : Option Encoding :=
  let plain := String.ofList ((name.toList.filter fun c => c != '-' && c != '_' && c != ' ').map
    Char.toLower)
  if ["utf8", "u8", "utf"].contains plain then some utf8
  else if ["ascii", "usascii", "646"].contains plain then some ascii
  else if ["latin1", "iso88591", "latin", "l1", "88591", "cp819"].contains plain then some latin1
  else none

/-- A text as bytes, if every character has some. -/
def encode? (e : Encoding) (text : String) : Option (List UInt8) :=
  let below (bound : Nat) : Option (List UInt8) :=
    if text.toList.all fun c => c.toNat < bound then some (text.toList.map fun c => c.toNat.toUInt8)
    else none
  match e with
  | utf8 => some (Utf8.encode text)
  | ascii => below 0x80
  | latin1 => below 0x100

/-- The table of the encodings that are always there. -/
def codecs : Codecs := fun name => (ofName? name).map encode?

end Encoding

/-- What is to be written: bytes, or a text in an encoding. -/
inductive Payload where
  | bytes (content : List UInt8)
  /-- A text in the encoding of a name. -/
  | text (content encoding : String)
deriving DecidableEq, Repr

/-- The bytes to be written. -/
def Payload.content (codecs : Codecs) : Payload → Except WriteTrouble (List UInt8)
  | bytes content => .ok content
  | text content encoding =>
    match codecs encoding with
    | none => .error .unknownEncoding
    | some encode =>
      match encode content with
      | none => .error .unencodable
      | some b => .ok b

/-- How a write ends. -/
inductive WriteEnd where
  /-- The target holds what was to be written. -/
  | done
  | failed (trouble : WriteTrouble)
  | stopped
deriving DecidableEq, Repr

/-- The trees that a write goes through, in order, and how it ends. -/
structure WriteRun where
  /-- The trees, the one before the write first. -/
  states : List FileTree
  ending : WriteEnd
deriving DecidableEq, Repr

namespace WriteRun

/-- The tree at the end. -/
def last (r : WriteRun) : FileTree := r.states.getLast?.getD {}

end WriteRun

/-- What happens at the steps of a write; nothing, unless it is said otherwise. How far an
interrupted step has got is part of it, since a tree in the middle of a step can be seen as well. -/
structure Interruptions where
  interruption : WriteStep → Option Interruption := fun _ => none
  /-- How many of the directories on the way to the target are there when making them is interrupted. -/
  made : Nat := 0
  /-- How many bytes have been written when writing is interrupted. -/
  written : Nat := 0

/-- Errors at the steps of a write, and how far a step had got that reports one.  This is what a store meets
with, for as long as there is a process that goes on to use it. -/
structure WriteFaults where
  code : WriteStep → Option Int := fun _ => none
  made : Nat := 0
  written : Nat := 0

/-- Errors as what happens at the steps of a write. -/
def WriteFaults.interruptions (faults : WriteFaults) : Interruptions where
  interruption s := (faults.code s).map .error
  made := faults.made
  written := faults.written

/-- A write with all that may befall it. What is proved for every value of this type is proved for
every course of the write. -/
structure FileWrite extends Interruptions where
  directory : Path
  target : Path
  payload : Payload
  /-- Whether the directories above the target are made. -/
  makeParents : Bool := false
  codecs : Codecs := Encoding.codecs

namespace FileWrite

/-- A step that changes the tree, or is interrupted, or fails by itself. An interrupted step leaves
the tree that is given for this case, which need not be the one before it. -/
def step (w : FileWrite) (s : WriteStep) (t : FileTree) (act : FileTree × Option WriteTrouble) :
    FileTree × Option WriteEnd :=
  match w.interruption s with
  | some .stop => (t, some .stopped)
  | some (.error code) => (t, some (.failed (.system code)))
  | none => (act.1, act.2.map WriteEnd.failed)

/-- The name under which a file is written beside its target. -/
def besideName (name : String) (number : Nat) : String :=
  let digits := toString number
  "." ++ name ++ "." ++ "".pushn '0' (8 - digits.length) ++ digits ++ ".tmp"

/-- A place beside the target at which nothing stands. -/
def besidePlace (t : FileTree) (parent : Place) (name : String) : Place :=
  let places := (List.range (t.nodes.length + 1)).map fun n => parent ++ [besideName name n]
  (places.find? fun place => (t.find? place).isNone).getD (parent ++ [besideName name 0])

/-- What is done after a failure: the file beside the target is removed. -/
def cleanUp (w : FileWrite) (beside : Place) (t : FileTree) (trouble : WriteTrouble) : WriteRun :=
  match w.interruption .remove with
  | some .stop => ⟨[t], .stopped⟩
  | some (.error _) => ⟨[t], .failed trouble⟩
  | none => ⟨[t, t.erase beside], .failed trouble⟩

/-- Continues with the next steps unless a step has ended the write. -/
def andThen (result : FileTree × Option WriteEnd) (fail : FileTree → WriteTrouble → WriteRun)
    (next : FileTree → WriteRun) : WriteRun :=
  match result with
  | (t, none) => let r := next t; ⟨t :: r.states, r.ending⟩
  | (t, some (.failed trouble)) => fail t trouble
  | (t, some ending) => ⟨[t], ending⟩

/-- Ends a write that has left nothing beside the target. -/
def giveUp (t : FileTree) (trouble : WriteTrouble) : WriteRun := ⟨[t], .failed trouble⟩

/-- The steps after the file beside the target has been made. -/
def fill (w : FileWrite) (beside : Place) (content : List UInt8) (t : FileTree) : WriteRun :=
  let fail := w.cleanUp beside
  let begun := t.put beside (.file (content.take w.written))
  andThen (w.step .write begun (t.put beside (.file content), none)) fail fun t =>
  andThen (w.step .sync t (t, none)) fail fun t =>
  andThen
    (w.step .replace t <|
      match t.rename beside w.directory w.target with
      | .ok t => (t, none)
      | .error code => (t, some (.system code))) fail fun _ =>
  match w.interruption .syncParent with
  | some .stop => ⟨[], .stopped⟩
  | _ => ⟨[], .done⟩

/-- An empty file is made in a directory, unless the directory is closed. -/
def emptyFile (parent beside : Place) (t : FileTree) : FileTree × Option WriteTrouble :=
  match t.find? parent with
  | some (.closedDirectory code) => (t, some (.system code))
  | _ => (t.put beside (.file []), none)

/-- The steps after the directory of the target has been found. -/
def createBeside (w : FileWrite) (parent : Path) (t : FileTree) : WriteRun :=
  if !t.isDirectory w.directory parent then giveUp t (.notInDirectory parent)
  else
    match w.payload.content w.codecs with
    | .error trouble => giveUp t trouble
    | .ok content =>
      let beside := besidePlace t parent.parts w.target.name
      if w.target.name.toList.contains '\x00' then giveUp t .nul
      else if FileTree.maxName < (besideName w.target.name 0).utf8ByteSize then
        giveUp t (.system Errno.nameTooLong)
      else andThen (w.step .create t (emptyFile parent.parts beside t)) giveUp (w.fill beside content)

/-- The steps after the directories above the target have been made. -/
def findParent (w : FileWrite) (t : FileTree) : WriteRun :=
  if w.target.parent.hasNul then giveUp t .nul
  else
    match w.interruption .resolveParent with
    | some .stop => ⟨[t], .stopped⟩
    | some (.error code) => giveUp t (.system code)
    | none =>
      match t.resolve w.directory w.target.parent with
      | .error code => giveUp t (.system code)
      | .ok parent => w.createBeside parent t

/-- A write: the trees that it goes through, the first of them the one that it starts from, and how
it ends. -/
def run (w : FileWrite) (t : FileTree) : WriteRun :=
  let r :=
    if !w.makeParents then w.findParent t
    else if w.target.parent.hasNul then giveUp t .nul
    else
      let begun := (t.makeDirectories w.directory ⟨w.target.parent.root, w.target.parent.parts.take w.made⟩).1
      andThen
        (w.step .makeParents begun
          (let (t, code) := t.makeDirectories w.directory w.target.parent
           (t, code.map WriteTrouble.system)))
        giveUp w.findParent
  ⟨t :: r.states, r.ending⟩

end FileWrite

end IntentSpec
