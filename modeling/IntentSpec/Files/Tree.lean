import IntentSpec.Failure.Errno
import IntentSpec.Path.Basic
import IntentSpec.Sorting

/-!
# File trees

A file tree says what stands at each place, a place being the sequence of names on the way to it from the
root.  Operations answer the error number that they fail with.  A path is followed from directory to
directory, so that a step to the parent is taken from a directory that is there.

Permissions are modelled where they decide what is seen: a directory may be closed to those who would go through
it, and a file to those who would open it, and either answers the error number that the system has for it.  Where
the system refuses a change, for lack of a permission or of space, the operation that makes the change is handed
that error (`WriteFaults`).  Symbolic links are left out.  A tree is what stands at places, and each node stands
at one place only, so a change at a place is seen by that place alone; with links the place that a path leads
to would itself depend on what is changed.

## Main definitions

* `Node` — what may stand at a place, open or closed.
* `FileTree`, `FileTree.find?`, `FileTree.put`, `FileTree.erase` — trees and their nodes.
* `FileTree.locate` — the place that a path leads to.
* `FileTree.stat`, `FileTree.read`, `FileTree.makeDirectory`, `FileTree.rename` — the operations.
* `FileTree.makeDirectories` — a directory with all directories above it.
* `FileTree.resolve` — the path of what is there, without steps to the parent.
-/

namespace IntentSpec

/-- What stands at a place. A closed node stands there like any other and can be asked for; only
what leads through it or opens it is refused, with the error number that it has. -/
inductive Node where
  | directory
  | file (content : List UInt8)
  /-- A directory through which no path leads; the system answers an error number instead. -/
  | closedDirectory (code : Int)
  /-- A file that cannot be opened; the system answers an error number instead. -/
  | closedFile (content : List UInt8) (code : Int)
deriving DecidableEq, Repr

/-- A node is a file, whether it can be opened or not. -/
def Node.isFile : Node → Bool
  | file _ | closedFile .. => true
  | directory | closedDirectory _ => false

/-- The names on the way from the root. -/
abbrev Place := List String

/-- What stands at each place besides the root, which is a directory. The tree is a list, so it is
finite and an unused name can be found; only what is found at a place counts. -/
structure FileTree where
  /-- The nodes; of several at one place the first counts. -/
  nodes : List (Place × Node) := []
deriving DecidableEq, Repr

namespace FileTree

/-- What stands at a place. -/
def find? (t : FileTree) (place : Place) : Option Node :=
  if place.isEmpty then some .directory else (t.nodes.find? (·.1 == place)).map (·.2)

/-- The tree without what stands at a place. -/
def erase (t : FileTree) (place : Place) : FileTree := ⟨t.nodes.filter (·.1 != place)⟩

/-- The tree with a node at a place. -/
def put (t : FileTree) (place : Place) (node : Node) : FileTree :=
  ⟨(place, node) :: (t.erase place).nodes⟩

/-- The tree with a node at a place and directories where nothing stands on the way to it. -/
def putBelow (t : FileTree) (place : Place) (node : Node) : FileTree :=
  ((List.range place.length).foldl (fun t n =>
    if (t.find? (place.take n)).isSome then t else t.put (place.take n) .directory) t).put place node

/-- The files below a place with their contents, named from there, in the order of their names. -/
def filesBelow (t : FileTree) (place : Place) : List (String × List UInt8) :=
  sortBy (fun a b => textLe a.1 b.1) <| t.nodes.filterMap fun (found, node) =>
    match node with
    | .file content | .closedFile content _ =>
      if place.isPrefixOf found then some ("/".intercalate (found.drop place.length), content) else none
    | .directory | .closedDirectory _ => none

/-- The number of bytes that a name may have. -/
def maxName : Nat := 255

/-- The place that parts lead to from a place that everything before led to. A step to the parent is
a step like any other, so it needs a directory that is there; nothing is cancelled in advance. -/
def follow (t : FileTree) (at_ : Place) : List String → Except Int Place
  | [] => .ok at_
  | part :: parts =>
    match t.find? at_ with
    | some .directory =>
      if maxName < part.utf8ByteSize then .error Errno.nameTooLong
      else t.follow (if part = Path.up then at_.dropLast else at_ ++ [part]) parts
    | some (.closedDirectory code) => .error code
    | some (.file _) | some (.closedFile ..) => .error Errno.notDirectory
    | none => .error Errno.noEntry

/-- The place that a path leads to, given the working directory.  All that stands before the last part
has to be a directory. -/
def locate (t : FileTree) (directory p : Path) : Except Int Place :=
  t.follow [] (directory.join p).parts

/-- What a path leads to. Where nothing stands there, that is an error as well, the one that says
so. -/
def stat (t : FileTree) (directory p : Path) : Except Int Node := do
  match t.find? (← t.locate directory p) with
  | some node => return node
  | none => throw Errno.noEntry

/-- Whether a path leads to a directory. -/
def isDirectory (t : FileTree) (directory p : Path) : Bool :=
  match t.stat directory p with
  | .ok node => !node.isFile
  | .error _ => false

/-- The errors that mean that nothing stands where a path leads. -/
def absences : List Int := [Errno.noEntry, Errno.notDirectory, Errno.badDescriptor, Errno.tooManyLinks]

/-- Whether a path leads to a file.  An error is an answer only if it means that there is none. -/
def isFile (t : FileTree) (directory p : Path) : Except Int Bool :=
  if p.hasNul then .ok false
  else
    match t.stat directory p with
    | .ok node => .ok node.isFile
    | .error code => if absences.contains code then .ok false else .error code

/-- The content of the file that a path leads to. -/
def read (t : FileTree) (directory p : Path) : Except Int (List UInt8) := do
  match ← t.stat directory p with
  | .file content => return content
  | .directory => throw Errno.isDirectory
  | .closedDirectory code | .closedFile _ code => throw code

/-- Makes a directory where nothing stands. -/
def makeDirectory (t : FileTree) (directory p : Path) : Except Int FileTree := do
  let place ← t.locate directory p
  if (t.find? place).isSome then throw Errno.fileExists else return t.put place .directory

/-- Makes a directory and all directories above it; it may be there already.  Answers the tree also when
it fails, since directories above may have been made.  The names are given last first. -/
def makeDirectoriesAt (directory : Path) (root : Nat) : List String → FileTree → FileTree × Option Int
  | [], t => (t, none)
  | name :: above, t =>
    let p : Path := ⟨root, (name :: above).reverse⟩
    let settle (t : FileTree) (code : Int) : FileTree × Option Int :=
      if t.isDirectory directory p then (t, none) else (t, some code)
    match t.makeDirectory directory p with
    | .ok t => (t, none)
    | .error code =>
      if code ≠ Errno.noEntry then settle t code
      else
        match makeDirectoriesAt directory root above t with
        | (t, some code) => (t, some code)
        | (t, none) =>
          match t.makeDirectory directory p with
          | .ok t => (t, none)
          | .error code => if code ≠ Errno.noEntry then settle t code else (t, some code)

/-- Makes a directory and all directories above it. It tries the last one first and goes up only as
far as something is missing. -/
def makeDirectories (t : FileTree) (directory p : Path) : FileTree × Option Int :=
  makeDirectoriesAt directory p.root p.parts.reverse t

/-- The place of parts after one that is there; a step to the parent is taken without looking. -/
def resolveFrom (t : FileTree) (at_ : Place) : List String → Except Int Place
  | [] => .ok at_
  | part :: parts =>
    if part = Path.up then t.resolveFrom at_.dropLast parts
    else
      match t.follow at_ [part] with
      | .error code => .error code
      | .ok place => if (t.find? place).isNone then .error Errno.noEntry else t.resolveFrom place parts

/-- The path of what is there, without steps to the parent. Without symbolic links a step to the
parent can be taken on the path alone. -/
def resolve (t : FileTree) (directory p : Path) : Except Int Path := do
  return ⟨1, ← t.resolveFrom [] (directory.join p).parts⟩

/-- Moves a file to where a path leads, in place of the file that stands there. -/
def rename (t : FileTree) (source : Place) (directory target : Path) : Except Int FileTree := do
  let place ← t.locate directory target
  if target.parts.getLast?.all (· == Path.up) then throw Errno.busy
  else
    match t.find? source, t.find? place with
    | _, some .directory | _, some (.closedDirectory _) => throw Errno.isDirectory
    | some node, _ => return (t.erase source).put place node
    | none, _ => throw Errno.noEntry

end FileTree

end IntentSpec
