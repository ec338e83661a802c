import IntentSpec.Text.Character
import IntentSpec.Text.Pieces

/-!
# Paths

A path is kept by its parts.  Repeated slashes and single dots say nothing and are dropped, while steps to
the parent are kept, since where they lead is only known once the parts before them are.  Exactly two
slashes at the front are told from one.

A text may refer to the variables of the environment, by a dollar sign and a name, which may stand in
braces.  A reference to a variable that is not set is left as it is, and what a variable stands for is
not looked at again.  A path may begin with a tilde, for the home directory of a user.  Who the users of a
system are, and where they live, is on record outside the program, so an environment carries the answers to
these questions along with its variables, and nothing is supposed about them: whatever is said here of paths
is said for every such record.

## Main definitions

* `Path`, `Path.ofText`, `Path.text` — paths and their texts.
* `Path.join`, `Path.parent`, `Path.name` — the paths around a path.
* `Path.normal` — the path after steps to the parent have been cancelled.
* `Path.absolute` — the path from the root, given the working directory.
* `Variables`, `Environment` — variables, and what else a path may depend on.
* `Environment.expand` — a text with the values of variables.
* `Path.expandHome?` — a path with the home directory in it.
-/

namespace IntentSpec

open Text

/-- A path. It is kept by its parts, so two texts that differ in repeated slashes, single dots or a
slash at the end are one path. -/
structure Path where
  /-- How many slashes stand at the front: none, one or two. -/
  root : Nat := 0
  /-- The parts, none of which is empty or a single dot. -/
  parts : List String := []
deriving DecidableEq, Repr

namespace Path

/-- The step to the parent. -/
def up : String := ".."

/-- The slashes at the front that count. -/
def rootOf (s : List Char) : Nat :=
  match (s.takeWhile (· == '/')).length with
  | 0 => 0
  | 2 => 2
  | _ => 1

/-- The parts of a text between slashes, without those that say nothing. -/
def partsOf (s : List Char) : List String :=
  ((splitAt '/' s).filter fun part => !part.isEmpty && part != ['.']).map String.ofList

/-- The path that a text gives. Every text gives one; steps to the parent stay, since where they
lead is not known from the text. -/
def ofText (text : String) : Path := ⟨rootOf text.toList, partsOf text.toList⟩

/-- Whether the path starts at the root. -/
def isAbsolute (p : Path) : Bool := p.root != 0

/-- The text of a path; that of an empty path is a single dot. -/
def text (p : Path) : String :=
  if p.root = 0 ∧ p.parts.isEmpty then "."
  else String.ofList (List.replicate p.root '/') ++ "/".intercalate p.parts

/-- A path seen from another one. A path from the root is not moved by it. -/
def join (p q : Path) : Path := if q.isAbsolute then q else ⟨p.root, p.parts ++ q.parts⟩

/-- A path with a text after it. -/
def child (p : Path) (text : String) : Path := p.join (ofText text)

/-- The path without its last part. A step to the parent is a part like any other and is what is
left out if it comes last. -/
def parent (p : Path) : Path := ⟨p.root, p.parts.dropLast⟩

/-- The last part, empty if there is none. -/
def name (p : Path) : String := p.parts.getLast?.getD ""

/-- Takes a part after parts, last first, that have been cancelled.  A step to the parent cancels a part
before it; at the root it leads nowhere. -/
def step (fromRoot : Bool) (done : List String) (part : String) : List String :=
  if part ≠ up then part :: done
  else
    match done with
    | [] => if fromRoot then [] else [up]
    | last :: rest => if last = up then up :: done else rest

/-- The path after steps to the parent have been cancelled, each with the part before it and without
looking at any file. -/
def normal (p : Path) : Path := ⟨p.root, (p.parts.foldl (step p.isAbsolute) []).reverse⟩

/-- The path from the root without steps to the parent, given the working directory. -/
def absolute (p directory : Path) : Path :=
  let whole := directory.join p
  (⟨1, whole.parts⟩ : Path).normal

/-- Whether the path has a character that no path can have. -/
def hasNul (p : Path) : Bool := p.parts.any fun part => part.toList.contains '\x00'

end Path

open Text

/-! ## Variables and home directories -/

/-- Variables with their values. Of several with one name the first counts. -/
abbrev Variables := List (String × String)

/-- The value of a variable. -/
def Variables.value? (vars : Variables) (name : String) : Option String :=
  (vars.find? (·.1 == name)).map (·.2)

/-- What a path may depend on besides the working directory: the variables, and the record of home
directories, about which nothing is assumed. -/
structure Environment where
  vars : Variables := []
  /-- The home directory that is on record for a user.  The empty name stands for the user who runs the
  program. -/
  homes : String → Option String := fun _ => none

namespace Environment

/-- The name that is referred to after a dollar sign, and how many characters the reference takes. -/
def reference? (s : List Char) : Option (List Char × Nat) :=
  match s with
  | '\x7b' :: s => (cutFirst? '\x7d' s).map fun (name, _) => (name, name.length + 2)
  | _ =>
    match s.takeWhile isAsciiWord with
    | [] => none
    | name => some (name, name.length)

/-- A text with the values of variables; `skip` characters have been dealt with. -/
def expandFrom (vars : Variables) : Nat → List Char → List Char
  | _, [] => []
  | skip + 1, _ :: s => expandFrom vars skip s
  | 0, c :: s =>
    if c ≠ '$' then c :: expandFrom vars 0 s
    else
      match reference? s with
      | none => c :: expandFrom vars 0 s
      | some (name, taken) =>
        match vars.value? (String.ofList name) with
        | some value => value.toList ++ expandFrom vars taken s
        | none => c :: s.take taken ++ expandFrom vars taken s

/-- A text with the values of variables. A reference to a variable that has no value stays as it is.
-/
def expand (environment : Environment) (text : String) : String :=
  String.ofList (expandFrom environment.vars 0 text.toList)

/-- The home directory of a user, or of the one who runs the program if none is named.  The latter can choose
another one than that on record. -/
def home? (environment : Environment) (user : String) : Option String :=
  if user.isEmpty then
    (environment.vars.value? "HOME").orElse fun _ => environment.homes ""
  else environment.homes user

end Environment

/-- A text without the slashes at its end; nothing but slashes is the root. -/
def dropFinalSlashes (text : String) : String :=
  match (text.toList.reverse.dropWhile (· == '/')).reverse with
  | [] => "/"
  | s => String.ofList s

/-- A path with the home directory for a tilde at its front, if there is such a directory. -/
def Path.expandHome? (environment : Environment) (p : Path) : Option Path :=
  match p.root, p.parts with
  | 0, first :: rest =>
    match first.toList with
    | '~' :: user =>
      match (environment.home? (String.ofList user)).map dropFinalSlashes with
      | none => none
      | some home =>
        if home.toList.head? = some '~' then none
        else
          let front := Path.ofText home
          some ⟨front.root, front.parts ++ rest⟩
    | _ => some p
  | _, _ => some p

end IntentSpec
