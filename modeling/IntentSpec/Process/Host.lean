import IntentSpec.Failure.Errno
import IntentSpec.Text.Pieces

/-!
# Where programs are found

A program is named by a path, or by a name that is looked for in several directories.

## Main definitions

* `Host` — the programs and files that are known.
* `Host.place`, `Host.kind?` — the place that a path means, and what stands there.
* `Host.inspect`, `Host.locate` — the program that a path or a name stands for, or an error number.
-/

namespace IntentSpec

open Text

/-- The programs and files that are known. -/
structure Host where
  /-- The variables of a process that is not given any. -/
  environment : List (String × String) := [("PATH", "/usr/local/bin:/usr/bin:/bin"), ("HOME", "/root")]
  /-- The directory of a process that is not given any. -/
  directory : String := "/"
  directories : List String :=
    ["/", "/bin", "/boot", "/dev", "/etc", "/home", "/lib", "/media", "/mnt", "/opt", "/proc", "/root",
     "/run", "/sbin", "/srv", "/sys", "/tmp", "/usr", "/usr/bin", "/usr/lib", "/usr/local",
     "/usr/local/bin", "/usr/local/lib", "/usr/sbin", "/usr/share", "/var", "/var/lib", "/var/log",
     "/var/tmp", "/work"]
  /-- The files that are no programs. -/
  files : List String := ["/etc/passwd", "/etc/group", "/etc/hosts", "/etc/hostname", "/etc/os-release"]
  devices : List String :=
    ["/dev/null", "/dev/zero", "/dev/full", "/dev/random", "/dev/urandom", "/dev/tty", "/dev/stdin",
     "/dev/stdout", "/dev/stderr"]
  programDirectories : List String := ["/bin", "/usr/bin"]
  programs : List String :=
    ["[", "basename", "cat", "dash", "dirname", "echo", "env", "expr", "false", "head", "printenv",
     "printf", "pwd", "rev", "seq", "sh", "sleep", "sort", "tac", "tail", "tee", "test", "tr", "true",
     "uniq", "wc", "yes"]
  /-- The home directories of the users; the empty name stands for the user who runs the program. -/
  homes : List (String × String) :=
    [("", "/root"), ("root", "/root"), ("daemon", "/usr/sbin"), ("bin", "/bin"), ("sys", "/dev"),
     ("sync", "/bin"), ("games", "/usr/games"), ("man", "/var/cache/man"), ("lp", "/var/spool/lpd"),
     ("mail", "/var/mail"), ("news", "/var/spool/news"), ("uucp", "/var/spool/uucp"), ("proxy", "/bin"),
     ("www-data", "/var/www"), ("backup", "/var/backups"), ("list", "/var/list"),
     ("nobody", "/nonexistent")]
deriving Repr

/-- What stands at a path. -/
inductive PlaceKind where
  | directory
  /-- A file that is no program. -/
  | plain
  | device
  | program (name : String)
deriving DecidableEq, Repr

namespace Host

/-- The parts of a path between slashes.  Two dots take back the part before them. -/
def parts (path : String) : List String :=
  ((splitAt '/' path.toList).foldl (fun kept part =>
    if part.isEmpty || part == ['.'] then kept
    else if part == ['.', '.'] then kept.drop 1
    else String.ofList part :: kept) []).reverse

/-- The path with given parts. -/
def ofParts (parts : List String) : String := "/" ++ "/".intercalate parts

/-- The path from the root of what a path means in a directory. -/
def place (directory path : String) : String :=
  if path.startsWith "/" then path else directory ++ "/" ++ path

/-- What stands at a path from the root, if anything does. -/
def kind? (host : Host) (path : String) : Option PlaceKind :=
  let all := parts path
  let name := all.getLast?.getD ""
  if host.directories.contains (ofParts all) then some .directory
  else if host.devices.contains (ofParts all) then some .device
  else if host.files.contains (ofParts all) then some .plain
  else if host.programs.contains name && host.programDirectories.contains (ofParts all.dropLast) then
    some (.program name)
  else none

/-- Whether a path leads through something that is no directory. -/
def isBlocked (host : Host) (path : String) : Bool :=
  let all := parts path
  let stands (n : Nat) : Bool := (host.kind? (ofParts (all.take n))).any (· != .directory)
  (List.range all.length).any stands || (path.endsWith "/" && stands all.length)

/-- The greatest number of bytes of a part of a path, and of a path. -/
def lengthLimits : Nat × Nat := (255, 4095)

/-- Whether a path or one of its parts is too long. -/
def isTooLong (path : String) : Bool :=
  path.utf8ByteSize > lengthLimits.2 ||
    (splitAt '/' path.toList).any fun part => (String.ofList part).utf8ByteSize > lengthLimits.1

/-- The error number for starting what stands at a path, or the name of a program. -/
def inspect (host : Host) (path : String) : Except Int String :=
  if isTooLong path then .error Errno.nameTooLong
  else if host.isBlocked path then .error Errno.notDirectory
  else
    match host.kind? path with
    | some (.program name) => .ok name
    | some _ => .error Errno.accessDenied
    | none => .error Errno.noEntry

/-- The first program among paths; otherwise the first error that is more than an absence, or the last
one. -/
def first (host : Host) : List String → Except Int String
  | [] => .error Errno.noEntry
  | [path] => host.inspect path
  | path :: paths =>
    match host.inspect path with
    | .ok name => .ok name
    | .error code =>
      match host.first paths with
      | .ok name => .ok name
      | .error later =>
        if code = Errno.noEntry ∨ code = Errno.notDirectory then .error later else .error code

/-- The program that a path or a name stands for in a directory, or an error number. -/
def locate (host : Host) (environment : List (String × String)) (directory name : String) :
    Except Int String :=
  if name.toList.contains '/' then host.inspect (place directory name)
  else
    let search := (environment.lookup "PATH").getD "/bin:/usr/bin"
    host.first ((splitAt ':' search.toList).map fun d =>
      place directory (if d.isEmpty then name else String.ofList d ++ "/" ++ name))

end Host

end IntentSpec
