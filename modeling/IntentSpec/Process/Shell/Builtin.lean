import IntentSpec.Process.Program
import IntentSpec.Process.Script.Reader
import IntentSpec.Process.Shell.Expansion
import IntentSpec.Text.Pieces

/-!
# The commands of a shell

Some commands are carried out by the shell itself, most of them because they change it.

## Main definitions

* `Shell.signals`, `Shell.signal?` — the signals that can be named.
* `Shell.raise`, `Shell.kill` — sending signals.
* `Shell.readLine` — reading a line into variables.
* `Shell.builtin?` — a process after one of these commands.
-/

namespace IntentSpec.Shell

open Text

/-- The arguments of a command. -/
abbrev Arguments := List (List Char)

/-- The commands that the shell carries out itself, besides those that end it if they fail. -/
def ordinary : List String :=
  ["[", "cd", "command", "echo", "false", "hash", "kill", "local", "printf", "pwd", "read", "test",
   "true", "type", "ulimit", "umask", "wait"]

/-- Whether the shell carries out a command itself. -/
def isBuiltin (name : String) : Bool := ordinary.contains name || Script.special.contains name

/-! ## Signals -/

/-- The signals that can be named. -/
def signals : List (String × Nat) :=
  [("EXIT", 0), ("HUP", 1), ("INT", 2), ("QUIT", 3), ("ILL", 4), ("TRAP", 5), ("ABRT", 6), ("BUS", 7),
   ("FPE", 8), ("KILL", 9), ("USR1", 10), ("SEGV", 11), ("USR2", 12), ("PIPE", 13), ("ALRM", 14),
   ("TERM", 15), ("STKFLT", 16), ("CHLD", 17), ("CONT", 18), ("STOP", 19), ("TSTP", 20), ("TTIN", 21),
   ("TTOU", 22), ("URG", 23), ("XCPU", 24), ("XFSZ", 25), ("VTALRM", 26), ("PROF", 27), ("WINCH", 28),
   ("POLL", 29), ("PWR", 30), ("SYS", 31)]

/-- The signal that a word gives, by its number or its name in any case. -/
def signal? (s : List Char) : Option Nat :=
  match Output.number? s with
  | some n => if n < 65 then some n else none
  | none => signals.lookup (String.ofList (s.map fun c =>
      if 'a' ≤ c && c ≤ 'z' then Char.ofNat (c.toNat - 32) else c))

/-- The signals that a process ignores unless it says otherwise. -/
def ignored : List Nat := [0, 17, 18, 23, 28]

/-- The signals that stop a process without ending it. -/
def stopping : List Nat := [19, 20, 21, 22]

/-- Sends a signal to the shell.  A part of the shell leaves it to the shell to notice. -/
def raise (r : Run) (signal : Nat) : Run :=
  let caught := if [0, 9, 19].contains signal then none else r.traps.lookup (toString signal)
  match r.isPart, caught with
  | true, _ => { r with sent := some signal, status := 0 }
  | false, some action =>
    { r with pending := if action.isEmpty then none else some action, status := 0 }
  | false, none =>
    if ignored.contains signal then r.withStatus 0
    else if stopping.contains signal then r.finish .endless
    else r.finish (.signal signal)

/-- How signals are sent. -/
def killUsage : String :=
  "kill: Usage: kill [-s sigspec | -signum | -sigspec] [pid | job]... or\nkill -l [exitstatus]"

/-- Sends signals. -/
def kill (r : Run) (arguments : Arguments) : Run :=
  match arguments with
  | [['-', 'l'], n] =>
    match (Output.number? n).bind fun n => signals.find? (·.2 == n % 128) with
    | some (name, _) => Program.answer r (Utf8.encode name ++ [10])
    | none => (r.warn "kill: invalid signal number or exit status").withStatus 2
  | ['-', 's'] :: name :: targets => send name targets
  | ('-' :: c :: name) :: targets =>
    if c = '-' ∧ name.isEmpty then send ['1', '5'] targets else send (c :: name) targets
  | targets => send ['1', '5'] targets
where
  /-- Sends a signal that is known. -/
  send (name : List Char) (targets : Arguments) : Run :=
    match signal? name with
    | none =>
      (r.warn ("kill: Illegal option -" ++ String.ofList (name.take 1))).withStatus 2
    | some signal =>
      if targets.isEmpty then (r.warn killUsage).withStatus 2
      else if targets.contains self then raise r signal
      else
        match targets.find? fun target => (Output.number? target).isNone with
        | some target => (r.warn ("kill: Illegal number: " ++ String.ofList target)).withStatus 2
        | none => (r.warn "kill: No such process\n").withStatus 1

/-- Says what is carried out at signals. -/
def trap (r : Run) (arguments : Arguments) : Run :=
  let arguments := if arguments.head? = some ['-', '-'] then arguments.tail else arguments
  match arguments with
  | [] => r.withStatus 0
  | [one] => set r none [one]
  | action :: names =>
    if action = ['-'] then set r none names else set r (some (String.ofList action)) names
where
  /-- Sets or removes what is carried out. -/
  set (r : Run) (action : Option String) (names : Arguments) : Run :=
    names.foldl (fun r name =>
      match signal? name with
      | none => (r.complain ("trap: " ++ String.ofList name ++ ": bad trap")).withStatus 1
      | some n =>
        let kept := r.traps.filter (·.1 != toString n)
        { r with traps := (action.map fun a => (toString n, a)).toList ++ kept }) (r.withStatus 0)

/-! ## Variables -/

/-- Sets a variable, unless it cannot be changed. -/
def assign (r : Run) (name value : String) : Run :=
  if r.readOnly.contains name then r.abort (name ++ ": is read only") else r.assign name value

/-- Carries out something for each name among arguments, each of which may come with a value. -/
def forNames (r : Run) (caller : String) (act : Run → String → Run) (arguments : Arguments) : Run :=
  arguments.foldl (fun r a =>
    if r.jump.isSome || a.head? == some '-' then r
    else
      let (name, value) := match cutFirst? '=' a with
        | some (name, value) => (name, some value)
        | none => (a, none)
      if Script.isName name then
        let r := match value with
          | some value => assign r (String.ofList name) (String.ofList value)
          | none => r
        act r (String.ofList name)
      else r.abort (caller ++ ": " ++ String.ofList name ++ ": bad variable name")) (r.withStatus 0)

/-- Sets options and arguments. -/
def setUpTo : Nat → Run → Arguments → Run
  | 0, r, _ => r
  | fuel + 1, r, arguments =>
    match arguments with
    | [] => r
    | ['-', '-'] :: rest => { r with arguments := rest.map String.ofList }
    | ['-', 'o'] :: name :: rest => long fuel r true name rest
    | ['+', 'o'] :: name :: rest => long fuel r false name rest
    | ('-' :: c :: letters) :: rest => switch fuel r true (c :: letters) rest
    | ('+' :: c :: letters) :: rest => switch fuel r false (c :: letters) rest
    | rest => { r with arguments := rest.map String.ofList }
where
  letters : List Char := ['e', 'f', 'i', 'm', 'n', 's', 'x', 'v', 'V', 'E', 'a', 'b', 'u', 'C', 'I']
  names : List (String × Char) :=
    [("errexit", 'e'), ("noglob", 'f'), ("nounset", 'u'), ("xtrace", 'x'), ("verbose", 'v'),
     ("allexport", 'a'), ("noclobber", 'C'), ("noexec", 'n')]
  one (r : Run) (on : Bool) (c : Char) : Run :=
    let kept := r.options.filter (· != c)
    { r with options := if on then kept ++ [c] else kept }
  /-- Sets or removes options by their letters. -/
  switch (fuel : Nat) (r : Run) (on : Bool) (given : List Char) (rest : Arguments) : Run :=
    match given.find? fun c => !letters.contains c with
    | some c => r.abort ("set: Illegal option -" ++ String.ofList [c])
    | none => setUpTo fuel (given.foldl (one · on ·) r) rest
  /-- Sets or removes an option by its name. -/
  long (fuel : Nat) (r : Run) (on : Bool) (name : List Char) (rest : Arguments) : Run :=
    match names.lookup (String.ofList name) with
    | none => r.abort ("set: Illegal option -o " ++ String.ofList name)
    | some c => setUpTo fuel (one r on c) rest

/-! ## Reading a line -/

/-- A line at the front of bytes in which a backslash may keep characters as they are: its characters and
whether each was kept, the rest, and whether the line has an end. -/
def lineFrom (raw : Bool) : List Char → List (Char × Bool) × List Char × Bool
  | [] => ([], [], false)
  | '\\' :: c :: s =>
    if raw then
      let (line, rest, ended) := if c = '\n' then ([], s, true) else lineFrom raw s
      (if c = '\n' then [('\\', false)] else ('\\', false) :: (c, false) :: line, rest, ended)
    else
      let (line, rest, ended) := lineFrom raw s
      (if c = '\n' then line else (c, true) :: line, rest, ended)
  | c :: s =>
    if c = '\n' then ([], s, true)
    else
      let (line, rest, ended) := lineFrom raw s
      ((c, false) :: line, rest, ended)

/-- Whether a character that was not kept is a blank that separates fields. -/
def isGap (separators : List Char) (c : Char × Bool) : Bool :=
  !c.2 && separators.contains c.1 && (c.1 == ' ' || c.1 == '\t' || c.1 == '\n')

/-- The first field of a line and the rest. -/
def firstField (separators : List Char) (line : List (Char × Bool)) :
    List (Char × Bool) × List (Char × Bool) :=
  let ends (c : Char × Bool) : Bool := !c.2 && separators.contains c.1
  let field := line.takeWhile (!ends ·)
  let rest := (line.drop field.length).dropWhile (isGap separators)
  match rest with
  | c :: more =>
    if ends c then (field, more.dropWhile (isGap separators)) else (field, rest)
  | [] => (field, [])

/-- The values of variables that a line is read into; the last one takes what is left. -/
def shares (separators : List Char) : List String → List (Char × Bool) → List (String × String)
  | [], _ => []
  | [name], line =>
    let kept := (line.reverse.dropWhile (isGap separators)).reverse
    [(name, String.ofList (kept.map (·.1)))]
  | name :: names, line =>
    let (field, rest) := firstField separators line
    (name, String.ofList (field.map (·.1))) :: shares separators names rest

/-- Reads a line into variables. -/
def readLine (r : Run) (arguments : Arguments) : Run :=
  let raw := arguments.contains ['-', 'r']
  let names := (arguments.filter fun a => a != ['-', 'r']).map String.ofList
  if names.isEmpty then (r.warn "read: arg count").withStatus 2
  else
    let r := r.waitUntil r.inputTime
    let (line, rest, ended) := lineFrom raw (Utf8.decodeLenient r.input)
    let values := shares r.separators names (line.dropWhile (isGap r.separators))
    let after := values.foldl (fun r (name, value) => assign r name value)
      { r with input := Utf8.encode (String.ofList rest) }
    after.withStatus (if ended then 0 else 1)

/-! ## Directories and names -/

/-- Goes to another directory. -/
def changeDirectory (r : Run) (arguments : Arguments) : Run :=
  let arguments := arguments.filter fun a => a != ['-', 'P'] && a != ['-', 'L'] && a != ['-', '-']
  let (target, shown) := match arguments with
    | [] => ((r.value? "HOME").getD "", false)
    | ['-'] :: _ => ((r.value? "OLDPWD").getD r.directory, true)
    | target :: _ => (String.ofList target, false)
  if target.isEmpty then r.withStatus 0
  else if r.kind? target = some .directory then
    let place := Host.ofParts (Host.parts (Host.place r.directory target))
    let moved := (({ r with directory := place }.assign "OLDPWD" r.directory).assign "PWD" place)
    let moved := (moved.publish "OLDPWD").publish "PWD"
    if shown then Program.answer moved (Utf8.encode place ++ [10]) else moved.withStatus 0
  else (r.warn ("cd: can't cd to " ++ target)).withStatus 2

/-- The path of the program that a name stands for. -/
def pathOf? (r : Run) (name : String) : Option String :=
  if name.toList.contains '/' then
    match r.kind? name with
    | some (.program _) => some name
    | _ => none
  else
    let search := (r.value? "PATH").getD ""
    ((splitAt ':' search.toList).map fun d => String.ofList d ++ "/" ++ name).find? fun path =>
      match r.kind? path with
      | some (.program _) => true
      | _ => false

/-- What a name stands for as a command: how it is shown in short and at length. -/
def meaning? (r : Run) (name : String) : Option (String × String) :=
  if Script.keywords.contains name then some (name, name ++ " is a shell keyword")
  else if Script.special.contains name then some (name, name ++ " is a special shell builtin")
  else if r.functions.any (·.1 == name) then some (name, name ++ " is a shell function")
  else if ordinary.contains name then some (name, name ++ " is a shell builtin")
  else (pathOf? r name).map fun path => (path, name ++ " is " ++ path)

/-- Says what names stand for. -/
def describe (r : Run) (short : Bool) (names : Arguments) : Run :=
  names.foldl (fun r name =>
    match meaning? r (String.ofList name) with
    | some (brief, long) => r.write 1 (Utf8.encode (if short then brief else long) ++ [10])
    | none =>
      let answer := Utf8.encode (String.ofList name ++ ": not found") ++ [10]
      (if short then r else r.write 1 answer).withStatus 127) (r.withStatus 0)

/-! ## Commands -/

/-- The number that an argument gives, or else a fault that ends the process. -/
def numberOr (r : Run) (caller : String) (arguments : Arguments) (standard : Nat) (act : Nat → Run) :
    Run :=
  match arguments with
  | [] => act standard
  | a :: _ =>
    match Output.number? a with
    | some n => act n
    | none => r.abort (caller ++ ": Illegal number: " ++ String.ofList a)

/-- A process after a command that the shell carries out itself and that carries out no other one. -/
def builtin? (r : Run) (name : String) (arguments : Arguments) : Option Run :=
  let own (r : Run) (message : String) : Run := r.warn (name ++ ": " ++ message)
  match name with
  | ":" | "true" | "hash" | "ulimit" | "times" => some (r.withStatus 0)
  | "false" => some (r.withStatus 1)
  | "echo" => some (Program.answer r (Output.scriptEcho arguments))
  | "printf" => some (Program.printed r own arguments)
  | "test" | "[" => some (Program.tested r own name arguments)
  | "pwd" => some (Program.answer r (Utf8.encode r.directory ++ [10]))
  | "umask" => some (if arguments.isEmpty then Program.answer r (Utf8.encode "0022\n") else r.withStatus 0)
  | "cd" => some (changeDirectory r arguments)
  | "read" => some (readLine r arguments)
  | "kill" => some (kill r arguments)
  | "trap" => some (trap r arguments)
  | "type" => some (describe r false arguments)
  | "wait" => some ((r.waitUntil r.lingering).withStatus (if arguments.isEmpty then 0 else 127))
  | "export" => some (forNames r name (fun r name => r.publish name) arguments)
  | "readonly" =>
    some (forNames r name (fun r name => { r with readOnly := name :: r.readOnly }) arguments)
  | "local" =>
    if r.depth = 0 then some ((own r "not in a function").exit 2)
    else some (forNames r name (fun r _ => r) arguments)
  | "unset" =>
    let names := arguments.filter fun a => a != ['-', 'v']
    if names.head? = some ['-', 'f'] then
      let gone := names.tail.map String.ofList
      some { r with functions := r.functions.filter fun f => !gone.contains f.1, status := 0 }
    else some (forNames r name (fun r name => r.unset name) names)
  | "set" => some (setUpTo (arguments.length + 1) (r.withStatus 0) arguments)
  | "shift" => some <| numberOr r name arguments 1 fun n =>
      if n > r.arguments.length then r.abort "shift: can't shift that many"
      else { r with arguments := r.arguments.drop n, status := 0 }
  | "exit" => some <| numberOr r name arguments r.status fun n => r.exit (n % 256)
  | "return" => some <| numberOr r name arguments r.status fun n =>
      { r with status := n % 256, jump := some .back }
  | "break" => some <| numberOr r name arguments 1 fun n =>
      if r.loops = 0 then r.withStatus 0
      else { r with status := 0, jump := some (.leave (min n r.loops) false) }
  | "continue" => some <| numberOr r name arguments 1 fun n =>
      if r.loops = 0 then r.withStatus 0
      else { r with status := 0, jump := some (.leave (min n r.loops) true) }
  | _ => none

end IntentSpec.Shell
