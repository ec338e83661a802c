import IntentSpec.Process.Shell.Basic

/-!
# Carrying out commands

A command is one of the shell, a function, or a program that runs in a process of its own.

## Main definitions

* `Shell.start`, `Shell.program` — a new shell, and any program.
* `Shell.launch`, `Shell.replace` — a program in a process of its own, and in the place of the shell.
* `Shell.call` — a command whose words are known.
* `Shell.simple` — a command with its variables and redirections.
-/

namespace IntentSpec.Shell

open Text Script

/-! ## Programs -/

/-- A new shell with arguments: it carries out the script that one of them is or names, or what it
reads. -/
def start (carry : Carry) (r : Run) (called : String) (arguments : Arguments) : Run :=
  let values := r.environment.filter fun v => isName v.1.toList
  let fresh : Run :=
    { host := r.host, values, exported := values.map (·.1), name := called
      directory := r.directory, traps := r.traps.filter fun trap => trap.2.isEmpty
      input := r.input, inputTime := r.inputTime, sinks := r.sinks, streams := r.streams
      files := r.files, clock := r.clock, deadline := r.deadline, lingering := r.lingering }
  let fresh := (fresh.assign "PWD" (Host.ofParts (Host.parts r.directory))).publish "PWD"
  let words := arguments.takeWhile fun a => a.head? == some '-' && a.length > 1 && a != ['-', '-']
  let rest := arguments.drop words.length
  let rest := if rest.head? = some ['-', '-'] then rest.tail else rest
  let letters := words.flatMap (·.drop 1)
  let refuse (message : String) : Run :=
    (fresh.complain (called ++ ": 0: " ++ message)).exit 2
  match letters.find? fun c => c != 'c' && !setUpTo.letters.contains c with
  | some c => refuse ("Illegal option -" ++ String.ofList [c])
  | none =>
    let fresh := { fresh with options := letters.filter (· != 'c') }
    if letters.contains 'c' then
      match rest with
      | [] => refuse "-c requires an argument"
      | text :: rest =>
        let named := match rest with
          | [] => fresh
          | name :: arguments =>
            { fresh with name := String.ofList name, arguments := arguments.map String.ofList }
        conclude carry (lines carry {} text named)
    else
      match rest with
      | [] =>
        let (b, fresh) := fresh.takeInput
        conclude carry (lines carry {} (Utf8.decodeLenient b) fresh)
      | path :: rest =>
        match r.content? (Host.ofParts (Host.parts (Host.place r.directory (String.ofList path)))) with
        | none => refuse ("cannot open " ++ String.ofList path ++ ": No such file")
        | some b =>
          conclude carry (lines carry {} (Utf8.decodeLenient b)
            { fresh with name := String.ofList path, arguments := rest.map String.ofList })

/-- A process after a program, which may start another one with other variables; `depth` bounds how
often. -/
def programUpTo (carry : Carry) : Nat → Run → String → String → Arguments → Run
  | 0, r, _, _, _ => r.withStatus 1
  | depth + 1, r, called, name, arguments =>
    if name = "sh" ∨ name = "dash" then start carry r called arguments
    else
      match name, arguments with
      | "env", ['-', 'i'] :: rest => programUpTo carry depth { r with exported := [] } called name rest
      | "env", ['-', 'u'] :: gone :: rest =>
        programUpTo carry depth (r.unset (String.ofList gone)) called name rest
      | "env", word :: rest =>
        match cutFirst? '=' word with
        | some (key, value) =>
          let key := String.ofList key
          programUpTo carry depth ((r.assign key (String.ofList value)).publish key) called name rest
        | none =>
          let other := String.ofList word
          match r.host.locate r.environment r.directory other with
          | .ok found => programUpTo carry depth r other found rest
          | .error code =>
            (r.complain ("env: '" ++ other ++ "': " ++ Errno.wording code)).withStatus
              (if code = Errno.noEntry then 127 else 126)
      | _, _ => (Program.run? r name arguments).getD (r.withStatus 1)

/-- A process after a program. -/
def program (carry : Carry) (r : Run) (called name : String) (arguments : Arguments) : Run :=
  programUpTo carry (arguments.length + 2) r called name arguments

/-- The error numbers of programs that are not there. -/
def absent : List Int := [Errno.noEntry, Errno.notDirectory, Errno.nameTooLong]

/-- How an error number is worded when a program is not started. -/
def startWording (code : Int) : String :=
  if code = Errno.noEntry ∨ code = Errno.notDirectory then "not found" else Errno.wording code

/-- Carries out a program in a process of its own whose time is over at a moment, or in the place of this
one if nothing follows. -/
def launch (carry : Carry) (position : Position) (deadline : Option Nat) (r : Run) (called : String)
    (arguments : Arguments) : Run :=
  let search := [("PATH", (r.value? "PATH").getD "/usr/local/bin:/usr/bin:/bin")]
  match r.host.locate search r.directory called with
  | .error code =>
    let isAbsent : Bool := absent.contains code || !called.toList.contains '/'
    (r.warn (called ++ ": " ++ startWording code)).withStatus (if isAbsent then 127 else 126)
  | .ok name =>
    let handed := r.handedOn
    let child := { r.child with values := handed, exported := handed.map (·.1), deadline }
    let after := program carry child called name arguments
    let r := r.afterChild after
    if position.last && r.traps.isEmpty then
      match after.jump with
      | some (.ended (.signal n)) => r.finish (.signal n)
      | _ => r
    else r.noteSignal after

/-- Carries out a program in the place of the process. -/
def replace (carry : Carry) (r : Run) (called : String) (arguments : Arguments) : Run :=
  let search := [("PATH", (r.value? "PATH").getD "/usr/local/bin:/usr/bin:/bin")]
  match r.host.locate search r.directory called with
  | .error code =>
    let r := r.warn ("exec: " ++ called ++ ": " ++ startWording code)
    r.exit (if absent.contains code then 127 else 126)
  | .ok _ =>
    let r := launch carry { last := true } r.deadline { r with traps := [] } called arguments
    if r.jump.isSome then r else r.exit r.status

/-! ## Commands -/

/-- Carries out a function. -/
def function (carry : Carry) (position : Position) (body : Script) (arguments : Arguments) (r : Run) :
    Run :=
  let after := carry position.inner body
    { r with arguments := arguments.map String.ofList, loops := 0, depth := r.depth + 1 }
  { after with
    arguments := r.arguments, loops := r.loops, depth := r.depth
    jump := if after.jump = some .back then none else after.jump }

/-- Carries out a command of which the words are known; `functions` says whether it may be a function. -/
def call (carry : Carry) (position : Position) (functions : Bool) (r : Run) (name : String)
    (arguments : Arguments) : Run :=
  match if functions && !special.contains name then r.functions.lookup name else none with
  | some body => function carry position body arguments r
  | none =>
    match name, arguments with
    | "eval", _ =>
      if arguments.isEmpty then r.withStatus 0
      else lines carry position.inner ([' '].intercalate arguments) r
    | "exec", [] => r.withStatus 0
    | "exec", other :: arguments => replace carry r (String.ofList other) arguments
    | ".", path :: _ =>
      match r.openToRead (String.ofList path) with
      | .error message => r.abort (".: " ++ message)
      | .ok opened => lines carry position.inner (Utf8.decodeLenient opened.input) (r.withStatus 0)
    | _, _ => (builtin? r name arguments).getD (launch carry position none r name arguments)

/-- The words of a command after those that keep functions out, and whether functions are left in. -/
def withoutDetour : String → Arguments → Bool × String × Arguments
  | "command", word :: arguments =>
    if word.head? = some '-' then (true, "command", word :: arguments)
    else
      let (_, name, arguments) := go arguments.length (String.ofList word) arguments
      (false, name, arguments)
  | name, arguments => (true, name, arguments)
where
  /-- Skips further words that keep functions out. -/
  go : Nat → String → Arguments → Bool × String × Arguments
    | fuel + 1, "command", word :: arguments => go fuel (String.ofList word) arguments
    | _, name, arguments => (false, name, arguments)

/-- Sets variables one after the other to what words become. -/
def assignAll (carry : Carry) (assignments : List (String × Word)) (r : Run) : Run :=
  assignments.foldl (fun r (name, w) =>
    if r.jump.isSome then r
    else
      let (r, value) := Shell.text (output carry) w r
      if r.jump.isSome then r else assign r name (String.ofList value)) r

/-- Gives a variable that was set for a command the value back that it had before. -/
def giveBack (before after : Run) (assignment : String × Word) : Run :=
  let name := assignment.1
  match before.value? name with
  | none => after.unset name
  | some value =>
    let after := after.assign name value
    if before.exported.contains name then after
    else { after with exported := after.exported.filter (· != name) }

/-- Whether the output of a script is part of a word. -/
def hasOutput (w : Word) : Bool :=
  w.any fun
    | .output .. => true
    | _ => false

/-- Shows what is carried out if that is asked for. -/
def trace (assignments : List (String × Word)) (fields : List (List Char)) (before r : Run) : Run :=
  if before.options.contains 'x' then
    let set := assignments.map fun (name, _) => name ++ "=" ++ (r.value? name).getD ""
    before.complain ("+ " ++ " ".intercalate (set ++ fields.map String.ofList))
  else before

/-- Carries out what has no words: variables are set. -/
def settings (carry : Carry) (assignments : List (String × Word)) (redirections : List Redirection)
    (r : Run) : Run :=
  let (directed, trouble) := redirect carry redirections r
  match trouble with
  | some message => (r.warn message).withStatus 2
  | none =>
    let after := assignAll carry assignments directed
    let after := if assignments.isEmpty then after else trace assignments [] after after
    let after := restore redirections r after
    if after.jump.isSome || assignments.any (fun a => hasOutput a.2) then after else after.withStatus 0

/-- Carries out a command of words that are known, with its variables and redirections. -/
def named (carry : Carry) (position : Position) (assignments : List (String × Word))
    (redirections : List Redirection) (r : Run) (word : String) (arguments : Arguments) : Run :=
  let (functions, name, arguments) := withoutDetour word arguments
  let (directed, trouble) := redirect carry redirections r
  match trouble with
  | some message =>
    if functions && special.contains name then r.abort message else (r.warn message).withStatus 2
  | none =>
    if directed.jump.isSome then directed
    else
      let set := assignAll carry assignments directed
      if set.jump.isSome then set
      else
        let shown := trace assignments (name.toList :: arguments) r set
        let set := { set with streams := shown.streams }
        if functions && special.contains name then
          let after := call carry position functions set name arguments
          if name = "exec" ∧ arguments.isEmpty then after else restore redirections r after
        else if name = "command" then
          let short := arguments.head? == some ['-', 'v']
          restore redirections r (describe set short arguments.tail)
        else
          let seen := assignments.foldl (fun r (name, _) => r.publish name) set
          let after := call carry position functions seen name arguments
          assignments.foldl (giveBack r) (restore redirections r after)

/-- Carries out a command of words. -/
def simple (carry : Carry) (position : Position) (line : Nat) (assignments : List (String × Word))
    (words : List Word) (redirections : List Redirection) (r : Run) : Run :=
  let (r, found) := fields (output carry) words { r with line }
  if r.jump.isSome then r
  else
    match found with
    | [] => settings carry assignments redirections r
    | name :: arguments =>
      named carry position assignments redirections r (String.ofList name) arguments

/-- Ends the process after a failure that nothing depends on, if that is asked for. -/
def check (position : Position) (r : Run) : Run :=
  if r.options.contains 'e' && !position.tested && r.status != 0 && r.jump.isNone then r.exit r.status
  else r

end IntentSpec.Shell
