import IntentSpec.Process.Condition

/-!
# Programs

A program reads what its arguments name or what reaches it, writes, and ends with a status.

## Main definitions

* `Program.inputs` — what the files that are named hold, or else what reaches the process.
* `Program.sleepTime?` — how long a process is to sleep.
* `Program.run?` — a process after a program that starts no other one.
-/

namespace IntentSpec.Program

open Text

/-- The arguments of a program. -/
abbrev Arguments := List (List Char)

/-- Writes bytes to the standard output and succeeds. -/
def answer (r : Run) (b : List UInt8) : Run := (r.write 1 b).withStatus 0

/-- Writes a line to the error output and fails with a status. -/
def refuse (r : Run) (status : Nat) (line : String) : Run := (r.complain line).withStatus status

/-- What the files that are named hold, or else what reaches the process.  The status tells whether each
of them could be read, and a message is written for every one that could not. -/
def inputs (r : Run) (files : Arguments) (complaint : String → String → String) : List UInt8 × Run :=
  if files.isEmpty then
    let (b, r) := r.takeInput
    (b, r.withStatus 0)
  else
    files.foldl (fun (b, r) file =>
      let path := String.ofList file
      if path = "-" then
        let (more, r) := r.takeInput
        (b ++ more, r)
      else
        match r.kind? path with
        | none => (b, refuse r 1 (complaint path (Errno.wording Errno.noEntry)))
        | some .directory => (b, refuse r 1 (complaint path (Errno.wording Errno.isDirectory)))
        | some _ => (b ++ r.read path, r)) ([], r.withStatus 0)

/-- A program that writes what a function makes of its input. -/
def filtered (r : Run) (f : List UInt8 → Option (List UInt8)) : Option Run :=
  let (input, r) := r.takeInput
  (f input).map fun b => answer r b

/-! ## Sleeping -/

/-- The lengths of units of time in milliseconds. -/
def units : List (Char × Nat) := [('s', 1000), ('m', 60000), ('h', 3600000), ('d', 86400000)]

/-- How long to sleep, in milliseconds. -/
def sleepTime? (s : List Char) : Option Nat := do
  let (digits, unit) ← match s.getLast? with
    | none => none
    | some c =>
      match units.lookup c with
      | some n => some (s.dropLast, n)
      | none => some (s, 1000)
  match cutFirst? '.' digits with
  | none => (Output.number? digits).map (unit * ·)
  | some (whole, part) =>
    let n ← if whole.isEmpty then some 0 else Output.number? whole
    let m ← Output.number? ((part ++ ['0', '0', '0']).take 3)
    return unit * n + unit * m / 1000

/-- Sleeps as long as all arguments say. -/
def sleep (r : Run) (arguments : Arguments) : Run :=
  let refused (why : String) : Run :=
    refuse (r.complain ("sleep: " ++ why)) 1 "Try 'sleep --help' for more information."
  match arguments.find? fun a => (sleepTime? a).isNone with
  | some a => refused ("invalid time interval '" ++ String.ofList a ++ "'")
  | none =>
    if arguments.isEmpty then refused "missing operand"
    else r.sleep ((arguments.filterMap sleepTime?).foldl (· + ·) 0)

/-! ## Texts -/

/-- The last part of a path, without an ending if it has one before it. -/
def baseName (path ending : List Char) : List Char :=
  let trimmed := (path.reverse.dropWhile (· == '/')).reverse
  if trimmed.isEmpty then (if path.isEmpty then [] else ['/'])
  else
    let name := (trimmed.reverse.takeWhile (· != '/')).reverse
    if ending.isSuffixOf name && name != ending then name.take (name.length - ending.length) else name

/-- The path without its last part. -/
def directoryName (path : List Char) : List Char :=
  let trimmed := path.reverse.dropWhile (· == '/')
  if trimmed.isEmpty then (if path.isEmpty then ['.'] else ['/'])
  else
    let rest := trimmed.dropWhile (· != '/')
    if rest.isEmpty then ['.']
    else
      let front := rest.dropWhile (· == '/')
      if front.isEmpty then ['/'] else front.reverse

/-- The value of an expression of a few words, and the status that goes with it. -/
def expression? (words : List String) : Option String :=
  let number? (s : String) : Option Int := Filter.integer? s.toList
  let truth (b : Bool) : Option String := some (if b then "1" else "0")
  let both (a b : String) (numbers : Int → Int → Bool) (texts : String → String → Bool) :
      Option String :=
    match number? a, number? b with
    | some m, some n => truth (numbers m n)
    | _, _ => truth (texts a b)
  match words with
  | [a] => some a
  | ["length", a] => some (toString a.length)
  | [a, operator, b] =>
    match operator with
    | "=" => both a b (· == ·) (· == ·)
    | "!=" => both a b (· != ·) (· != ·)
    | "<" => both a b (· < ·) (· < ·)
    | "<=" => both a b (· ≤ ·) fun a b => !(b < a)
    | ">" => both a b (fun m n => n < m) fun a b => b < a
    | ">=" => both a b (fun m n => n ≤ m) fun a b => !(a < b)
    | _ => do
      let m ← number? a
      let n ← number? b
      match operator with
      | "+" => some (toString (m + n))
      | "-" => some (toString (m - n))
      | "*" => some (toString (m * n))
      | "/" => if n = 0 then none else some (toString (m.tdiv n))
      | "%" => if n = 0 then none else some (toString (m.tmod n))
      | _ => none
  | _ => none

/-! ## Carrying out -/

/-- The lines that show variables. -/
def shownVariables (values : List (String × String)) : List UInt8 :=
  values.flatMap fun (name, value) => Utf8.encode (name ++ "=" ++ value) ++ [10]

/-- Writes a text under a format, and what is wrong with it in front of `caller`. -/
def printed (r : Run) (complain : Run → String → Run) (arguments : Arguments) : Run :=
  let arguments := if arguments.head? = some ['-', '-'] then arguments.tail else arguments
  match arguments with
  | [] => (complain r "usage: printf format [arg ...]").withStatus 2
  | pattern :: arguments =>
    let f := Output.formatted pattern arguments
    let r := f.faults.foldl (fun r fault => complain r fault.message) (r.write 1 f.bytes)
    r.withStatus (if f.faults.any (·.isFatal) then 2 else if f.faults.isEmpty then 0 else 1)

/-- Tells whether a condition holds by the status. -/
def tested (r : Run) (complain : Run → String → Run) (name : String) (arguments : Arguments) : Run :=
  match Condition.ofCommand r name (arguments.map String.ofList) with
  | .ok true => r.withStatus 0
  | .ok false => r.withStatus 1
  | .error fault => (complain r fault.message).withStatus 2

/-- Writes the beginning of the input or of a file. -/
def head (r : Run) (arguments : Arguments) : Option Run := do
  let (selection, files) ← Filter.selection? arguments
  if files.isEmpty then
    let n := selection.length r.input
    let after := r.waitUntil r.inputTime
    return answer { after with input := r.input.drop n } (r.input.take n)
  else
    let (b, r) := inputs r files fun path why => "head: cannot open '" ++ path ++ "' for reading: " ++ why
    let n := if files = ["/dev/zero".toList] && selection.inBytes then selection.count else 0
    let b := if n > b.length then List.replicate n 0 else b.take (selection.length b)
    return (r.write 1 b)

/-- A process after a program of a name that starts no other one, if the program is known and takes the
arguments. -/
def run? (r : Run) (name : String) (arguments : Arguments) : Option Run :=
  let own (r : Run) (message : String) : Run := r.complain (name ++ ": " ++ message)
  match name with
  | "true" => some (r.withStatus 0)
  | "false" => some (r.withStatus 1)
  | "echo" => some (answer r (Output.echo arguments))
  | "printf" => some (printed r own arguments)
  | "test" | "[" => some (tested r own name arguments)
  | "pwd" => some (answer r (Utf8.encode (Host.ofParts (Host.parts r.directory)) ++ [10]))
  | "sleep" => some (sleep r arguments)
  | "yes" =>
    let line := Output.joined false false (if arguments.isEmpty then [['y']] else arguments)
    some ((r.write 1 (List.replicate 262144 line).flatten).finish .endless)
  | "env" => if arguments.isEmpty then some (answer r (shownVariables r.environment)) else none
  | "printenv" =>
    if arguments.isEmpty then some (answer r (shownVariables r.environment))
    else
      let values := arguments.map fun a => r.environment.lookup (String.ofList a)
      let after := answer r (values.flatMap fun v => v.elim [] fun v => Utf8.encode v ++ [10])
      some (after.withStatus (if values.all Option.isSome then 0 else 1))
  | "cat" =>
    let (b, r) := inputs r arguments fun path why => "cat: " ++ path ++ ": " ++ why
    some (r.write 1 b)
  | "tee" =>
    let (b, r) := r.takeInput
    let opened := arguments.foldl (fun (r : Run) file =>
      ((r.openToWrite 3 (String.ofList file) false).toOption.getD r).write 3 b) r
    some (answer { opened with sinks := r.sinks } b)
  | "head" => head r arguments
  | "tail" => do
    let (selection, files) ← Filter.selection? arguments
    let (b, r) := inputs r files fun path why => "tail: cannot open '" ++ path ++ "' for reading: " ++ why
    return r.write 1 (selection.ending b)
  | "tr" => filtered r (Filter.exchange? arguments)
  | "wc" => filtered r (Filter.count? arguments)
  | "sort" => filtered r (Filter.sort? arguments)
  | "uniq" => filtered r (Filter.unique? arguments)
  | "rev" => filtered r fun b => if arguments.isEmpty then some (Filter.reversedLines b) else none
  | "tac" => filtered r fun b => if arguments.isEmpty then some (Filter.fromLast b) else none
  | "seq" => (Filter.sequence? arguments).map (answer r)
  | "basename" =>
    match arguments with
    | [path] => some (answer r (Output.bytes (baseName path []) ++ [10]))
    | [path, ending] => some (answer r (Output.bytes (baseName path ending) ++ [10]))
    | _ => none
  | "dirname" =>
    some (answer r (arguments.flatMap fun path => Output.bytes (directoryName path) ++ [10]))
  | "expr" => (expression? (arguments.map String.ofList)).map fun value =>
    (answer r (Utf8.encode value ++ [10])).withStatus (if value = "0" ∨ value.isEmpty then 1 else 0)
  | _ => none

end IntentSpec.Program
