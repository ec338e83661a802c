import IntentSpec.Process.Shell.Builtin

/-!
# Carrying out texts

A script is carried out line by line.  Its commands are carried out by a function that is an argument
here, so that what a command needs can be said before commands themselves are.

## Main definitions

* `Shell.Position`, `Shell.Carry` — where a command stands, and what carries commands out.
* `Shell.lines`, `Shell.output` — carrying out the text of a script, and finding its output.
* `Shell.settle`, `Shell.conclude` — what signals and the end of a process ask for.
* `Shell.redirect`, `Shell.restore` — pointing descriptors elsewhere and back.
-/

namespace IntentSpec.Shell

open Text Script

/-- Where a command stands. -/
structure Position where
  /-- Whether something depends on its success. -/
  tested : Bool := false
  /-- Whether nothing follows it, so that a program may take the place of the process. -/
  last : Bool := false
deriving DecidableEq, Repr

/-- The position of a command whose success something depends on. -/
def Position.condition : Position := { tested := true }

/-- The position of an inner command after which something follows. -/
def Position.inner (p : Position) : Position := { p with last := false }

/-- What carries commands out. -/
abbrev Carry := Position → Script → Run → Run

/-! ## Scripts as texts -/

/-- Carries out lines one after the other, of which the last one may be the last command. -/
def linesFrom (carry : Carry) (position : Position) : List Script → Run → Run
  | [], r => r
  | [line], r => carry position line r
  | line :: more, r => linesFrom carry position more (carry position.inner line r)

/-- Carries out the text of a script up to a fault, which ends the process. -/
def lines (carry : Carry) (position : Position) (text : List Char) (r : Run) : Run :=
  let reading := Script.read text
  match reading.fault with
  | none => linesFrom carry position reading.lines r
  | some (line, fault) =>
    let r := linesFrom carry position.inner reading.lines r
    if r.jump.isSome then r else { r with line }.abort ("Syntax error: " ++ fault.message)

/-- Carries out what a signal has asked for, perhaps one that a part of the shell has sent. -/
def settle (carry : Carry) (r : Run) : Run :=
  let r := match r.sent, r.isPart, r.jump with
    | some signal, false, none => { raise { r with sent := none } signal with status := r.status }
    | _, _, _ => r
  match r.pending, r.jump with
  | some action, none =>
    let after := lines carry {} action.toList { r with pending := none }
    if after.jump.isSome then after else after.withStatus r.status
  | _, _ => r

/-- Ends a process: what is to be done at the end is carried out. -/
def conclude (carry : Carry) (r : Run) : Run :=
  let ends : Bool := match r.jump with
    | none | some (.ended (.exit _)) | some .back | some (.leave ..) => true
    | _ => false
  match r.traps.lookup "0", ends with
  | some action, true =>
    let traps := r.traps.filter (·.1 != "0")
    let after := lines carry {} action.toList { r with jump := none, traps }
    if after.jump.isSome then after else after.exit r.status
  | _, _ => r

/-- The output of a script without line feeds at its end, and the process after it. -/
def output (carry : Carry) (text : List Char) (r : Run) : Run × List Char :=
  let n := r.streams.length
  let child := { r.child with streams := r.streams ++ [[]] }.pointTo 1 (.stream n)
  let after := conclude carry (lines carry { last := true } text child)
  let shown := (Utf8.decodeLenient (after.written n)).filter (· != '\x00')
  ((r.afterChild { after with streams := after.streams.take n }).noteSignal after,
    (shown.reverse.dropWhile (· == '\n')).reverse)

/-! ## Redirections -/

/-- The characters that a backslash escapes in lines of a script that a command reads. -/
def escapableInLines : List Char := ['$', '\x60', '\\']

/-- Points a descriptor to where another one leads, or says what is wrong. -/
def duplicate (r : Run) (descriptor : Nat) (target : List Char) : Run × Option String :=
  if target = ['-'] then
    (if descriptor = 0 then { r with input := [] } else r.close descriptor, none)
  else
    match Output.number? target with
    | none => (r.abort "Syntax error: Bad fd number", none)
    | some n =>
      if n = 0 ∨ descriptor = 0 then (r, none)
      else
        match r.sinks.lookup n with
        | some sink => (r.pointTo descriptor sink, none)
        | none => (r, some (toString n ++ ": Bad file descriptor"))

/-- Points descriptors elsewhere one after the other, up to the first that cannot be. -/
def redirect (carry : Carry) (redirections : List Redirection) (r : Run) : Run × Option String :=
  redirections.foldl (fun (r, trouble) redirection =>
    if trouble.isSome || r.jump.isSome then (r, trouble)
    else
      match redirection with
      | .target descriptor direction w =>
        let (r, target) := Shell.text (output carry) w r
        let path := String.ofList target
        let opened (result : Except String Run) : Run × Option String :=
          match result with
          | .ok r => (r, none)
          | .error message => (r, some message)
        match direction with
        | .read => opened (r.openToRead path)
        | .write => opened (r.openToWrite descriptor path false)
        | .append => opened (r.openToWrite descriptor path true)
        | .duplicate => duplicate r descriptor target
      | .lines _ body replaced =>
        let (r, shown) :=
          if replaced then
            Shell.text (output carry) ((quotedWord escapableInLines body).toOption.getD []) r
          else (r, body)
        ({ r with input := Output.bytes shown, inputTime := r.clock }, none)) (r, none)

/-- Whether a redirection concerns what is read. -/
def readsElsewhere (redirections : List Redirection) : Bool :=
  redirections.any fun
    | .target descriptor _ _ | .lines descriptor _ _ => descriptor == 0

/-- The process after a command whose descriptors led elsewhere. -/
def restore (redirections : List Redirection) (before after : Run) : Run :=
  if readsElsewhere redirections then
    { after with sinks := before.sinks, input := before.input, inputTime := before.inputTime }
  else { after with sinks := before.sinks }

end IntentSpec.Shell
