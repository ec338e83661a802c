import IntentSpec.Process.Shell.Command

/-!
# Carrying out scripts

What commands are put together to is carried out by `Shell.run`, which counts how deep commands stand in
commands and how often a loop goes round; the definitions before it take what carries out inner commands
as an argument.

## Main definitions

* `Shell.apart`, `Shell.pipeline`, `Shell.background` — processes side by side.
* `Shell.loop`, `Shell.each`, `Shell.chosen` — loops and cases.
* `Shell.run` — carrying out a script.
-/

namespace IntentSpec.Shell

open Text Script

/-! ## Processes side by side -/

/-- Carries out commands in a process of their own, or in this one if nothing follows. -/
def apart (carry : Carry) (position : Position) (body : Script) (r : Run) : Run :=
  let after := conclude carry (carry { position with last := true } body r.child)
  let r := r.afterChild after
  if position.last then
    match after.jump with
    | some (.ended (.signal n)) => r.finish (.signal n)
    | _ => r
  else r.noteSignal after

/-- The commands of a pipeline. -/
def stagesOf : Script → List Script
  | .pipe first second => first :: stagesOf second
  | s => [s]

/-- Carries out the commands of a pipeline, each in a process of its own that begins at the same time and
reads what the one before it writes.  One that goes on for ever is stopped when nothing reads it any
more. -/
def pipeline (carry : Carry) (before : Run) : Bool → Run → List Script → Run
  | _, r, [] => r
  | endless, r, [stage] =>
    let after := conclude carry (carry { last := true } stage { r.child with clock := before.clock })
    let done := (before.afterChild { after with
      clock := max r.clock after.clock, input := before.input
      inputTime := before.inputTime }).noteSignal after
    if endless && after.input.isEmpty then done.finish .endless else done
  | _, r, stage :: rest =>
    let n := r.streams.length
    let child := { r.child with clock := before.clock, streams := r.streams ++ [[]] }.pointTo 1 (.stream n)
    let after := conclude carry (carry { last := true } stage child)
    let endless := after.jump == some (.ended .endless)
    let noted := { r with streams := after.streams.take n, sent := after.sent }.noteSignal after
    pipeline carry before endless { noted with
      files := after.files, lingering := after.lingering
      clock := max r.clock after.clock, input := after.written n
      inputTime := if endless then before.clock else after.clock } rest

/-- Whether the outputs of a command lead elsewhere by its own redirections. -/
def isSilent (redirections : List Redirection) : Bool :=
  [1, 2].all fun n => redirections.any fun
    | .target descriptor _ _ => descriptor == n
    | .lines .. => false

/-- The redirections of a command. -/
def redirectionsOf : Script → List Redirection
  | .simple _ _ _ redirections | .redirected _ redirections => redirections
  | _ => []

/-- How long a process that does not end is taken to go on writing. -/
def forever : Nat := 1000000000

/-- Carries out commands that are not waited for. -/
def background (carry : Carry) (body : Script) (r : Run) : Run :=
  let child := { r.child with input := [] }
  let after := conclude carry (carry { last := true } body child)
  let last := match after.jump with
    | some (.ended .endless) => after.clock + forever
    | _ => after.clock
  { r with
    streams := after.streams, files := after.files, sent := after.sent, status := 0
    lingering := if isSilent (redirectionsOf body) then r.lingering else max r.lingering last }

/-! ## Loops -/

/-- What comes after a round of a loop: whether another round may follow. -/
def afterRound (r : Run) : Run × Bool :=
  match r.jump with
  | none => (r, true)
  | some (.leave levels again) =>
    if levels ≤ 1 then ({ r with jump := none }, again)
    else ({ r with jump := some (.leave (levels - 1) again) }, false)
  | some _ => (r, false)

/-- Carries out commands as long as a condition holds, or until it holds, a number of times at most;
`status` is that of the last round. -/
def loop (carry : Carry) (position : Position) (untilHeld : Bool) (condition body : Script) :
    Nat → Nat → Run → Run
  | 0, _, r => r.finish .endless
  | fuel + 1, status, r =>
    match afterRound (carry .condition condition r) with
    | (r, false) => r
    | (r, true) =>
      if (r.status == 0) == untilHeld then r.withStatus status
      else
        match afterRound (carry position.inner body r) with
        | (r, true) => loop carry position untilHeld condition body fuel r.status r
        | (r, false) => r

/-- Carries out commands for each of several values of a variable. -/
def each (carry : Carry) (position : Position) (name : String) (body : Script) :
    List (List Char) → Run → Run
  | [], r => r
  | value :: values, r =>
    match afterRound (carry position.inner body (assign r name (String.ofList value))) with
    | (r, true) => each carry position name body values r
    | (r, false) => r

/-- The commands of the first case of which a pattern fits a text, and the process after the patterns have
been looked at. -/
def chosen (carry : Carry) (text : List Char) : List (List Word × Script) → Run → Run × Option Script
  | [], r => (r, none)
  | (words, body) :: cases, r =>
    let (r, found) := words.foldl (fun (r, found) w =>
      if found then (r, true)
      else
        let (r, p) := Shell.pattern (output carry) w r
        (r, p.fits text)) (r, false)
    if found then (r, some body) else chosen carry text cases r

/-! ## Scripts -/

/-- Succeeds if there is nothing to carry out. -/
def withoutBody (body : Script) (r : Run) : Run :=
  match body with
  | .nothing => r.withStatus 0
  | _ => r

/-- Carries out a script; `fuel` bounds how deep commands stand in commands and how often a loop goes
round. -/
def run : Nat → Carry
  | 0, _, _, r => r.finish .endless
  | fuel + 1, position, script, r =>
    let carry : Carry := run fuel
    if r.jump.isSome then r
    else
      match script with
      | .nothing => r
      | .simple line assignments words redirections =>
        check position (settle carry (simple carry position line assignments words redirections r))
      | .redirected body redirections =>
        match redirect carry redirections r with
        | (_, some message) => (r.warn message).withStatus 2
        | (directed, none) => restore redirections r (carry position.inner body directed)
      | .pipe .. => check position (settle carry (pipeline carry r false r (stagesOf script)))
      | .not body =>
        let r := carry .condition body r
        r.withStatus (if r.status = 0 then 1 else 0)
      | .both first second =>
        let r := carry .condition first r
        if r.status = 0 then carry position second r else r
      | .either first second =>
        let r := carry .condition first r
        if r.status = 0 then r else carry position second r
      | .sequence first second => carry position second (carry position.inner first r)
      | .background body => settle carry (background carry body r)
      | .apart body => check position (settle carry (apart carry position body r))
      | .branch condition positive negative =>
        let r := carry .condition condition r
        if r.jump.isSome then r
        else if r.status = 0 then carry position positive r
        else carry position negative (withoutBody negative r)
      | .loop untilHeld condition body =>
        let after := loop carry position untilHeld condition body fuel 0 { r with loops := r.loops + 1 }
        { after with loops := r.loops }
      | .each line name words body =>
        let (r, values) := match words with
          | some words => fields (output carry) words { r with line }
          | none => (r, r.arguments.map String.toList)
        if r.jump.isSome then r
        else
          let begun := if values.isEmpty then r.withStatus 0 else r
          let after := each carry position name body values { begun with loops := r.loops + 1 }
          { after with loops := r.loops }
      | .choice line word cases =>
        let (r, text) := Shell.text (output carry) word { r with line }
        if r.jump.isSome then r
        else
          match chosen carry text cases r with
          | (r, some body) => carry position body (withoutBody body r)
          | (r, none) => r.withStatus 0
      | .define name body =>
        { r with functions := (name, body) :: r.functions.filter (·.1 != name), status := 0 }

/-- How deep commands stand in commands, and how often a loop goes round, at most. -/
def bound : Nat := 20000

end IntentSpec.Shell
