import IntentSpec.Cli.Reading

/-!
# What can be asked of the program

The program validates a specification, verifies it, runs a command on it, or shows its configuration.

A call is read twice: first up to the word for what is asked, and then, with the options and operands of that
word, to its end.  What neither reading takes is reported together, in the name of the whole program.  An
option that several invocations share is listed once, and every invocation that takes it is described by the
lists that it is made of, so that they cannot drift apart.

A command that is to be run takes all words that are left, its own options among them, so that nothing in it
is taken for an option of the program.

## Main definitions

* `Cli.Common`, `Cli.Reporting`, `Cli.Selection` — what several invocations share, and which checks are meant.
* `Cli.Invocation` — what is asked.
* `Cli.Invocation.all` — the words for it, and what a call with each of them takes.
* `Cli.Invocation.read` — reading a call.
-/

namespace IntentSpec.Cli

/-- What every invocation may choose. -/
structure Common where
  config : Option String := none
  /-- The least serious level that is logged. -/
  logLevel : Option String := none
  logFormat : Option String := none
deriving DecidableEq, Repr

/-- How the result of an invocation is reported. -/
structure Reporting where
  out : Option String := none
  /-- Whether the receipt itself is printed, and not where it is. -/
  json : Bool := false
  summary : Bool := false
deriving DecidableEq, Repr

/-- Which checks a verification carries out, and how. -/
structure Selection where
  /-- The beginnings of the identifiers of the validations. -/
  beginnings : List String := []
  /-- The identifiers of the validations, between commas. -/
  ids : Option String := none
  /-- How many checks are carried out at once. -/
  maxConcurrency : Option Int := none
deriving DecidableEq, Repr

/-- What is asked. -/
inductive Invocation where
  | validate (common : Common) (reporting : Reporting) (spec : String)
  /-- Whether what a specification says holds. -/
  | verify (common : Common) (reporting : Reporting) (selection : Selection) (spec : String)
  /-- That a command is run on a valid specification. -/
  | run (common : Common) (spec : String) (command : List String)
  | config (common : Common)
deriving DecidableEq, Repr

namespace Invocation

/-- The option that asks for help. -/
def helpOption : OptionRule := ⟨["-h", "--help"], .help⟩

/-- The options of every invocation. -/
def commonOptions : List OptionRule :=
  [helpOption, ⟨["--config"], .text⟩, ⟨["--log-level"], .text⟩,
   ⟨["--log-format"], .choice ["console", "json"]⟩]

/-- The options about the report. -/
def reportingOptions : List OptionRule :=
  [⟨["--out"], .text⟩, ⟨["--json"], .nothing⟩, ⟨["--summary"], .nothing⟩]

/-- The options that select checks. -/
def selectionOptions : List OptionRule :=
  [⟨["--only-check-prefix"], .text⟩, ⟨["--only-check-ids"], .text⟩, ⟨["--max-concurrency"], .integer⟩]

/-- The operand that names a specification. -/
def specOperand : Operand := { name := "spec_path" }

/-- The operand that is a command. -/
def commandOperand : Operand := ⟨"command_argv", .rest⟩

/-- What the program takes before it is known what is asked. -/
def grammar : Grammar := ⟨"dil", [helpOption], [⟨"command", .subcommand⟩]⟩

/-- The options that all invocations share. -/
def commonOf (r : Reading) : Common :=
  ⟨r.text? "--config", r.text? "--log-level", r.text? "--log-format"⟩

/-- The options about the report. -/
def reportingOf (r : Reading) : Reporting := ⟨r.text? "--out", r.has "--json", r.has "--summary"⟩

/-- The options that select checks. -/
def selectionOf (r : Reading) : Selection :=
  ⟨r.texts "--only-check-prefix", r.text? "--only-check-ids", r.integer? "--max-concurrency"⟩

/-- The specification that is named. -/
def specOf (r : Reading) : String := (r.text? specOperand.name).getD ""

/-- What can be asked, by the word for it: what the call then takes, and what it asks. -/
def all : List (String × Grammar × (Reading → Invocation)) :=
  [("validate", ⟨"dil validate", commonOptions ++ reportingOptions, [specOperand]⟩,
      fun r => validate (commonOf r) (reportingOf r) (specOf r)),
   ("verify", ⟨"dil verify", commonOptions ++ reportingOptions ++ selectionOptions, [specOperand]⟩,
      fun r => verify (commonOf r) (reportingOf r) (selectionOf r) (specOf r)),
   ("run", ⟨"dil run", commonOptions, [specOperand, commandOperand]⟩,
      fun r => run (commonOf r) (specOf r) (r.words commandOperand.name)),
   ("config", ⟨"dil config", commonOptions, []⟩, fun r => config (commonOf r))]

/-- Reads a call. -/
def read (words : List String) : Except Stop Invocation := do
  let outer ← grammar.read words
  let called := outer.words "command"
  let name := called.headD ""
  match all.lookup name with
  | none => .error (.usage grammar.program (.notChoice "command" name (all.map (·.1))))
  | some (inner, asked) =>
    let r ← inner.read called.tail
    let surplus := outer.surplus ++ r.surplus
    if surplus.isEmpty then return asked r
    else .error (.usage grammar.program (.unrecognized surplus))

end Invocation

end IntentSpec.Cli
