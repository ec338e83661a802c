import IntentSpec.Datum.Export
import IntentSpec.Datum.Order
import IntentSpec.Datum.Shown
import IntentSpec.Log.Redact
import IntentSpec.Text.Case
import IntentSpec.Text.Character
import IntentSpec.Text.Printable

/-!
# Logged events

An event has a level, a text and named fields.  It is written if it is serious enough, with the secrets in
it masked.

## Main definitions

* `Log.Level` — how serious an event is.
* `Log.Format` — how events are written.
* `Log.Fault`, `Log.Fault.message` — why nothing can be logged.
* `Log.threshold` — the rank from which on events are written.
* `Log.Settings`, `Log.Settings.read` — what is written and how.
* `Log.Event` — an event.
* `Log.Event.toJson` — the object that is written of an event.
* `Log.Event.lineCount` — how many lines an event takes for people.
* `Log.Settings.written` — the events that are written.
-/

namespace IntentSpec.Log

/-! ## How much is logged -/

/-- How serious an event is. -/
inductive Level where
  | notSet
  /-- Of interest when a fault is looked for. -/
  | debug
  | info
  | warning
  | error
  /-- A fault that ends the program. -/
  | critical
deriving DecidableEq, Repr

namespace Level

/-- The levels. -/
def all : List Level := [notSet, debug, info, warning, error, critical]

/-- The rank of a level. -/
def rank : Level → Nat
  | notSet => 0
  | debug => 10
  | info => 20
  | warning => 30
  | error => 40
  | critical => 50

/-- The name of a level in an event. -/
def name : Level → String
  | notSet => "notset"
  | debug => "debug"
  | info => "info"
  | warning => "warning"
  | error => "error"
  | critical => "critical"

/-- The level at which a word in lower case reports. -/
def ofWord? (word : String) : Option Level :=
  match word with
  | "warn" => some warning
  | "fatal" => some critical
  | _ => all.find? (·.name == word)

/-- The names of the levels in settings, in upper case. -/
def titles : List (String × Level) :=
  [("NOTSET", notSet), ("DEBUG", debug), ("INFO", info), ("WARNING", warning), ("WARN", warning),
   ("ERROR", error), ("CRITICAL", critical), ("FATAL", critical)]

/-- The level of a rank. -/
def ofRank? (n : Int) : Option Level := all.find? fun level => level.rank == n

end Level

/-- How events are written. -/
inductive Format where
  /-- As lines to be read by people. -/
  | console
  /-- As one JSON object a line. -/
  | json
deriving DecidableEq, Repr

/-- The name of a format. -/
def Format.name : Format → String
  | console => "console"
  | json => "json"

/-- Why nothing can be logged. -/
inductive Fault where
  /-- There is no format of that name. -/
  | format (given : String)
  /-- There is no level of that name. -/
  | level (given : String)
  /-- The level is neither a number nor a text. -/
  | notLevel
  | rank (n : Int)
deriving DecidableEq, Repr

/-- The wording of a fault, if it has one. -/
def Fault.message? : Fault → Option String
  | format given => some <| "unsupported log format " ++ Text.quoted given ++
      "; expected one of ('console', 'json')"
  | level given => some ("unsupported logging level " ++ Text.quoted given)
  | notLevel | rank _ => none

/-- The rank from which on events are written: a number, or the name of a level in any case and with blanks
around it. -/
def threshold : Datum → Except Fault Int
  | .int n => .ok n
  | .bool b => .ok (if b then 1 else 0)
  | .text s =>
    match Level.titles.lookup (String.ofList (Text.upper (Text.trim s.toList))) with
    | some level => .ok level.rank
    | none => .error (.level s)
  | _ => .error .notLevel

/-- What is written and how. -/
structure Settings where
  /-- The least serious level that is written. -/
  level : Level := .warning
  format : Format := .console
deriving DecidableEq, Repr

/-- Reads what is written and how. -/
def Settings.read (level : Datum) (format : String) : Except Fault Settings := do
  let some format := [Format.console, .json].find? (·.name == format) | throw (.format format)
  let n ← threshold level
  let some level := Level.ofRank? n | throw (.rank n)
  return { level, format }

/-! ## Events -/

/-- An event, with its fields in the order in which they were noted. It is kept as it was noted;
masking comes with writing. -/
structure Event where
  level : Level
  text : String
  fields : List (String × Datum) := []

namespace Event

/-- The fields that an event does not choose itself. -/
def reserved : List String := ["level", "timestamp"]

/-- The event that is reported at a level given by a word.  The word for a failure that is being handled
puts a mark on the event. -/
def ofWord? (word text : String) (fields : List (String × Datum)) : Option Event :=
  match word with
  | "exception" =>
    let mark := if fields.any (·.1 == "exc_info") then [] else [("exc_info", Datum.bool true)]
    some ⟨.error, text, fields ++ mark⟩
  | "msg" => some ⟨.info, text, fields⟩
  | _ => (Level.ofWord? word).map fun level => ⟨level, text, fields⟩

/-- All fields of an event, with the secrets in them masked. -/
def redacted (e : Event) : Except Text.NumeralError (List (String × Datum)) :=
  let kept := e.fields.filter fun field => !reserved.contains field.1
  let added : List (String × Datum) := [("event", .text e.text), ("level", .text e.level.name)]
  redactFields (kept ++ added)

/-- A value without a JSON form is written as the text of a message. -/
def inWords (d : Datum) : Except Datum.ExportFault Json := do
  return .text (← Datum.exported d.shown)

/-- The object that is written of an event, its fields by their names and every mapping by its keys. -/
def toJson (e : Event) : Except Datum.ExportFault Json := do
  match (Datum.object (← Datum.exported e.redacted)).sortKeys? with
  | some sorted => sorted.toJsonWith inWords
  | none => throw .noJson

/-- The line that is written of an event for programs. -/
def line (e : Event) : Except Datum.ExportFault String := do
  Datum.exported ((← e.toJson).render .spaced)

/-- How many lines an event takes for people: one, and one more for each line feed in its texts. -/
def lineCount (e : Event) : Except Text.NumeralError Nat := do
  let fields ← e.redacted
  return 1 + (fields.flatMap fun field => match field.2 with
    | .text s => s.toList
    | _ => []).count '\n'

end Event

/-- The events that are written. -/
def Settings.written (settings : Settings) (events : List Event) : List Event :=
  events.filter fun e => settings.level.rank ≤ e.level.rank

end IntentSpec.Log
