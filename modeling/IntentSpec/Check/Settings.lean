import IntentSpec.Check.Outcome

/-!
# Settings of a verification

The limits of checks and the number of checks that run at once come from three places: defaults, fields that
a caller sets, and the section of a configuration.  All three are read in one way, field by field, and the
first field that is no positive integer is refused by the name of the type and of the field.

A truth value could be compared with a number, but it is no limit, and it is refused like a text; untyped
values keep the two apart.  A configuration without a section for verifications has the
defaults, while one that is no mapping, or whose section is none, cannot be read at all, which is another
thing than a refusal.

## Main definitions

* `CheckContext` — the limits that all checks share.
* `VerificationSettings` — these, and how many checks run at once.
* `VerificationSettings.ofConfig` — the settings that an untyped configuration gives.
-/

namespace IntentSpec

/-- The limits that all checks share. -/
structure CheckContext where
  /-- The time limit of a command, in milliseconds. -/
  commandTimeout : Int := 30000
  /-- The time limit of a request, in milliseconds. -/
  httpTimeout : Int := 5000
  /-- How many characters of an output are kept. -/
  maxOutput : Int := 4096
deriving DecidableEq, Repr

/-- The limits of checks, and how many checks run at once. -/
structure VerificationSettings extends CheckContext where
  /-- How many checks run at once. -/
  maxConcurrency : Int := 4
deriving DecidableEq, Repr

/-- Reads a positive integer field of a type, or takes the default. -/
def positiveField (type name : String) (default : Int) : Option Datum → Except Refusal Int
  | none => .ok default
  | some (.int n) => if 0 < n then .ok n else .error ⟨type ++ "." ++ name, "must be a positive integer"⟩
  | some _ => .error ⟨type ++ "." ++ name, "must be a positive integer"⟩

/-- The limits that given fields amount to. -/
def CheckContext.ofFields (get : String → Option Datum) : Except Refusal CheckContext := do
  let type := "CheckerContext"
  let commandTimeout ← positiveField type "command_timeout_ms" 30000 (get "command_timeout_ms")
  let httpTimeout ← positiveField type "http_timeout_ms" 5000 (get "http_timeout_ms")
  let maxOutput ← positiveField type "max_output_chars" 4096 (get "max_output_chars")
  return { commandTimeout, httpTimeout, maxOutput }

/-- The members of the export of the limits. -/
def CheckContext.toJson (c : CheckContext) : List (String × Json) :=
  [("command_timeout_ms", .int c.commandTimeout), ("http_timeout_ms", .int c.httpTimeout),
   ("max_output_chars", .int c.maxOutput)]

/-- The members of the export of the settings. -/
def VerificationSettings.toJson (v : VerificationSettings) : List (String × Json) :=
  ("max_concurrency", .int v.maxConcurrency) :: v.toCheckContext.toJson

/-- The refusal of what cannot run commands. -/
def CheckContext.noExecutor : Refusal :=
  ⟨"CheckerContext.command_executor", "must implement CommandExecutor"⟩

namespace VerificationSettings

/-- The settings that given fields amount to. -/
def ofFields (get : String → Option Datum) : Except Refusal VerificationSettings := do
  let type := "VerificationSettings"
  let maxConcurrency ← positiveField type "max_concurrency" 4 (get "max_concurrency")
  let commandTimeout ← positiveField type "command_timeout_ms" 30000 (get "command_timeout_ms")
  let httpTimeout ← positiveField type "http_timeout_ms" 5000 (get "http_timeout_ms")
  let maxOutput ← positiveField type "max_output_chars" 4096 (get "max_output_chars")
  return { maxConcurrency, commandTimeout, httpTimeout, maxOutput }

/-- The settings that the section of an untyped configuration gives.  There are none if the
configuration or its section is no mapping. -/
def ofConfig (config : Datum) : Option (Except Refusal VerificationSettings) :=
  match config with
  | .mapping entries =>
    match (Datum.lookup? "verification" entries).getD (.mapping []) with
    | .mapping fields => some (ofFields fun key => Datum.lookup? key fields)
    | _ => none
  | _ => none

end VerificationSettings

end IntentSpec
