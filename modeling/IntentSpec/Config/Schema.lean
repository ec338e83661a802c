import IntentSpec.Datum.Export
import IntentSpec.Datum.Shown
import IntentSpec.Json.Printer
import IntentSpec.Sorting
import IntentSpec.Text.Case
import IntentSpec.Text.Character

/-!
# The configuration schema

A configuration has fixed sections with fixed fields.  A configuration is checked as a whole: every
deviation is an issue that names the field, and a field that is accepted comes out in its normal form.

The check collects what is wrong as data, but it writes some of it down on the way: the keys of a mapping are
compared as texts, and the advice about a foreign version of the schema names that version.  Where an integer in
one of these texts is too long the check fails, and tells nothing of what it has found.  So there are three
answers to a configuration, not two, and `Config.validate` has a type that keeps the failure of the check apart
from its verdict.

## Main definitions

* `Config.schema` — the sections, their fields and the checks of those.
* `Config.issues`, `Config.validate` — what is wrong with a configuration, and its normal form.
* `Config.defaults` — the configuration without any layer above it.
* `Config.text` — the text of a configuration.
-/

namespace IntentSpec.Config

open Text

/-- What is wrong with a value. -/
inductive Defect where
  | notObject (type : String)
  /-- The field is not in the schema. -/
  | unknownField
  | missingField
  | notInteger (type : String)
  | notPositive
  /-- The version of the schema is another one; what to do about it is said in words. -/
  | version (guidance : String)
  | notText (type : String)
  | emptyText
  /-- The text has a character that no path can have. -/
  | nul
  /-- The text is none of those that are allowed. -/
  | notListed (shown : String) (allowed : List String)
deriving DecidableEq, Repr

/-- The version of the schema. -/
def schemaVersion : Int := 1

/-- What to do about a version of the schema, if the version can be written. -/
def migrationGuidance (found : Int) : Except NumeralError String := do
  if found < schemaVersion then
    return "schema version " ++ (← writeInteger found) ++ " is older than supported " ++
      (← writeInteger schemaVersion) ++ "; upgrade dil.toml to the current schema"
  else if schemaVersion < found then
    return "schema version " ++ (← writeInteger found) ++ " is newer than supported " ++
      (← writeInteger schemaVersion) ++ "; upgrade the dil-core runtime"
  else return "schema version is current"

/-- The wording of a defect. -/
def Defect.message : Defect → String
  | notObject type => "expected object, got " ++ type
  | unknownField => "unknown field"
  | missingField => "missing required field"
  | notInteger type => "expected integer, got " ++ type
  | notPositive => "must be >= 1"
  | version guidance => guidance
  | notText type => "expected string, got " ++ type
  | emptyText => "must not be empty"
  | nul => "must not contain NUL bytes"
  | notListed shown allowed =>
    "invalid value " ++ shown ++ "; expected one of: " ++ ", ".intercalate (sortTexts allowed)

/-- What is wrong with the value at a place. -/
structure Issue where
  path : String
  defect : Defect
deriving DecidableEq, Repr

/-- The check of a value answers its normal form. -/
abbrev ValueCheck := Datum → Except Defect Datum

/-- The check of a field answers what the check of a value does, unless it fails to write that down. -/
abbrev FieldCheck := Datum → Except NumeralError (Except Defect Datum)

/-- A check of a value never fails as the check of a field. -/
def FieldCheck.ofValue (check : ValueCheck) : FieldCheck := fun d => .ok (check d)

/-- A positive integer. -/
def positiveInteger : ValueCheck
  | .int n => if n < 1 then .error .notPositive else .ok (.int n)
  | d => .error (.notInteger d.typeName)

/-- The version of the schema.  The advice about another version is written here and now, so a version of too
many digits makes the whole check fail. -/
def currentVersion : FieldCheck := fun d =>
  match positiveInteger d with
  | .ok (.int n) =>
    if n = schemaVersion then .ok (.ok (.int n)) else return .error (.version (← migrationGuidance n))
  | answer => .ok answer

/-- The trimmed text of a value that is not blank. -/
def trimmedText : Datum → Except Defect String
  | .text s =>
    let s := String.ofList (trim s.toList)
    if s.isEmpty then .error .emptyText else .ok s
  | d => .error (.notText d.typeName)

/-- The text of a path. -/
def pathText : ValueCheck := fun d => do
  let s ← trimmedText d
  if s.toList.contains '\x00' then .error .nul else return .text s

/-- One of some texts, perhaps in any case. -/
def choice (allowed : List String) (anyCase : Bool) : ValueCheck := fun d => do
  let s ← trimmedText d
  let s := if anyCase then String.ofList (upper s.toList) else s
  if allowed.contains s then return .text s else .error (.notListed (quoted s) allowed)

/-- The levels of log events. -/
def logLevels : List String := ["DEBUG", "INFO", "WARNING", "ERROR"]

/-- The forms of log lines. -/
def logFormats : List String := ["console", "json"]

/-- The sections in order, with their fields in order and the checks of those. The order is that of
the names, and it is the order in which fields are checked. -/
def schema : List (String × List (String × FieldCheck)) :=
  [("meta", [("schema_version", currentVersion)]),
   ("observability",
     [("log_format", .ofValue (choice logFormats false)), ("log_level", .ofValue (choice logLevels true))]),
   ("paths",
     [("receipts_dir", .ofValue pathText), ("runs_dir", .ofValue pathText),
      ("verification_dir", .ofValue pathText)]),
   ("verification",
     [("command_timeout_ms", .ofValue positiveInteger), ("http_timeout_ms", .ofValue positiveInteger),
      ("max_concurrency", .ofValue positiveInteger), ("max_output_chars", .ofValue positiveInteger)])]

/-- The issues with the keys of a mapping, in order.  The keys are compared as texts, so all of them have to be
written before the first issue is known. -/
def keyIssues (entries : List (Datum × Datum)) (expected : List String) (place : String → String) :
    Except NumeralError (List Issue) := do
  let seen ← entries.mapM fun entry => entry.1.plain
  return (sortTexts (dedup (seen ++ expected))).filterMap fun key =>
    if !expected.contains key then some ⟨place key, .unknownField⟩
    else if !seen.contains key then some ⟨place key, .missingField⟩
    else none

/-- A field in its normal form, if it is there, or what is wrong with it. -/
def checkField (section_ : String) (entries : List (Datum × Datum)) (name : String)
    (check : FieldCheck) : Except NumeralError (Option (Except Issue (String × Datum))) :=
  match Datum.lookup? name entries with
  | none => .ok none
  | some d => do
    match ← check d with
    | .ok d => return some (.ok (name, d))
    | .error defect => return some (.error ⟨section_ ++ "." ++ name, defect⟩)

/-- The values among results. -/
def values {ε α : Type} (results : List (Except ε α)) : List α :=
  results.filterMap fun r => match r with
    | .ok a => some a
    | .error _ => none

/-- The errors among results. -/
def errors {ε α : Type} (results : List (Except ε α)) : List ε :=
  results.filterMap fun r => match r with
    | .ok _ => none
    | .error e => some e

/-- What is wrong with a section, and its normal form if it is a mapping. A section that is null is
passed over as if it were not there, and its key has been seen, so it is not missing either. -/
def checkSection (entries : List (Datum × Datum)) (name : String) (fields : List (String × FieldCheck)) :
    Except NumeralError (List Issue × Option (String × Datum)) :=
  match Datum.lookup? name entries with
  | none | some .null => .ok ([], none)
  | some (.mapping inner) => do
    let found ← keyIssues inner (fields.map (·.1)) fun key => name ++ "." ++ key
    let results ← fields.mapM fun field => checkField name inner field.1 field.2
    let results := results.filterMap id
    return (found ++ errors results, some (name, Datum.object (values results)))
  | some d => .ok ([⟨name, .notObject d.typeName⟩], none)

/-- What is wrong with the parts of a configuration, and its normal form. -/
def checkEntries (entries : List (Datum × Datum)) : Except NumeralError (List Issue × Datum) := do
  let found ← keyIssues entries (schema.map (·.1)) id
  let sections ← schema.mapM fun rule => checkSection entries rule.1 rule.2
  return (found ++ sections.flatMap (·.1), Datum.object (sections.filterMap (·.2)))

/-- What is wrong with a configuration: the keys first, and then section by section. Nothing sorts
the issues of one pass among those of another. -/
def issues : Datum → Except NumeralError (List Issue)
  | .mapping entries => return (← checkEntries entries).1
  | d => return [⟨"<root>", .notObject d.typeName⟩]

/-- The normal form of a configuration with which nothing is wrong, or else all that is wrong with it; neither
of them if what is wrong cannot be written. -/
def validate (d : Datum) : Except NumeralError (Except (List Issue) Datum) :=
  match d with
  | .mapping entries => do
    match ← checkEntries entries with
    | ([], normal) => return .ok normal
    | (found, _) => return .error found
  | d => return .error (← issues d)

/-- The wording for a configuration about which some lines are to be said. -/
def issueLines (lines : List String) : String :=
  "invalid config:\n" ++
    if lines.isEmpty then "unknown validation failure" else "\n".intercalate lines

/-- The wording for a configuration with which something is wrong. -/
def issuesMessage (found : List Issue) : String :=
  issueLines (found.map fun i => "- " ++ i.path ++ ": " ++ i.defect.message)

/-- The configuration without any layer above it. It is laid out as the others are, and it passes
the check like them. -/
def defaults : List (Datum × Datum) :=
  let section_ (name : String) (fields : List (String × Datum)) := (Datum.text name, Datum.object fields)
  [section_ "meta" [("schema_version", .int schemaVersion)],
   section_ "paths"
     [("receipts_dir", .text ".dil/receipts"), ("verification_dir", .text ".dil/verification"),
      ("runs_dir", .text ".dil/runs")],
   section_ "verification"
     [("max_concurrency", .int 4), ("command_timeout_ms", .int 30000), ("http_timeout_ms", .int 5000),
      ("max_output_chars", .int 4096)],
   section_ "observability" [("log_level", .text "WARNING"), ("log_format", .text "console")]]

/-- The text of a configuration, if it has one.  A configuration that is accepted need not have one: its
limits are not bounded, and a limit of too many digits cannot be written. -/
def text (config : Datum) : Except Datum.ExportFault String := do
  Datum.exported (← config.toJson).indentedText

end IntentSpec.Config
