import IntentSpec.Check.Machine
import IntentSpec.Check.Verify
import IntentSpec.Cli.Invocation
import IntentSpec.Cli.Session
import IntentSpec.Config.Load
import IntentSpec.Report.Summary
import IntentSpec.Rule.Validate

/-!
# Carrying out what is asked

Every invocation loads the configuration first.  A specification is read from its file, and its report or
receipt is written before anything is printed of it.  A command is started only on a valid specification
whose receipt has been written, with a directory of its own in which its outputs are kept.

## Main definitions

* `Cli.configure`, `Cli.readSpec`, `Cli.validateAndStore` — the parts that invocations share.
* `Cli.validate`, `Cli.verify`, `Cli.runCommand`, `Cli.showConfig` — the invocations.
* `Cli.lookups` — the paths that a call looks at besides those that its words name.
* `Cli.Outcome`, `Cli.call` — a whole call.
-/

namespace IntentSpec.Cli

open Text

/-! ## The parts that invocations share -/

/-- What an invocation chooses above the configuration. -/
def overrides (common : Common) (maxConcurrency : Option Int) : List (String × Datum) :=
  [("observability.log_level", (common.logLevel.map Datum.text).getD .null),
   ("observability.log_format", (common.logFormat.map Datum.text).getD .null),
   ("verification.max_concurrency", (maxConcurrency.map Datum.int).getD .null)]

/-- What a configuration says about logging. -/
def logSettings (config : Datum) : Except Log.Fault Log.Settings :=
  let section_ := (config.find? "observability").getD .null
  Log.Settings.read ((section_.find? "log_level").getD .null)
    (((section_.find? "log_format").bind Datum.text?).getD "")

/-- Loads the configuration. -/
def configure (common : Common) (maxConcurrency : Option Int := none) : Act Datum := do
  let setting ← read
  match Config.load (← get).files setting.environment setting.directory common.config
      setting.environment.vars (overrides common maxConcurrency) with
  | .error (.load f) => Act.refuse f.message ExitStatus.configuration
  | .error (.invalid found) => Act.refuse (Config.issuesMessage found) ExitStatus.configuration
  | .error .noHome => Act.fail (.other "RuntimeError")
  | .error (.system code) => Act.fail (FailureKind.ofErrorNumber code)
  | .error (.numeral e) => Act.invalid e.message
  | .error _ => Act.invalid
  | .ok config =>
    match logSettings config with
    | .error f => Act.invalid (f.message?.getD "")
    | .ok log =>
      modify fun s => { s with log }
      Act.did .configured
      return config

/-- A path of the configuration. -/
def storedPath (config : Datum) (key : String) : Act Path :=
  match Config.storedPath config key with
  | .ok path => pure path
  | .error _ => Act.fail (.configuration "ConfigLoadError")

/-- The store of the configuration. -/
def storeOf (config : Datum) : Act ReceiptStore := do
  let receipts ← storedPath config "receipts_dir"
  let verification ← storedPath config "verification_dir"
  let runs ← storedPath config "runs_dir"
  match ReceiptStore.open? (← read).environment receipts verification runs with
  | some store => return store
  | none => Act.fail (.other "RuntimeError")

/-- The place that a path on the command line means. -/
def placeOf (text : String) : Act Path := do
  let setting ← read
  match (Path.ofText text).expandHome? setting.environment with
  | none => Act.fail (.other "RuntimeError")
  | some path => if path.hasNul then Act.invalid else return path.absolute setting.directory

/-- A specification that has been read. -/
structure LoadedSpec where
  path : Path
  text : String
  hash : String
deriving DecidableEq, Repr

/-- The specification that bytes hold. -/
def LoadedSpec.ofBytes (path : Path) (content : List UInt8) : LoadedSpec :=
  ⟨path, String.ofList (Utf8.decodeLenient (Utf8.dropMark content)), Sha256.hex content⟩

/-- Reads a specification; answers the error number if there is none to be read. -/
def readSpec (given : String) : Act (Except Int LoadedSpec) := do
  let path ← placeOf given
  match (← get).files.read (← read).directory path with
  | .error code => return .error code
  | .ok content =>
    Act.did (.specRead path)
    return .ok (.ofBytes path content)

/-- Reads a specification.  If there is none to be read, a report says so. -/
def readOrReport (given : String) : Act (Option LoadedSpec) := do
  match ← readSpec given with
  | .ok spec => return some spec
  | .error code =>
    Act.note .warning "spec_unreadable"
      [("path", .text given), ("error", .text (Errno.wording code))]
    Act.print (← Act.written (readFailure given (Errno.wording code)).canonicalText)
    return none

/-- Where a receipt is to be written, if it is said where. -/
def outPath (out : Option String) : Act (Option Path) :=
  match out with
  | none | some "" => pure none
  | some text => some <$> placeOf text

/-- Notes that a text has been read as a specification. -/
def noteParsed (spec : Document.Spec) : Act Unit :=
  Act.note .debug "spec_parsed"
    [("system_id", .text spec.system), ("spec_version", .text spec.version),
     ("issue_count", .int spec.issues.length)]

/-- Notes that a specification has been validated. -/
def noteValidated (spec : Document.Spec) (report : Report) : Act Unit :=
  let gated := if supportedVersions.contains spec.version then [] else [("gated", Datum.bool true)]
  Act.note .debug "validation_completed"
    ([("state", .text report.verdict.name), ("exit_code", .int report.exitCode)] ++ gated)

/-- Notes that a receipt has been written. -/
def noteWritten (path : Path) : Act Unit := do
  Act.note .info "receipt_written" [("path", .text path.text)]
  Act.did (.receiptWritten path)

/-- Validates a specification and writes its receipt, whose text is answered along with the report and with
where it is. -/
def validateAndStore (spec : LoadedSpec) (store : ReceiptStore) (out : Option String) :
    Act (Report × String × Path) := do
  let setting ← read
  let parsed := Document.Spec.parse spec.text
  noteParsed parsed
  match validateText spec.text with
  | .error rejection => Act.invalid rejection.message
  | .ok report =>
    noteValidated parsed report
    let text ← Act.written report.canonicalText
    Act.did (.validated report.exitCode)
    let out ← outPath out
    let path ← Act.stored fun files =>
      store.writeValidation setting.directory spec.hash text out files
        (setting.faults (out.getD store.receipts))
    noteWritten path
    return (report, text, path)

/-! ## Validating -/

/-- Validates a specification. -/
def validate (common : Common) (reporting : Reporting) (given : String) : Act Nat := do
  let store ← storeOf (← configure common)
  match ← readOrReport given with
  | none => return ExitStatus.rejected
  | some spec =>
    let (report, text, path) ← validateAndStore spec store reporting.out
    if reporting.summary then Act.report report.summary
    Act.print (if reporting.json then text else path.text)
    return report.exitCode

/-! ## Verifying -/

/-- The identifiers between commas. -/
def selectedIds (ids : Option String) : List String :=
  ((ids.map fun s => (splitAt ',' s.toList).map trim).getD []).filterMap fun s =>
    if s.isEmpty then none else some (String.ofList s)

/-- How long a check takes, roughly: nothing if it asks nothing, little if it looks at a file. -/
def effort (check : PlannedCheck) : Nat :=
  match Params.read check.predicate check.capability, Capability.ofName? check.capability with
  | .ok (.ok _), some .fileExists => 1
  | .ok (.ok _), some _ => 1000
  | _, _ => 0

/-- Notes that a check has been carried out. -/
def noteChecked (record : CheckRecord) : Act Unit :=
  Act.note .info "check_completed"
    [("check_id", .text record.id), ("status", .text record.status.name),
     ("reason", (record.reason.map Datum.text).getD .null)]

/-- Notes that a specification has been verified. -/
def noteVerified (receipt : Receipt) : Act Unit :=
  Act.note .info "verification_completed"
    [("state", .text receipt.state.name), ("exit_code", .int receipt.exitCode),
     ("checks", .int receipt.checks.length)]

/-- The settings of a verification. -/
def settingsOf (config : Datum) : Act VerificationSettings :=
  match VerificationSettings.ofConfig config with
  | some (.ok settings) => pure settings
  | some (.error refusal) => Act.invalid refusal.message
  | none => Act.fail (.other "AttributeError")

/-- Where the validation receipt of a specification is, as it is written in a verification receipt. -/
def validationRef (store : ReceiptStore) (hash : String) : Act String := do
  match store.findValidation? (← read).directory (← get).files hash with
  | .ok found => return (found.map Path.text).getD "missing"
  | .error (.lookup code) => Act.fail (FailureKind.ofErrorNumber code)
  | .error _ => Act.invalid StoreFault.hashMessage

/-- Carries out the checks of a specification. -/
def carryOut (spec : LoadedSpec) (settings : VerificationSettings) (ref : String)
    (selection : Selection) : Act Receipt := do
  let setting ← read
  let request : VerificationRequest :=
    { specHash := spec.hash, validationRef := ref, settings
      ids := selectedIds selection.ids, beginnings := selection.beginnings }
  let world := World.ofMachine setting.launcher (← get).files setting.directory
    setting.environment.vars settings.maxOutput
  noteParsed (Document.Spec.parse spec.text)
  match verifyText world request spec.text with
  | .error _ => Act.fail (.other "Exception")
  | .ok (receipt, records, _) =>
    let efforts := (PlannedCheck.ofText spec.text request.ids request.beginnings).map effort
    (Gate.endingOrder settings.maxConcurrency.toNat (records.zip efforts)).forM noteChecked
    noteVerified receipt
    return receipt

/-- Verifies a specification. -/
def verify (common : Common) (reporting : Reporting) (selection : Selection) (given : String) :
    Act Nat := do
  let setting ← read
  let config ← configure common selection.maxConcurrency
  let store ← storeOf config
  match ← readSpec given with
  | .error code =>
    Act.refuse ("cannot read spec file " ++ given ++ ": " ++ Errno.wording code) ExitStatus.undecidable
  | .ok spec =>
    let ref ← validationRef store spec.hash
    let receipt ← carryOut spec (← settingsOf config) ref selection
    let text ← Act.written receipt.text
    let out ← outPath reporting.out
    let path ← Act.stored fun files =>
      store.writeVerification setting.directory spec.hash text out files
        (setting.faults (out.getD store.verification))
    noteWritten path
    if reporting.summary then Act.report receipt.summary
    Act.print (if reporting.json then text else path.text)
    return receipt.exitCode

/-! ## Running a command -/

/-- The variables of a command that is run on a specification. -/
def commandVariables (vars : Variables) (spec receipt : Path) : Variables :=
  setValue "DIL_RECEIPT_PATH" receipt.text (setValue "DIL_SPEC_PATH" spec.text vars)

/-- The exit status of a process as a shell shows it: 128 and the number of the signal that ended it. -/
def shownStatus : Option Int → Nat
  | none => ExitStatus.rejected
  | some n => if n < 0 then (128 - n).toNat else n.toNat

/-- Writes a file of a run. -/
def writeRunFile (path : Path) (text : String) : Act Unit := do
  let setting ← read
  let path ← Act.stored fun files =>
    ReceiptStore.writeRunFile setting.directory path text files (setting.faults path)
  Act.did (.fileWritten path)

/-- Makes the directory of a run. -/
def createRun (store : ReceiptStore) (hash : String) : Act RunWorkspace := do
  let setting ← read
  let workspace ← Act.stored fun files =>
    match setting.runError with
    | some code => (files, .error (.system store.runs "create run directory" code))
    | none => store.createRun setting.directory hash setting.entropy files
  Act.did (.runCreated workspace.path)
  return workspace

/-- Starts a command and keeps what it writes. -/
def launchOn (spec : LoadedSpec) (receipt : Path) (workspace : RunWorkspace) (command : List String) :
    Act Nat := do
  let setting ← read
  let answer ← Act.launch
    { argv := command, timeout := none, directory := some setting.directory.text
      environment := some (commandVariables setting.environment.vars spec.path receipt) }
  if answer.startError.isSome then
    Act.refuse ("unable to start " ++ quoted (command.headD "") ++ ": " ++ Errno.name answer.startError)
      ExitStatus.rejected
  writeRunFile workspace.stdoutLog answer.stdout
  writeRunFile workspace.stderrLog answer.stderr
  let status := shownStatus answer.exitCode
  Act.note .info "run_completed" [("run_id", .text workspace.id), ("exit_code", .int status)]
  Act.report ["run directory: " ++ workspace.path.text]
  return status

/-- The command after the word that separates it. -/
def commandOf : List String → List String
  | word :: words => if word = Token.separatorWord then words else word :: words
  | [] => []

/-- Runs a command on a specification. -/
def runCommand (common : Common) (given : String) (words : List String) : Act Nat := do
  let command := commandOf words
  if command.isEmpty then Act.refuse "run requires a command after --" ExitStatus.rejected
  let store ← storeOf (← configure common)
  match ← readOrReport given with
  | none => return ExitStatus.rejected
  | some spec =>
    let (report, _, path) ← validateAndStore spec store none
    Act.print path.text
    if report.exitCode ≠ ExitStatus.success then return report.exitCode
    let workspace ← createRun store spec.hash
    writeRunFile workspace.pointer (path.text ++ "\n")
    launchOn spec path workspace command

/-! ## The configuration -/

/-- Shows the configuration. -/
def showConfig (common : Common) : Act Nat := do
  match Config.text (← configure common) with
  | .ok text =>
    Act.print text
    return ExitStatus.success
  | .error .noJson => Act.fail (.other "TypeError")
  | .error (.numeral e) => Act.invalid e.message

/-! ## What else is looked at -/

/-- The paths that the checks of a specification look at. -/
def checkedPaths (text : String) (selection : Selection) : List Path :=
  (PlannedCheck.ofText text (selectedIds selection.ids) selection.beginnings).filterMap fun check =>
    match Params.read check.predicate check.capability, Capability.ofName? check.capability with
    | .ok (.ok params), some .fileExists => (value? "path" params).map Path.ofText
    | _, _ => none

/-- The paths that an invocation looks at besides those that its words name. -/
def pathsBeyond : Invocation → Act (List Path)
  | .verify common _ selection given => do
    let store ← storeOf (← configure common)
    match ← readSpec given with
    | .error _ => return []
    | .ok spec =>
      let receipt := (store.validationPath spec.hash).toOption.toList
      return receipt ++ checkedPaths spec.text selection
  | _ => pure []

/-! ## Calls -/

/-- Carries out what is asked. -/
def perform : Invocation → Act Nat
  | .validate common reporting spec => validate common reporting spec
  | .verify common reporting selection spec => verify common reporting selection spec
  | .run common spec command => runCommand common spec command
  | .config common => showConfig common

/-- What a call comes to. -/
structure Outcome where
  status : Nat
  /-- Whether help is to be shown. -/
  help : Bool := false
  session : Session

namespace Outcome

/-- The text that is printed. -/
def printed (o : Outcome) : String := Summary.printed o.session.printed

/-- The lines that are reported. -/
def reported (o : Outcome) : List String :=
  o.session.reported.flatMap fun text =>
    if text.isEmpty then [""] else (paragraphs text.toList).map String.ofList

/-- The objects that are logged, if every event can be written. -/
def logged (o : Outcome) : Except Datum.ExportFault (List Json) :=
  match o.session.log.format with
  | .json => (o.session.log.written o.session.events).mapM Log.Event.toJson
  | .console => .ok []

end Outcome

/-- The message of a call that is refused. -/
def errorLine (message : String) : String := "error: " ++ message

/-- The outcome of a call that has been carried out or given up. -/
def Outcome.ofResult (result : Except Halt Nat) (session : Session) : Outcome :=
  let told (lines : List String) : Session := { session with reported := session.reported ++ lines }
  match result with
  | .ok status => { status := (ExitStatus.ofAnswer (.int status)).1, session }
  | .error (.refused message status) => { status, session := told [errorLine message] }
  | .error (.failed failures) =>
    let (status, text) := ExitStatus.ofFailure failures
    { status, session := told ((text.map fun s => [ExitStatus.trimmed s]).getD []) }

/-- The paths that a call looks at besides those that its words name. -/
def lookups (setting : Setting) (files : FileTree) (words : List String) : List Path :=
  match Invocation.read words with
  | .error _ => []
  | .ok invocation =>
    match ((pathsBeyond invocation setting).run { files }).1 with
    | .ok paths => paths
    | .error _ => []

/-- Carries out a call. -/
def call (setting : Setting) (files : FileTree) (words : List String) : Outcome :=
  match Invocation.read words with
  | .error .help => { status := ExitStatus.success, help := true, session := { files } }
  | .error (.usage program fault) =>
    { status := ExitStatus.rejected
      session := { files, reported := [errorLine (program ++ ": " ++ fault.message)] } }
  | .ok invocation =>
    let (result, session) := (perform invocation setting).run { files }
    .ofResult result session

end IntentSpec.Cli
