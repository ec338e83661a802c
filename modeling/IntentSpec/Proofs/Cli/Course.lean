import IntentSpec.Cli.Workflow
import IntentSpec.Proofs.Rule.Redeclared
import IntentSpec.Proofs.Store.History

/-!
# What the parts of a call do

A part of a call answers or is given up, and either way something has been done.  Every part that has to do
with running a command is inverted once: what it comes to says which of its steps have succeeded and which
has not, what has become of the files, and which deeds have been added to those before.  So whatever is
said of a whole call needs none of their definitions.

Two things keep the inversions small.  The report on a specification has a text, whatever the specification says,
so that writing it can only fail in the store.  And a command is reached by one access only, which records the
start before anything is known of the command; so nothing has to be supposed of programs, which may change the
files or fail in any way.

* `Cli.Act.result`, `Cli.Act.result_bind` — what a part comes to, and one part after another.
* `Cli.Act.Halts` — the status with which a part is given up.
* `Cli.configure_cases`, `Cli.storeOf_cases` — the configuration, and the store that it says.
* `Cli.readOrReport_cases`, `Cli.validateAndStore_cases` — the specification, and its receipt.
* `Cli.createRun_cases`, `Cli.writeRunFile_cases`, `Cli.launchOn_cases` — a run, and its command.
-/

namespace IntentSpec.Cli

/-! ## Parts of a call -/

/-- The status of a call that is given up. -/
def Halt.status : Halt → Nat
  | refused _ status => status
  | failed failures => (ExitStatus.ofFailure failures).1

namespace Act

variable {α β : Type} {setting : Setting} {s s' : Session}

/-- What a part of a call comes to: its answer or why it is given up, and what has been done then. -/
def result (act : Act α) (setting : Setting) (s : Session) : Except Halt α × Session := (act setting).run s

theorem result_bind_of_ok {act : Act α} {f : α → Act β} {a : α} {t : Session}
    (answers : act.result setting s = (.ok a, t)) : (act >>= f).result setting s = (f a).result setting t := by
  show ExceptT.bindCont (fun a => f a setting) (act.result setting s).1 (act.result setting s).2 = _
  rw [answers]
  rfl

theorem result_bind_of_error {act : Act α} {f : α → Act β} {halt : Halt} {t : Session}
    (halts : act.result setting s = (.error halt, t)) : (act >>= f).result setting s = (.error halt, t) := by
  show ExceptT.bindCont (fun a => f a setting) (act.result setting s).1 (act.result setting s).2 = _
  rw [halts]
  rfl

/-- **One part after another**: the second one goes on where the first one has answered. If the
first one gives up, the session is what it left. -/
theorem result_bind {act : Act α} {f : α → Act β} {r : Except Halt β}
    (does : (act >>= f).result setting s = (r, s')) :
    (∃ a t, act.result setting s = (.ok a, t) ∧ (f a).result setting t = (r, s')) ∨
      ∃ halt, act.result setting s = (.error halt, s') ∧ r = .error halt := by
  cases first : act.result setting s with
  | mk answer t =>
      cases answer with
      | ok a =>
          rw [result_bind_of_ok first] at does
          exact .inl ⟨a, t, rfl, does⟩
      | error halt =>
          rw [result_bind_of_error first] at does
          cases does
          exact .inr ⟨halt, rfl, rfl⟩

@[simp] theorem result_read_bind (f : Setting → Act β) :
    (read >>= f : Act β).result setting s = (f setting).result setting s := rfl

@[simp] theorem result_get_bind (f : Session → Act β) : (get >>= f : Act β).result setting s = (f s).result setting s :=
  rfl

@[simp] theorem result_modify_bind (change : Session → Session) (f : Unit → Act β) :
    ((modify change : Act Unit) >>= f).result setting s = (f ()).result setting (change s) := rfl

@[simp] theorem result_note_bind (level : Log.Level) (text : String) (fields : List (String × Datum))
    (f : Unit → Act β) :
    (note level text fields >>= f).result setting s =
      (f ()).result setting { s with events := s.events ++ [⟨level, text, fields⟩] } := rfl

@[simp] theorem result_print_bind (text : String) (f : Unit → Act β) :
    (print text >>= f).result setting s = (f ()).result setting { s with printed := s.printed ++ [text] } := rfl

@[simp] theorem result_did_bind (deed : Deed) (f : Unit → Act β) :
    (did deed >>= f).result setting s = (f ()).result setting { s with deeds := s.deeds ++ [deed] } := rfl

@[simp] theorem result_written_bind (text : String) (f : String → Act β) :
    (written (.ok text) >>= f).result setting s = (f text).result setting s := rfl

/-- A failure that is none of the configuration is an internal error. -/
theorem status_failed {kind : FailureKind} (other : kind.isConfiguration = false) (text : String) :
    (Halt.failed [{ kind, text }]).status = ExitStatus.internal := by
  simp [Halt.status, ExitStatus.ofFailure, FailureGraph.causes, FailureGraph.chain, FailureGraph.shownLink, other]

/-- What taking over an action of a store comes to. -/
inductive Stores (act : FileTree → FileTree × Except StoreFault α) (s : Session) : Except Halt α → Session → Prop
  | done {a : α} {s' : Session} (does : act s.files = (s'.files, .ok a)) (deeds : s'.deeds = s.deeds) :
    Stores act s (.ok a) s'
  /-- The action fails, which is an internal error. -/
  | failed {halt : Halt} {fault : StoreFault} {s' : Session} (status : halt.status = ExitStatus.internal)
    (fails : act s.files = (s'.files, .error fault)) (deeds : s'.deeds = s.deeds) : Stores act s (.error halt) s'

theorem stored_cases {act : FileTree → FileTree × Except StoreFault α} {r : Except Halt α}
    (does : (stored act).result setting s = (r, s')) : Stores act s r s' := by
  unfold stored at does
  rw [result_get_bind] at does
  cases acts : act s.files with
  | mk files answer =>
      simp only [acts, result_modify_bind] at does
      cases answer with
      | ok a =>
          cases does
          exact .done acts rfl
      | error fault =>
          cases fault with
          | write =>
              cases does
              exact .failed (status_failed rfl _) acts rfl
          | badHash =>
              cases does
              exact .failed (status_failed rfl _) acts rfl
          | system =>
              cases does
              exact .failed rfl acts rfl
          | notInDirectory =>
              cases does
              exact .failed rfl acts rfl
          | lookup =>
              cases does
              exact .failed (status_failed rfl _) acts rfl

end Act

/-! ## The configuration -/

section Configuration

variable (setting : Setting) (files : FileTree) (common : Common)

/-- What loading the configuration of a run comes to. -/
def loaded : Except Config.Fault Datum :=
  Config.load files setting.environment setting.directory common.config setting.environment.vars
    (overrides common none)

/-- The configuration is faulty. -/
inductive Misconfigured : Prop
  | layer {fault : Config.LoadFault} (fails : loaded setting files common = .error (.load fault))
  /-- Something is wrong with the configuration. -/
  | invalid {found : List Config.Issue} (fails : loaded setting files common = .error (.invalid found))
  | path {config : Datum} (loads : loaded setting files common = .ok config) {key : String} {fault : Config.Fault}
    (fails : Config.storedPath config key = .error fault)

/-- There is no configuration, though it is not the configuration that is at fault. -/
inductive Unconfigured : Prop
  /-- It cannot be looked for, or what stands in it cannot be dealt with. -/
  | loading {fault : Config.Fault} (fails : loaded setting files common = .error fault)
    (layer : ∀ f, fault ≠ .load f) (invalid : ∀ found, fault ≠ .invalid found)
  /-- It does not say what is logged. -/
  | logging {config : Datum} (loads : loaded setting files common = .ok config) {fault : Log.Fault}
    (fails : logSettings config = .error fault)
  /-- There is no home directory for a tilde in one of its paths. -/
  | home {config : Datum} (loads : loaded setting files common = .ok config) {receipts verification runs : Path}
    (fails : ReceiptStore.open? setting.environment receipts verification runs = none)

/-- The configuration that has been loaded, and the store that it says. -/
structure Configured where
  config : Datum
  loads : loaded setting files common = .ok config
  receipts : Path
  receiptsAt : Config.storedPath config "receipts_dir" = .ok receipts
  /-- Where the receipts of verifications are kept. -/
  verification : Path
  verificationAt : Config.storedPath config "verification_dir" = .ok verification
  runs : Path
  runsAt : Config.storedPath config "runs_dir" = .ok runs
  store : ReceiptStore
  opens : ReceiptStore.open? setting.environment receipts verification runs = some store

end Configuration

section Parts

open Act

variable {α β : Type} {setting : Setting} {common : Common} {s s' s'' : Session}

theorem isConfiguration_ofErrorNumber (code : Int) : (FailureKind.ofErrorNumber code).isConfiguration = false := by
  unfold FailureKind.ofErrorNumber
  split
  · rfl
  · split <;> rfl

/-- What loading the configuration comes to. -/
inductive Configures (setting : Setting) (common : Common) (s : Session) : Except Halt Datum → Session → Prop
  | done {config : Datum} {s' : Session} (loads : loaded setting s.files common = .ok config)
    (tree : s'.files = s.files) (deeds : s'.deeds = s.deeds ++ [.configured]) :
    Configures setting common s (.ok config) s'
  | misconfigured {halt : Halt} (status : halt.status = ExitStatus.configuration)
    (faulty : Misconfigured setting s.files common) : Configures setting common s (.error halt) s
  | unconfigured {halt : Halt} (status : halt.status = ExitStatus.internal)
    (lacking : Unconfigured setting s.files common) : Configures setting common s (.error halt) s

/-- **Loading the configuration** changes no files. -/
theorem configure_cases {r : Except Halt Datum} (does : (configure common).result setting s = (r, s')) :
    Configures setting common s r s' := by
  unfold configure at does
  rw [result_read_bind, result_get_bind] at does
  cases loads : loaded setting s.files common with
  | error fault =>
      rw [loaded] at loads
      rw [loads] at does
      cases fault with
      | load f =>
          cases does
          exact .misconfigured rfl (.layer loads)
      | invalid found =>
          cases does
          exact .misconfigured rfl (.invalid loads)
      | system code =>
          cases does
          exact .unconfigured (status_failed (isConfiguration_ofErrorNumber code) _) (.loading loads nofun nofun)
      | _ =>
          cases does
          exact .unconfigured (status_failed rfl _) (.loading loads nofun nofun)
  | ok config =>
      rw [loaded] at loads
      rw [loads] at does
      dsimp only at does
      cases logs : logSettings config with
      | error fault =>
          rw [logs] at does
          cases does
          exact .unconfigured (status_failed rfl _) (.logging loads logs)
      | ok log =>
          rw [logs] at does
          cases does
          exact .done loads rfl rfl

/-- What opening the store of a configuration comes to. -/
inductive Opens (setting : Setting) (files : FileTree) (common : Common) (s : Session) :
    Except Halt ReceiptStore → Session → Prop
  | done (c : Configured setting files common) : Opens setting files common s (.ok c.store) s
  | misconfigured {halt : Halt} (status : halt.status = ExitStatus.configuration)
    (faulty : Misconfigured setting files common) : Opens setting files common s (.error halt) s
  | unconfigured {halt : Halt} (status : halt.status = ExitStatus.internal)
    (lacking : Unconfigured setting files common) : Opens setting files common s (.error halt) s

/-- A path of the configuration is there for what follows, or the configuration is faulty. -/
theorem opens_of_storedPath {files : FileTree} {config : Datum} (loads : loaded setting files common = .ok config)
    {key : String} {f : Path → Act ReceiptStore} {r : Except Halt ReceiptStore}
    (does : (storedPath config key >>= f).result setting s = (r, s'))
    (follows : ∀ path, Config.storedPath config key = .ok path → (f path).result setting s = (r, s') →
      Opens setting files common s r s') : Opens setting files common s r s' := by
  unfold storedPath at does
  cases found : Config.storedPath config key with
  | ok path =>
      rw [found] at does
      exact follows path found does
  | error fault =>
      rw [found] at does
      cases does
      exact .misconfigured rfl (.path loads found)

/-- **Opening the store of the configuration** changes nothing. -/
theorem storeOf_cases {files : FileTree} {config : Datum} (loads : loaded setting files common = .ok config)
    {r : Except Halt ReceiptStore} (does : (storeOf config).result setting s = (r, s')) :
    Opens setting files common s r s' := by
  unfold storeOf at does
  refine opens_of_storedPath loads does fun receipts receiptsAt does => ?_
  refine opens_of_storedPath loads does fun verification verificationAt does => ?_
  refine opens_of_storedPath loads does fun runs runsAt does => ?_
  rw [result_read_bind] at does
  cases opens : ReceiptStore.open? setting.environment receipts verification runs with
  | some store =>
      rw [opens] at does
      cases does
      exact .done ⟨config, loads, receipts, receiptsAt, verification, verificationAt, runs, runsAt, store, opens⟩
  | none =>
      rw [opens] at does
      cases does
      exact .unconfigured (status_failed rfl _) (.home loads opens)

end Parts

/-! ## The specification -/

section Specification

variable (setting : Setting) (files : FileTree) (given : String)

/-- The place that a text on the command line means, if it means one. -/
def placeOf? : Option Path :=
  ((Path.ofText given).expandHome? setting.environment).bind fun path =>
    if path.hasNul then none else some (path.absolute setting.directory)

/-- A specification is what the file says that is named. -/
structure SpecRead (spec : LoadedSpec) : Prop where
  /-- It is at the place that is named. -/
  named : placeOf? setting given = some spec.path
  /-- It is what the file there holds. -/
  content : ∃ content, files.read setting.directory spec.path = .ok content ∧ spec = .ofBytes spec.path content

/-- The file that is named cannot be read. -/
def Unreadable : Prop :=
  ∃ path code, placeOf? setting given = some path ∧ files.read setting.directory path = .error code

end Specification

section Parts

open Act

variable {β : Type} {setting : Setting} {s s' : Session} {given : String}

/-- What reading a specification comes to. -/
inductive Reads (setting : Setting) (given : String) (s : Session) :
    Except Halt (Option LoadedSpec) → Session → Prop
  | done {spec : LoadedSpec} {s' : Session} (isRead : SpecRead setting s.files given spec)
    (tree : s'.files = s.files) (deeds : s'.deeds = s.deeds ++ [.specRead spec.path]) :
    Reads setting given s (.ok (some spec)) s'
  | unreadable {s' : Session} (unread : Unreadable setting s.files given) (tree : s'.files = s.files)
    (deeds : s'.deeds = s.deeds) : Reads setting given s (.ok none) s'
  /-- No place is named for it. -/
  | unnamed {halt : Halt} (status : halt.status = ExitStatus.internal) (nowhere : placeOf? setting given = none) :
    Reads setting given s (.error halt) s

theorem result_placeOf {path : Path} (named : placeOf? setting given = some path) :
    (placeOf given).result setting s = (.ok path, s) := by
  obtain ⟨home, expands, named⟩ := Option.bind_eq_some_iff.mp named
  obtain ⟨plain, ⟨⟩⟩ := Option.ite_none_left_eq_some.mp named
  unfold placeOf
  rw [result_read_bind, expands]
  dsimp only
  rw [if_neg plain]
  rfl

theorem result_placeOf_of_none (nowhere : placeOf? setting given = none) :
    ∃ halt : Halt, halt.status = ExitStatus.internal ∧ (placeOf given).result setting s = (.error halt, s) := by
  unfold placeOf
  rw [result_read_bind]
  cases expands : (Path.ofText given).expandHome? setting.environment with
  | none => exact ⟨_, status_failed rfl _, rfl⟩
  | some home =>
      have hasNul : home.hasNul := by simpa [placeOf?, expands] using nowhere
      dsimp only
      rw [if_pos hasNul]
      exact ⟨_, status_failed rfl _, rfl⟩

/-- **Reading a specification** changes no files. -/
theorem readOrReport_cases {r : Except Halt (Option LoadedSpec)}
    (does : (readOrReport given).result setting s = (r, s')) : Reads setting given s r s' := by
  unfold readOrReport readSpec at does
  rw [bind_assoc] at does
  cases named : placeOf? setting given with
  | none =>
      obtain ⟨halt, status, halts⟩ := result_placeOf_of_none (s := s) named
      rw [result_bind_of_error halts] at does
      cases does
      exact .unnamed status named
  | some path =>
      rw [result_bind_of_ok (result_placeOf named), bind_assoc, result_get_bind, bind_assoc, result_read_bind] at does
      cases reads : s.files.read setting.directory path with
      | error code =>
          have isText := (Report.gives_canonicalText _).ok (writable_readFailure given (Errno.wording code))
          rw [reads, pure_bind] at does
          dsimp only at does
          rw [result_note_bind, isText, result_written_bind] at does
          cases does
          exact .unreadable ⟨path, code, named, reads⟩ rfl rfl
      | ok content =>
          rw [reads] at does
          cases does
          exact .done ⟨named, content, reads, rfl⟩ rfl rfl

end Parts

/-! ## Writing -/

section Writing

variable (setting : Setting) (store : ReceiptStore)

/-- Writing the receipt of a specification where it belongs. -/
def writtenReceipt (spec : LoadedSpec) (text : String) (files : FileTree) : FileTree × Except StoreFault Path :=
  store.writeValidation setting.directory spec.hash text none files (setting.faults store.receipts)

/-- Making the directory of a run. -/
def madeRun (hash : String) (files : FileTree) : FileTree × Except StoreFault RunWorkspace :=
  match setting.runError with
  | some code => (files, .error (.system store.runs "create run directory" code))
  | none => store.createRun setting.directory hash setting.entropy files

/-- Writing a file of a run. -/
def writtenFile (path : Path) (text : String) (files : FileTree) : FileTree × Except StoreFault Path :=
  ReceiptStore.writeRunFile setting.directory path text files (setting.faults path)

end Writing

section Parts

open Act

variable {setting : Setting} {s s' : Session}

/-- What validating a specification and writing its receipt comes to. -/
inductive Judges (setting : Setting) (spec : LoadedSpec) (store : ReceiptStore) (s : Session) :
    Except Halt (Report × String × Path) → Session → Prop
  /-- It is validated, and its receipt is written. -/
  | done {report : Report} {text : String} {receipt : Path} {s' : Session}
    (validates : validateText spec.text = .ok report) (isText : report.canonicalText = .ok text)
    (writes : writtenReceipt setting store spec text s.files = (s'.files, .ok receipt))
    (deeds : s'.deeds = s.deeds ++ [.validated report.exitCode, .receiptWritten receipt]) :
    Judges setting spec store s (.ok (report, text, receipt)) s'
  /-- It is validated, and its receipt cannot be written. -/
  | unwritten {halt : Halt} {report : Report} {text : String} {fault : StoreFault} {s' : Session}
    (status : halt.status = ExitStatus.internal) (validates : validateText spec.text = .ok report)
    (isText : report.canonicalText = .ok text)
    (fails : writtenReceipt setting store spec text s.files = (s'.files, .error fault))
    (deeds : s'.deeds = s.deeds ++ [.validated report.exitCode]) : Judges setting spec store s (.error halt) s'
  /-- There is no report on it. -/
  | unreported {halt : Halt} {rejection : Report.Rejection} {s' : Session}
    (status : halt.status = ExitStatus.internal) (rejects : validateText spec.text = .error rejection)
    (tree : s'.files = s.files) (deeds : s'.deeds = s.deeds) : Judges setting spec store s (.error halt) s'

theorem validateAndStore_cases {spec : LoadedSpec} {store : ReceiptStore}
    {r : Except Halt (Report × String × Path)}
    (does : (validateAndStore spec store none).result setting s = (r, s')) : Judges setting spec store s r s' := by
  unfold validateAndStore at does
  rw [result_read_bind] at does
  dsimp only [noteParsed] at does
  rw [result_note_bind] at does
  cases validates : validateText spec.text with
  | error rejection =>
      rw [validates] at does
      cases does
      exact .unreported (status_failed rfl _) validates rfl rfl
  | ok report =>
      have isText := (Report.gives_canonicalText report).ok (writable_of_validate validates)
      rw [validates] at does
      dsimp only [noteValidated, outPath] at does
      rw [result_note_bind, isText, result_written_bind, result_did_bind, pure_bind] at does
      rcases result_bind does with ⟨receipt, t, stores, follows⟩ | ⟨halt, fails, rfl⟩
      · cases stored_cases stores with
        | done writes deeds =>
            cases follows
            exact .done validates isText writes (by simp [deeds])
      · cases stored_cases fails with
        | failed status fails deeds => exact .unwritten status validates isText fails deeds

/-- What making the directory of a run comes to. -/
inductive MakesRun (setting : Setting) (store : ReceiptStore) (hash : String) (s : Session) :
    Except Halt RunWorkspace → Session → Prop
  | done {workspace : RunWorkspace} {s' : Session}
    (makes : madeRun setting store hash s.files = (s'.files, .ok workspace))
    (deeds : s'.deeds = s.deeds ++ [.runCreated workspace.path]) : MakesRun setting store hash s (.ok workspace) s'
  | failed {halt : Halt} {fault : StoreFault} {s' : Session} (status : halt.status = ExitStatus.internal)
    (fails : madeRun setting store hash s.files = (s'.files, .error fault)) (deeds : s'.deeds = s.deeds) :
    MakesRun setting store hash s (.error halt) s'

theorem createRun_cases {store : ReceiptStore} {hash : String} {r : Except Halt RunWorkspace}
    (does : (createRun store hash).result setting s = (r, s')) : MakesRun setting store hash s r s' := by
  unfold createRun at does
  rw [result_read_bind] at does
  rcases result_bind does with ⟨workspace, t, makes, follows⟩ | ⟨halt, fails, rfl⟩
  · cases stored_cases makes with
    | done makes deeds =>
        cases follows
        exact .done makes (by simp [deeds])
  · cases stored_cases fails with
    | failed status fails deeds => exact .failed status fails deeds

/-- What writing a file of a run comes to. -/
inductive WritesFile (setting : Setting) (path : Path) (text : String) (s : Session) : Except Halt Unit → Session → Prop
  | done {s' : Session} (writes : writtenFile setting path text s.files = (s'.files, .ok path))
    (deeds : s'.deeds = s.deeds ++ [.fileWritten path]) : WritesFile setting path text s (.ok ()) s'
  | failed {halt : Halt} {fault : StoreFault} {s' : Session} (status : halt.status = ExitStatus.internal)
    (fails : writtenFile setting path text s.files = (s'.files, .error fault)) (deeds : s'.deeds = s.deeds) :
    WritesFile setting path text s (.error halt) s'

theorem writeRunFile_cases {path : Path} {text : String} {r : Except Halt Unit}
    (does : (writeRunFile path text).result setting s = (r, s')) : WritesFile setting path text s r s' := by
  unfold writeRunFile at does
  rw [result_read_bind] at does
  rcases result_bind does with ⟨answer, t, writes, follows⟩ | ⟨halt, fails, rfl⟩
  · cases stored_cases writes with
    | done writes deeds =>
        cases follows
        obtain rfl := ReceiptStore.answer_of_writeFile (congrArg Prod.snd writes)
        exact .done writes (by simp [deeds])
  · cases stored_cases fails with
    | failed status fails deeds => exact .failed status fails deeds

/-- A part of a call that does nothing but write files of a run. -/
def Act.OnlyWrites {α : Type} (act : Act α) (setting : Setting) : Prop :=
  ∀ ⦃s r s'⦄, act.result setting s = (r, s') →
    ∃ after, s'.deeds = s.deeds ++ after ∧ ∀ deed ∈ after, ∃ path, deed = .fileWritten path

namespace Act.OnlyWrites

variable {α β : Type}

theorem bind {act : Act α} {f : α → Act β} (writes : act.OnlyWrites setting)
    (follows : ∀ a, (f a).OnlyWrites setting) : (act >>= f).OnlyWrites setting := by
  intro s r s' does
  rcases result_bind does with ⟨a, t, does, does'⟩ | ⟨halt, halts, rfl⟩
  · obtain ⟨after, deeds, each⟩ := writes does
    obtain ⟨after', deeds', each'⟩ := follows a does'
    refine ⟨after ++ after', by rw [deeds', deeds, List.append_assoc], fun deed here => ?_⟩
    exact (List.mem_append.mp here).elim (each deed) (each' deed)
  · exact writes halts

theorem of_same {act : Act α} (same : ∀ s, (act.result setting s).2.deeds = s.deeds) : act.OnlyWrites setting := by
  intro s r s' does
  have deeds := same s
  rw [does] at deeds
  exact ⟨[], by simpa using deeds, nofun⟩

theorem writeRunFile (path : Path) (text : String) : (Cli.writeRunFile path text).OnlyWrites setting := by
  intro s r s' does
  cases writeRunFile_cases does with
  | done _ deeds => exact ⟨_, deeds, by simp⟩
  | failed _ _ deeds => exact ⟨[], by simpa using deeds, nofun⟩

end Act.OnlyWrites

/-- Handing a command over is one deed, whatever comes of it. -/
theorem deeds_of_launch {command : Launch} {r : Except Halt CommandAnswer}
    (does : (Act.launch command).result setting s = (r, s')) : s'.deeds = s.deeds ++ [.launched command] := by
  unfold Act.launch at does
  rw [result_did_bind, result_read_bind, result_get_bind, result_modify_bind] at does
  dsimp only at does
  cases answers : (setting.launcher none command s.files).1 with
  | ok answer | error failures =>
      rw [answers] at does
      cases does
      rfl

/-- **Starting a command**: it is started once, and after that nothing is done but files are written. -/
theorem launchOn_cases {spec : LoadedSpec} {receipt : Path} {workspace : RunWorkspace} {command : List String}
    {r : Except Halt Nat} (does : (launchOn spec receipt workspace command).result setting s = (r, s')) :
    ∃ launch after, launch.argv = command ∧ s'.deeds = s.deeds ++ .launched launch :: after ∧
      ∀ deed ∈ after, ∃ path, deed = .fileWritten path := by
  unfold launchOn at does
  rw [result_read_bind] at does
  rcases result_bind does with ⟨answer, t, launches, does⟩ | ⟨halt, fails, rfl⟩
  · have started := deeds_of_launch launches
    split at does
    · -- A command that cannot be started writes nothing.
      cases does
      exact ⟨_, [], rfl, started, nofun⟩
    · have logs := (OnlyWrites.writeRunFile _ _).bind (fun _ => (OnlyWrites.writeRunFile _ _).bind fun _ =>
        .of_same fun _ => rfl) does
      obtain ⟨after, deeds, each⟩ := logs
      exact ⟨_, after, rfl, by simpa [started] using deeds, each⟩
  · exact ⟨_, [], rfl, deeds_of_launch fails, nofun⟩

end Parts

end IntentSpec.Cli
