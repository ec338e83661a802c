import IntentSpec.Proofs.Cli.Course

/-!
# Preparing for a command

Running a command falls into preparing for it and starting it.  Preparing for it either gets everything
ready, with a valid specification, its receipt and a run, or there is a reason why no command is started,
and that reason has a status.  It never asks what the programs are.

How far a call has got is recorded by structures that extend each other, each with the values that were found
on the way and the equations that say how.  Reaching the last of them means that every earlier step has
succeeded, so nothing has to be shown about the steps again when a command is started.

A part of a call that comes to an end may have changed the session in what it printed or noted.  The statements
here are about deeds and files, and leave the rest of the session open.

* `Cli.Judged`, `Cli.Approved`, `Cli.Readied` — how far it has been prepared for a command.
* `Cli.Reason` — why no command is started, with the status.
* `Cli.runCommand_eq` — running a command is preparing for it and starting it.
* `Cli.Act.LauncherFree` — what is done whatever the programs are.
* `Cli.prepare_prepared` — what preparing for a command comes to.
-/

namespace IntentSpec.Cli

open Act

/-! ## What a command is started on -/

section Stages

variable (setting : Setting) (files : FileTree) (common : Common) (given : String)

/-- A specification has been read and validated, and its receipt has been written. -/
structure Judged extends Configured setting files common where
  spec : LoadedSpec
  isRead : SpecRead setting files given spec
  report : Report
  /-- It is the report on the specification. -/
  validates : validateText spec.text = .ok report
  text : String
  /-- It is the text of the report. -/
  isText : report.canonicalText = .ok text
  receipt : Path
  withReceipt : FileTree
  writes : writtenReceipt setting store spec text files = (withReceipt, .ok receipt)

/-- A valid specification has been read, and its receipt has been written. -/
structure Approved extends Judged setting files common given where
  valid : report.exitCode = ExitStatus.success

/-- Everything is ready for a command: there is a valid specification with its receipt, and a run that says
where the receipt is. -/
structure Readied extends Approved setting files common given where
  workspace : RunWorkspace
  /-- The files with the directory of the run. -/
  withRun : FileTree
  makes : madeRun setting store spec.hash withReceipt = (withRun, .ok workspace)
  /-- The files when the command is started. -/
  ready : FileTree
  /-- The run says where the receipt is. -/
  points : writtenFile setting workspace.pointer (receipt.text ++ "\n") withRun = (ready, .ok workspace.pointer)

variable {setting files common given}

/-- The deeds until a receipt has been written. -/
def Judged.deeds (j : Judged setting files common given) : List Deed :=
  [.configured, .specRead j.spec.path, .validated j.report.exitCode, .receiptWritten j.receipt]

/-- The deeds until a command is started. -/
def Readied.deeds (r : Readied setting files common given) : List Deed :=
  r.toJudged.deeds ++ [.runCreated r.workspace.path, .fileWritten r.workspace.pointer]

variable (setting files common given)

/-- The store fails. -/
inductive StoreFailure : Prop
  | receipt (c : Configured setting files common) {spec : LoadedSpec} (isRead : SpecRead setting files given spec)
    {report : Report} (validates : validateText spec.text = .ok report) {text : String}
    (isText : report.canonicalText = .ok text) {fault : StoreFault}
    (fails : (writtenReceipt setting c.store spec text files).2 = .error fault)
  /-- The directory of the run cannot be made. -/
  | run (a : Approved setting files common given) {fault : StoreFault}
    (fails : (madeRun setting a.store a.spec.hash a.withReceipt).2 = .error fault)
  /-- The run cannot say where the receipt is. -/
  | pointer (a : Approved setting files common given) {workspace : RunWorkspace} {withRun : FileTree}
    (makes : madeRun setting a.store a.spec.hash a.withReceipt = (withRun, .ok workspace)) {fault : StoreFault}
    (fails : (writtenFile setting workspace.pointer (a.receipt.text ++ "\n") withRun).2 = .error fault)

/-- Something fails that is neither the configuration nor the specification nor the store. -/
inductive Unforeseen : Prop
  | configuration (lacking : Unconfigured setting files common)
  /-- The words do not name a place for the specification. -/
  | place (c : Configured setting files common) (unnamed : placeOf? setting given = none)
  /-- There is no report on the specification. -/
  | report (c : Configured setting files common) {spec : LoadedSpec} (isRead : SpecRead setting files given spec)
    {rejection : Report.Rejection} (rejects : validateText spec.text = .error rejection)

end Stages

/-- What a command is started on. -/
structure Preparation where
  spec : LoadedSpec
  receipt : Path
  workspace : RunWorkspace

/-- Makes a run that says where the receipt of a specification is. -/
def readyRun (store : ReceiptStore) (spec : LoadedSpec) (receipt : Path) : Act (Except Nat Preparation) := do
  let workspace ← createRun store spec.hash
  writeRunFile workspace.pointer (receipt.text ++ "\n")
  return .ok ⟨spec, receipt, workspace⟩

/-- Reads a specification, writes its receipt, and makes a run if it is valid. -/
def judge (store : ReceiptStore) (given : String) : Act (Except Nat Preparation) := do
  match ← readOrReport given with
  | none => return .error ExitStatus.rejected
  | some spec =>
    let (report, _, receipt) ← validateAndStore spec store none
    Act.print receipt.text
    if report.exitCode ≠ ExitStatus.success then return .error report.exitCode
    readyRun store spec receipt

/-- What is done before a command is started: the status, if none is to be started. -/
def prepare (common : Common) (given : String) (command : List String) : Act (Except Nat Preparation) := do
  if command.isEmpty then Act.refuse "run requires a command after --" ExitStatus.rejected
  judge (← storeOf (← configure common)) given

/-- Starts a command on what has been prepared. -/
def start (command : List String) : Except Nat Preparation → Act Nat
  | .error status => pure status
  | .ok p => launchOn p.spec p.receipt p.workspace command

/-- **Running a command is preparing for it and starting it.** The two halves are those of the run
itself, cut where the programs come into it for the first time. -/
theorem runCommand_eq (common : Common) (given : String) (words : List String) :
    runCommand common given words = prepare common given (commandOf words) >>= start (commandOf words) := by
  -- They part only where a status is answered, which is carried past the start.
  unfold runCommand prepare judge readyRun
  dsimp only
  split
  · rfl
  · simp only [bind_assoc]
    refine bind_congr fun config => bind_congr fun store => bind_congr fun answer => ?_
    cases answer with
    | none => rfl
    | some spec =>
        dsimp only
        rw [bind_assoc]
        refine bind_congr fun judged => ?_
        obtain ⟨report, text, receipt⟩ := judged
        dsimp only
        rw [bind_assoc]
        refine bind_congr fun _ => ?_
        split
        · rfl
        · simp only [bind_assoc]
          rfl

/-! ## Programs -/

/-- A part of a call that does the same whatever the programs are. -/
def Act.LauncherFree {α : Type} (act : Act α) : Prop :=
  ∀ (setting : Setting) (launcher : Launcher), act.result { setting with launcher } = act.result setting

namespace Act.LauncherFree

variable {α β : Type}

theorem bind {act : Act α} {f : α → Act β} (first : act.LauncherFree) (follows : ∀ a, (f a).LauncherFree) :
    (act >>= f).LauncherFree := by
  intro setting launcher
  funext s
  cases does : act.result setting s with
  | mk answer t =>
      have does' : act.result { setting with launcher } s = (answer, t) := by rw [first, does]
      cases answer with
      | error halt => rw [result_bind_of_error does, result_bind_of_error does']
      | ok a => rw [result_bind_of_ok does, result_bind_of_ok does', follows]

theorem read_bind {f : Setting → Act β} (same : ∀ setting launcher, f { setting with launcher } = f setting)
    (follows : ∀ setting, (f setting).LauncherFree) : (read >>= f : Act β).LauncherFree := by
  intro setting launcher
  funext s
  rw [result_read_bind, result_read_bind, same, follows]

theorem get_bind {f : Session → Act β} (follows : ∀ s, (f s).LauncherFree) : (get >>= f : Act β).LauncherFree := by
  intro setting launcher
  funext s
  rw [result_get_bind, result_get_bind, follows]

theorem configure (common : Common) : (Cli.configure common).LauncherFree := by
  unfold Cli.configure
  refine read_bind (fun _ _ => rfl) fun setting => get_bind fun s => ?_
  split
  all_goals first
    | exact fun _ _ => rfl
    | split <;> exact fun _ _ => rfl

theorem storedPath (config : Datum) (key : String) : (Cli.storedPath config key).LauncherFree := by
  unfold Cli.storedPath
  split <;> exact fun _ _ => rfl

theorem storeOf (config : Datum) : (Cli.storeOf config).LauncherFree := by
  unfold Cli.storeOf
  refine (storedPath _ _).bind fun _ => (storedPath _ _).bind fun _ => (storedPath _ _).bind fun _ => ?_
  refine read_bind (fun _ _ => rfl) fun setting => ?_
  split <;> exact fun _ _ => rfl

theorem placeOf (given : String) : (Cli.placeOf given).LauncherFree := by
  unfold Cli.placeOf
  refine read_bind (fun _ _ => rfl) fun setting => ?_
  split
  · exact fun _ _ => rfl
  · split <;> exact fun _ _ => rfl

theorem written (text : Except Text.NumeralError String) : (Act.written text).LauncherFree := by
  cases text <;> exact fun _ _ => rfl

theorem readOrReport (given : String) : (Cli.readOrReport given).LauncherFree := by
  unfold Cli.readOrReport readSpec
  refine bind ?_ fun answer => ?_
  · refine (placeOf given).bind fun path => get_bind fun s => read_bind (fun _ _ => rfl) fun setting => ?_
    split <;> exact fun _ _ => rfl
  · split
    · exact fun _ _ => rfl
    · exact bind (fun _ _ => rfl) fun _ => (written _).bind fun _ _ _ => rfl

theorem stored (act : FileTree → FileTree × Except StoreFault α) : (Act.stored act).LauncherFree := by
  unfold Act.stored
  refine get_bind fun s => ?_
  obtain ⟨files, answer⟩ := act s.files
  rcases answer with fault | a
  · cases fault <;> exact fun _ _ => rfl
  · exact fun _ _ => rfl

theorem validateAndStore (spec : LoadedSpec) (store : ReceiptStore) :
    (Cli.validateAndStore spec store none).LauncherFree := by
  unfold Cli.validateAndStore
  refine read_bind (fun _ _ => rfl) fun setting => bind (fun _ _ => rfl) fun _ => ?_
  split
  · exact fun _ _ => rfl
  · refine bind (fun _ _ => rfl) fun _ => (written _).bind fun _ => ?_
    refine bind (fun _ _ => rfl) fun _ => bind (fun _ _ => rfl) fun _ => ?_
    exact (stored _).bind fun _ _ _ => rfl

theorem createRun (store : ReceiptStore) (hash : String) : (Cli.createRun store hash).LauncherFree := by
  unfold Cli.createRun
  exact read_bind (fun _ _ => rfl) fun setting => (stored _).bind fun _ _ _ => rfl

theorem writeRunFile (path : Path) (text : String) : (Cli.writeRunFile path text).LauncherFree := by
  unfold Cli.writeRunFile
  exact read_bind (fun _ _ => rfl) fun setting => (stored _).bind fun _ _ _ => rfl

theorem judge (store : ReceiptStore) (given : String) : (Cli.judge store given).LauncherFree := by
  unfold Cli.judge readyRun
  refine (readOrReport given).bind fun answer => ?_
  split
  · exact fun _ _ => rfl
  · refine (validateAndStore _ _).bind fun judged => bind (fun _ _ => rfl) fun _ => ?_
    split
    · exact fun _ _ => rfl
    · exact (createRun _ _).bind fun _ => (writeRunFile _ _).bind fun _ _ _ => rfl

theorem prepare (common : Common) (given : String) (command : List String) :
    (Cli.prepare common given command).LauncherFree := by
  unfold Cli.prepare
  dsimp only
  split
  · exact fun _ _ => rfl
  · exact (configure common).bind fun config => (storeOf config).bind fun store => judge store given

end Act.LauncherFree

/-! ## Preparing for a command -/

section Prepare

variable (setting : Setting) (files : FileTree) (common : Common) (given : String)

/-- Why no command is started though there is one, with the status. -/
inductive Reason : Nat → Prop
  | misconfigured (faulty : Misconfigured setting files common) : Reason ExitStatus.configuration
  | unreadable (c : Configured setting files common) (unread : Unreadable setting files given) :
    Reason ExitStatus.rejected
  /-- The specification is invalid, or it cannot be decided whether it is valid. -/
  | verdict (j : Judged setting files common given)
    (other : j.report.exitCode = ExitStatus.rejected ∨ j.report.exitCode = ExitStatus.undecidable) :
    Reason j.report.exitCode
  | store (fails : StoreFailure setting files common given) : Reason ExitStatus.internal
  | unforeseen (fails : Unforeseen setting files common given) : Reason ExitStatus.internal

/-- No command has been started, and no run has been made but for a valid specification whose receipt has
been written: apart from that receipt the files are as they were. -/
structure Unstarted (s : Session) : Prop where
  launchless : ∀ launch, .launched launch ∉ s.deeds
  /-- A run has been made for a valid specification, or none has been made. -/
  runs : (∃ a : Approved setting files common given, a.deeds <+: s.deeds) ∨
    (∀ path, .runCreated path ∉ s.deeds) ∧
      (s.files = files ∨ ∃ store spec text, s.files = (writtenReceipt setting store spec text files).1)

/-- What preparing for a command comes to: everything is ready, or no command is started. -/
inductive Prepared : Except Halt (Except Nat Preparation) → Session → Prop
  | ready (r : Readied setting files common given) {s : Session} (deeds : s.deeds = r.deeds) :
    Prepared (.ok (.ok ⟨r.spec, r.receipt, r.workspace⟩)) s
  /-- The call ends with a status. -/
  | ended {status : Nat} {s : Session} (reason : Reason setting files common given status)
    (unstarted : Unstarted setting files common given s) : Prepared (.ok (.error status)) s
  | halted {halt : Halt} {s : Session} (reason : Reason setting files common given halt.status)
    (unstarted : Unstarted setting files common given s) : Prepared (.error halt) s

variable {setting files common given} {s s' : Session} {r : Except Halt (Except Nat Preparation)}

/-- Nothing but the receipt has been written. -/
theorem Unstarted.of_runless (deeds : (∀ launch, .launched launch ∉ s.deeds) ∧ ∀ path, .runCreated path ∉ s.deeds)
    (tree : s.files = files ∨ ∃ store spec text, s.files = (writtenReceipt setting store spec text files).1) :
    Unstarted setting files common given s :=
  ⟨deeds.1, .inr ⟨deeds.2, tree⟩⟩

/-- What has been approved stays so until a command is started. -/
theorem Unstarted.of_approved (a : Approved setting files common given) (deeds : a.deeds <+: s.deeds)
    (launchless : ∀ launch, .launched launch ∉ s.deeds) : Unstarted setting files common given s :=
  ⟨launchless, .inl ⟨a, deeds⟩⟩

theorem exitCode_of_ne_success {report : Report} (other : report.exitCode ≠ ExitStatus.success) :
    report.exitCode = ExitStatus.rejected ∨ report.exitCode = ExitStatus.undecidable := by
  revert other
  unfold Report.exitCode
  cases report.verdict <;> decide

theorem readyRun_prepared (a : Approved setting files common given) (tree : s.files = a.withReceipt)
    (deeds : s.deeds = a.deeds) (does : (readyRun a.store a.spec a.receipt).result setting s = (r, s')) :
    Prepared setting files common given r s' := by
  unfold readyRun at does
  rcases result_bind does with ⟨workspace, t, makes, follows⟩ | ⟨halt, fails, rfl⟩
  · cases createRun_cases makes with
    | done makes deeds' =>
        rw [tree] at makes
        rw [deeds] at deeds'
        rcases result_bind follows with ⟨_, u, points, follows⟩ | ⟨halt, fails, rfl⟩
        · cases writeRunFile_cases points with
          | done points deeds'' =>
              cases follows
              refine .ready { a with workspace, withRun := _, makes, ready := _, points } ?_
              rw [deeds'', deeds', List.append_assoc]
              rfl
        · cases writeRunFile_cases fails with
          | failed status fails deeds'' =>
              rw [deeds'] at deeds''
              exact .halted (status ▸ .store (.pointer a makes (congrArg Prod.snd fails)))
                (.of_approved a (deeds'' ▸ List.prefix_append _ _) (by simp [deeds'', Judged.deeds]))
  · cases createRun_cases fails with
    | failed status fails deeds' =>
        rw [tree] at fails
        rw [deeds] at deeds'
        exact .halted (status ▸ .store (.run a (congrArg Prod.snd fails)))
          (.of_approved a (deeds' ▸ List.prefix_rfl) (by simp [deeds', Judged.deeds]))

theorem judge_prepared (c : Configured setting files common) (tree : s.files = files) (deeds : s.deeds = [.configured])
    (does : (judge c.store given).result setting s = (r, s')) : Prepared setting files common given r s' := by
  unfold judge at does
  -- Nothing has been written yet, so the files that are read are those that the stages speak of.
  subst tree
  rcases result_bind does with ⟨answer, t, reads, follows⟩ | ⟨halt, fails, rfl⟩
  · cases readOrReport_cases reads with
    | @done spec _ isRead tree deeds' =>
        rw [deeds] at deeds'
        rcases result_bind follows with ⟨judged, u, judges, follows⟩ | ⟨halt, fails, rfl⟩
        · cases validateAndStore_cases judges with
          | @done report text receipt _ validates isText writes deeds'' =>
              rw [tree] at writes
              rw [deeds'] at deeds''
              rw [result_print_bind] at follows
              split at follows
              next other =>
                cases follows
                exact .ended
                  (.verdict { c with spec, isRead, report, validates, text, isText, receipt, withReceipt := _, writes }
                    (exitCode_of_ne_success other))
                  (.of_runless (by simp [deeds'']) (.inr ⟨_, _, _, congrArg Prod.fst writes.symm⟩))
              next valid =>
                refine readyRun_prepared
                  { c with spec, isRead, report, validates, text, isText, receipt, withReceipt := _, writes,
                           valid := not_not.mp valid } ?_ ?_ follows
                · rfl
                · exact deeds''
        · cases validateAndStore_cases fails with
          | unwritten status validates isText fails deeds'' =>
              rw [tree] at fails
              exact .halted (status ▸ .store (.receipt c isRead validates isText (congrArg Prod.snd fails)))
                (.of_runless (by simp [deeds'', deeds']) (.inr ⟨_, _, _, congrArg Prod.fst fails.symm⟩))
          | unreported status rejects tree' deeds'' =>
              exact .halted (status ▸ .unforeseen (.report c isRead rejects))
                (.of_runless (by simp [deeds'', deeds']) (.inl (tree'.trans tree)))
    | unreadable unread tree deeds' =>
        cases follows
        exact .ended (.unreadable c unread) (.of_runless (by simp [deeds', deeds]) (.inl tree))
  · cases readOrReport_cases fails with
    | unnamed status nowhere =>
        exact .halted (status ▸ .unforeseen (.place c nowhere)) (.of_runless (by simp [deeds]) (.inl rfl))

/-- **Preparing for a command**: everything is ready, or there is a reason why no command is
started. In either case it is known what has been done to the files. -/
theorem prepare_prepared {command : List String} (some_ : command ≠ [])
    (does : (prepare common given command).result setting { files } = (r, s')) :
    Prepared setting files common given r s' := by
  unfold prepare at does
  dsimp only at does
  rw [if_neg (by simpa using some_)] at does
  rcases result_bind does with ⟨config, t, configures, follows⟩ | ⟨halt, fails, rfl⟩
  · cases configure_cases configures with
    | done loads tree deeds =>
        rcases result_bind follows with ⟨store, u, opens, follows⟩ | ⟨halt, fails, rfl⟩
        · cases storeOf_cases loads opens with
          | done c => exact judge_prepared c tree deeds follows
        · cases storeOf_cases loads fails with
          | misconfigured status faulty =>
              exact .halted (status ▸ .misconfigured faulty) (.of_runless (by simp [deeds]) (.inl tree))
          | unconfigured status lacking =>
              exact .halted (status ▸ .unforeseen (.configuration lacking))
                (.of_runless (by simp [deeds]) (.inl tree))
  · cases configure_cases fails with
    | misconfigured status faulty =>
        exact .halted (status ▸ .misconfigured faulty) (.of_runless (by simp) (.inl rfl))
    | unconfigured status lacking =>
        exact .halted (status ▸ .unforeseen (.configuration lacking)) (.of_runless (by simp) (.inl rfl))

end Prepare

end IntentSpec.Cli
