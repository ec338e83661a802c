import IntentSpec.Proofs.Cli.Preparation
import Mathlib.Data.List.Basic

/-!
# A command is only started when everything is ready for it

Whatever the words of a run are, and whatever it meets with: a command is started at most once, and before
that the configuration has been loaded, the specification has been read and found valid, its receipt has
been written, and a run has been made that says where the receipt is.  A call that starts no command does
the same whatever the programs are, and its exit status says why no command has been started.

* `Cli.read_run` — where the first word asks for a run, nothing else is asked.
* `Cli.Readied.stands` — what the files hold when a command is started.
* `Cli.Guarded`, `Cli.call_run` — what is done before a command is started, and what otherwise.
-/

namespace IntentSpec.Cli

open Act FileTree ReceiptStore Text

/-! ## The words of a run -/

/-- The word that asks for a run. -/
def runWord : String := "run"

theorem tokens_run {words : List String} {tokens : List Token}
    (splits : Invocation.grammar.tokens (runWord :: words) = .ok tokens) :
    ∃ rest, tokens = .plain runWord :: rest := by
  have isPlain : Invocation.grammar.token runWord = .ok (.plain runWord) := by decide +kernel
  rw [Grammar.tokens, if_neg (by decide), isPlain] at splits
  obtain ⟨token, ⟨⟩, splits⟩ := (bind_eq_ok_iff _ _ _).mp splits
  obtain ⟨rest, -, same⟩ := (bind_eq_ok_iff _ _ _).mp splits
  exact ⟨rest, (Except.ok.inj same).symm⟩

/-- All words from the first one on that is no option belong to what is asked. -/
theorem readFrom_plain (fuel : Nat) (word : String) (tokens : List Token) :
    Invocation.grammar.readFrom (fuel + 2) Invocation.grammar.operands (.plain word :: tokens) {} =
      .ok { values := [("command", .words (word :: tokens.map Token.word))] } := by
  unfold Grammar.readFrom
  split <;> rfl

theorem grammar_read_run {words : List String} {r : Reading}
    (reads : Invocation.grammar.read (runWord :: words) = .ok r) : ∃ rest, r.words "command" = runWord :: rest := by
  unfold Grammar.read at reads
  cases splits : Invocation.grammar.tokens (runWord :: words) with
  | error fault =>
      rw [splits] at reads
      cases reads
  | ok tokens =>
      obtain ⟨rest, rfl⟩ := tokens_run splits
      rw [splits] at reads
      dsimp only [List.length_cons] at reads
      rw [readFrom_plain] at reads
      obtain rfl := Except.ok.inj reads
      exact ⟨rest.map Token.word, by simp [Reading.words, Reading.all]⟩

/-- **Where the first word asks for a run, nothing else is asked.** -/
theorem read_run {words : List String} {invocation : Invocation}
    (reads : Invocation.read (runWord :: words) = .ok invocation) :
    ∃ common given command, invocation = .run common given command := by
  obtain ⟨outer, outerReads, reads⟩ := (bind_eq_ok_iff _ _ _).mp reads
  obtain ⟨rest, asked⟩ := grammar_read_run outerReads
  dsimp only at reads
  rw [asked] at reads
  obtain ⟨inner, -, reads⟩ := (bind_eq_ok_iff _ _ _).mp reads
  split at reads
  · exact ⟨_, _, _, (Except.ok.inj reads).symm⟩
  · cases reads

/-! ## The files when a command is started -/

section Files

variable {setting : Setting} {files : FileTree} {common : Common} {given : String}

/-- The receipt holds the report, and the run says where the receipt is. -/
structure Readied.Stands (r : Readied setting files common given) : Prop where
  receipt : r.ready.read setting.directory r.receipt = .ok (receiptBytes r.text)
  /-- The run says where the receipt is. -/
  pointer : r.ready.read setting.directory r.workspace.pointer = .ok (Utf8.encode (r.receipt.text ++ "\n"))

theorem holds_of_writtenReceipt {store : ReceiptStore} {spec : LoadedSpec} {text : String} {receipt : Path}
    {files' : FileTree} (writes : writtenReceipt setting store spec text files = (files', .ok receipt)) :
    IsHash spec.hash ∧ receipt = store.place .validation spec.hash ∧
      store.Stores setting.directory files' .validation spec.hash (some (receiptBytes text)) := by
  by_cases isHash : IsHash spec.hash
  · unfold writtenReceipt writeValidation at writes
    rw [validationPath_eq store isHash] at writes
    obtain ⟨same, holds⟩ := holds_of_writeFile (congrArg Prod.snd writes)
    refine ⟨isHash, same, ?_⟩
    have tree : files' = _ := (congrArg Prod.fst writes).symm
    rw [tree]
    exact holds
  · unfold writtenReceipt writeValidation at writes
    rw [validationPath_of_not store isHash] at writes
    cases writes

theorem extends_of_madeRun {store : ReceiptStore} {hash : String} {workspace : RunWorkspace} {files' : FileTree}
    (makes : madeRun setting store hash files = (files', .ok workspace)) : files.Extends files' := by
  unfold madeRun at makes
  split at makes
  · cases makes
  · unfold ReceiptStore.createRun at makes
    split at makes
    · cases makes
    next id _ =>
      dsimp only at makes
      split at makes
      · cases makes
      · have extends_ := makeDirectories_extends files setting.directory (store.runs.child id)
        split at makes
        next tree made =>
          cases makes
          rw [made] at extends_
          exact extends_
        next => cases makes

/-- The place of the file that says where a receipt is. -/
theorem placeOf_pointer (directory : Path) (w : RunWorkspace) :
    FileTree.placeOf directory w.pointer = FileTree.placeOf directory w.path ++ ["receipt.path"] :=
  placeOf_child_of_name (Path.child_of_name (by decide) (by decide) (by decide) _) (by decide) directory

theorem pointer_apart {hash : String} (isHash : IsHash hash) (directory receipts : Path) (w : RunWorkspace) :
    FileTree.placeOf directory receipts ++ [hash ++ ReceiptKind.validation.ending] ≠
      FileTree.placeOf directory w.pointer := by
  rw [placeOf_pointer]
  intro same
  have names : hash ++ ReceiptKind.validation.ending = "receipt.path" :=
    List.singleton_inj.mp (List.append_inj_right' same rfl)
  obtain ⟨c, rest, begins, digit⟩ := (ReceiptKind.validation.receiptName isHash).exists_first
  rw [names] at begins
  obtain rfl : 'r' = c := (List.cons.inj begins).1
  revert digit
  decide

/-- **When a command is started, the receipt holds the report, and the run says where the receipt is.** -/
theorem Readied.stands (r : Readied setting files common given) : r.Stands := by
  obtain ⟨isHash, isReceipt, stores⟩ := holds_of_writtenReceipt r.writes
  have made := extends_of_madeRun r.makes
  have storesRun : r.store.Stores setting.directory r.withRun .validation r.spec.hash
      (some (receiptBytes r.text)) :=
    Holds.of_keeps stores made.keeps fun _ isFile => made.file_iff _ isFile
  have tree : (writtenFile setting r.workspace.pointer (r.receipt.text ++ "\n") r.withRun).1 = r.ready :=
    congrArg Prod.fst r.points
  refine ⟨?_, ?_⟩
  · -- The file of the run stands neither where the receipt does nor beside it.
    have kept : r.store.Stores setting.directory
        (writtenFile setting r.workspace.pointer (r.receipt.text ++ "\n") r.withRun).1 .validation r.spec.hash _ :=
      storesRun.of_apart isHash (pointer_apart isHash _ _ _)
    rw [tree] at kept
    rw [isReceipt]
    exact Holds.read kept
  · have holds := (holds_of_writeFile (congrArg Prod.snd r.points)).2
    rw [← tree]
    exact holds.read

end Files

/-! ## Calls -/

/-- The command that a deed starts. -/
def Deed.launch? : Deed → Option Launch
  | launched command => some command
  | _ => none

/-- The commands that a call has started. -/
def Outcome.launches (o : Outcome) : List Launch := o.session.deeds.filterMap Deed.launch?

section Calls

variable (setting : Setting) (files : FileTree) (words : List String)

/-- Why a call that asks for a run starts no command, with the exit status. -/
inductive Withheld : Nat → Prop
  | help (asked : Invocation.read words = .error .help) : Withheld ExitStatus.success
  | usage {program : String} {fault : UsageFault} (misread : Invocation.read words = .error (.usage program fault)) :
    Withheld ExitStatus.rejected
  | commandless {common : Common} {given : String} {command : List String}
    (asked : Invocation.read words = .ok (.run common given command)) (missing : commandOf command = []) :
    Withheld ExitStatus.rejected
  /-- There is a reason for it in what the call meets with. -/
  | reason {common : Common} {given : String} {command : List String} {status : Nat}
    (asked : Invocation.read words = .ok (.run common given command))
    (reason : Reason setting files common given status) : Withheld status

/-- A command is only started when everything is ready for it, and otherwise the exit status says why. -/
structure Guarded (o : Outcome) : Prop where
  /-- A command is started once at most. -/
  once : o.launches.length ≤ 1
  /-- Before a command is started, the configuration has been loaded, a specification has been read and
  found valid, its receipt has been written, and a run has been made that says where the receipt is. -/
  readied : ∀ before launch after, o.session.deeds = before ++ .launched launch :: after →
    ∃ common given command, Invocation.read words = .ok (.run common given command) ∧
      launch.argv = commandOf command ∧ ∃ r : Readied setting files common given, before = r.deeds ∧ r.Stands
  /-- If no command is started, the exit status says why. -/
  withheld : o.launches = [] → Withheld setting files words o.status
  /-- If no command is started, it does not matter what the programs are. -/
  alone : o.launches = [] → ∀ launcher, call { setting with launcher } files words = o
  /-- A run is only made for a valid specification whose receipt has been written; otherwise the files are
  as they were, apart from what writing the receipt has done. -/
  runs : (∃ common given command, Invocation.read words = .ok (.run common given command) ∧
      ∃ a : Approved setting files common given, a.deeds <+: o.session.deeds) ∨
    (∀ path, .runCreated path ∉ o.session.deeds) ∧
      (o.session.files = files ∨
        ∃ store spec text, o.session.files = (writtenReceipt setting store spec text files).1)

end Calls

section Outcomes

variable {setting : Setting} {files : FileTree} {words : List String} {s : Session}
variable {common : Common} {given : String} {command : List String}

/-- The reasons for starting no command have statuses of their own. -/
theorem Reason.le {status : Nat} (reason : Reason setting files common given status) : status ≤ 255 := by
  cases reason with
  | verdict j other => rcases other with other | other <;> rw [other] <;> decide
  | _ => decide

theorem session_ofResult (result : Except Halt Nat) (s : Session) :
    (Outcome.ofResult result s).session.deeds = s.deeds ∧ (Outcome.ofResult result s).session.files = s.files := by
  unfold Outcome.ofResult
  dsimp only
  split <;> exact ⟨rfl, rfl⟩

theorem status_ofResult_error (halt : Halt) (s : Session) :
    (Outcome.ofResult (.error halt) s).status = halt.status := by
  cases halt <;> rfl

theorem status_ofResult_ok {status : Nat} (small : status ≤ 255) :
    (Outcome.ofResult (.ok status) s).status = status := by
  show (if (0 : Int) ≤ status ∧ (status : Int) ≤ 255 then (status : Int).toNat else ExitStatus.internal) = status
  rw [if_pos (by omega), Int.toNat_natCast]

theorem call_of_run (asked : Invocation.read words = .ok (.run common given command)) :
    call setting files words = .ofResult ((runCommand common given command).result setting { files }).1
      ((runCommand common given command).result setting { files }).2 := by
  unfold call
  rw [asked]
  rfl

theorem filterMap_launch_eq_nil {deeds : List Deed} (launchless : ∀ launch, .launched launch ∉ deeds) :
    deeds.filterMap Deed.launch? = [] := by
  refine List.filterMap_eq_nil_iff.mpr fun deed here => ?_
  cases deed with
  | launched launch => exact absurd here (launchless launch)
  | _ => rfl

/-- What is known of a call that starts no command. -/
theorem Guarded.of_launchless {o : Outcome} (launchless : ∀ launch, .launched launch ∉ o.session.deeds)
    (withheld : Withheld setting files words o.status) (alone : ∀ launcher, call { setting with launcher } files words = o)
    (runs : (∃ common given command, Invocation.read words = .ok (.run common given command) ∧
        ∃ a : Approved setting files common given, a.deeds <+: o.session.deeds) ∨
      (∀ path, .runCreated path ∉ o.session.deeds) ∧
        (o.session.files = files ∨
          ∃ store spec text, o.session.files = (writtenReceipt setting store spec text files).1)) :
    Guarded setting files words o where
  once := by simp [Outcome.launches, filterMap_launch_eq_nil launchless]
  readied := fun before launch after deeds => absurd (by simp [deeds]) (launchless launch)
  withheld := fun _ => withheld
  alone := fun _ => alone
  runs := runs

/-- A run for which no command is started, whatever the programs are. -/
theorem guarded_of_unstarted (asked : Invocation.read words = .ok (.run common given command))
    {result : Except Halt Nat}
    (does : ∀ launcher, (runCommand common given command).result { setting with launcher } { files } = (result, s))
    (withheld : Withheld setting files words (Outcome.ofResult result s).status)
    (unstarted : Unstarted setting files common given s) : Guarded setting files words (call setting files words) := by
  have calls (launcher : Launcher) : call { setting with launcher } files words = .ofResult result s := by
    rw [call_of_run asked, does launcher]
  have calls' : call setting files words = .ofResult result s := calls setting.launcher
  obtain ⟨deeds, tree⟩ := session_ofResult result s
  rw [calls']
  refine .of_launchless (deeds ▸ unstarted.launchless) withheld calls ?_
  rw [deeds, tree]
  exact unstarted.runs.imp_left fun approved => ⟨_, _, _, asked, approved⟩

theorem guarded_of_readied (asked : Invocation.read words = .ok (.run common given command))
    (r : Readied setting files common given) {result : Except Halt Nat} {launch : Launch} {after : List Deed}
    (does : (runCommand common given command).result setting { files } = (result, s))
    (isCommand : launch.argv = commandOf command)
    (deeds : s.deeds = r.deeds ++ .launched launch :: after)
    (each : ∀ deed ∈ after, ∃ path, deed = .fileWritten path) :
    Guarded setting files words (call setting files words) := by
  have deeds' : (call setting files words).session.deeds = r.deeds ++ .launched launch :: after := by
    rw [call_of_run asked, does, (session_ofResult result s).1, deeds]
  -- No command is started before or after, so there is no other place for the start among the deeds.
  have early (launch : Launch) : .launched launch ∉ r.deeds := by simp [Readied.deeds, Judged.deeds]
  have late (launch : Launch) : .launched launch ∉ after := by
    intro here
    obtain ⟨path, ⟨⟩⟩ := each _ here
  have launches : (call setting files words).launches = [launch] := by
    have front : r.deeds.filterMap Deed.launch? = [] := filterMap_launch_eq_nil early
    have back : after.filterMap Deed.launch? = [] := filterMap_launch_eq_nil late
    rw [Outcome.launches, deeds', List.filterMap_append, front, List.filterMap_cons, back]
    rfl
  refine ⟨?once, ?readied, ?withheld, ?alone, ?runs⟩
  case once => simp [launches]
  case readied =>
    intro before launch' after' deeds''
    rw [deeds'] at deeds''
    obtain ⟨rfl, same, -⟩ := (List.append_cons_inj_of_notMem (early launch') (late launch')).mp deeds''
    cases same
    exact ⟨_, _, _, asked, isCommand, r, rfl, r.stands⟩
  case withheld => simp [launches]
  case alone => simp [launches]
  case runs =>
    refine .inl ⟨_, _, _, asked, r.toApproved, ?_⟩
    rw [deeds', Readied.deeds, List.append_assoc]
    exact List.prefix_append _ _

theorem guarded_of_commandless (asked : Invocation.read words = .ok (.run common given command))
    (missing : commandOf command = []) : Guarded setting files words (call setting files words) := by
  have does (launcher : Launcher) : (runCommand common given command).result { setting with launcher } { files } =
      (.error (.refused "run requires a command after --" ExitStatus.rejected), { files }) := by
    rw [runCommand_eq, missing]
    rfl
  exact guarded_of_unstarted asked does (.commandless asked missing) (.of_runless (by simp) (.inl rfl))

theorem guarded_of_command (asked : Invocation.read words = .ok (.run common given command))
    (some_ : commandOf command ≠ []) : Guarded setting files words (call setting files words) := by
  cases prepares : (prepare common given (commandOf command)).result setting { files } with
  | mk r s =>
      -- Preparing does not ask for the programs, so whatever they are it comes to the same.
      have prepares' (launcher : Launcher) :
          (prepare common given (commandOf command)).result { setting with launcher } { files } = (r, s) := by
        rw [LauncherFree.prepare, prepares]
      cases prepare_prepared some_ prepares with
      | ready ready deeds =>
          cases does : (runCommand common given command).result setting { files } with
          | mk result s' =>
              have launches : (launchOn ready.spec ready.receipt ready.workspace (commandOf command)).result setting s =
                  (result, s') := by
                rw [← does, runCommand_eq, result_bind_of_ok prepares]
                rfl
              obtain ⟨launch, after, isCommand, deeds', each⟩ := launchOn_cases launches
              exact guarded_of_readied asked ready does isCommand (deeds ▸ deeds') each
      | @ended status _ reason unstarted =>
          have does (launcher : Launcher) :
              (runCommand common given command).result { setting with launcher } { files } = (.ok status, s) := by
            rw [runCommand_eq, result_bind_of_ok (prepares' launcher)]
            rfl
          refine guarded_of_unstarted asked does ?_ unstarted
          rw [status_ofResult_ok reason.le]
          exact .reason asked reason
      | @halted halt _ reason unstarted =>
          have does (launcher : Launcher) :
              (runCommand common given command).result { setting with launcher } { files } = (.error halt, s) := by
            rw [runCommand_eq, result_bind_of_error (prepares' launcher)]
          refine guarded_of_unstarted asked does ?_ unstarted
          rw [status_ofResult_error]
          exact .reason asked reason

theorem guarded_of_stop {stop : Stop} (asked : Invocation.read words = .error stop) :
    Guarded setting files words (call setting files words) := by
  cases stop with
  | help =>
      have calls (setting : Setting) : call setting files words =
          { status := ExitStatus.success, help := true, session := { files } } := by
        unfold call
        rw [asked]
      rw [calls]
      exact .of_launchless (by simp) (.help asked) (fun _ => calls _) (.inr ⟨by simp, .inl rfl⟩)
  | usage program fault =>
      have calls (setting : Setting) : call setting files words =
          { status := ExitStatus.rejected
            session := { files, reported := [errorLine (program ++ ": " ++ fault.message)] } } := by
        unfold call
        rw [asked]
      rw [calls]
      exact .of_launchless (by simp) (.usage asked) (fun _ => calls _) (.inr ⟨by simp, .inl rfl⟩)

end Outcomes

/-- **A command is only started when everything is ready for it.** In any call for a run it is
started once at most, and by then the configuration has been loaded, the specification has been read
and found valid, its receipt has been written, and a run has been made that says where the receipt
is. If no command is started, the exit status says why, and it does not matter what the programs
are. -/
theorem call_run (setting : Setting) (files : FileTree) (words : List String) :
    Guarded setting files (runWord :: words) (call setting files (runWord :: words)) := by
  cases asked : Invocation.read (runWord :: words) with
  | error stop => exact guarded_of_stop asked
  | ok invocation =>
      obtain ⟨common, given, command, rfl⟩ := read_run asked
      by_cases missing : commandOf command = []
      · exact guarded_of_commandless asked missing
      · exact guarded_of_command asked missing

/-- A call from a directory that is the home directory, too, where every program succeeds and does nothing. -/
def homeSetting : Setting where
  directory := ⟨1, ["home"]⟩
  environment := { vars := [("HOME", "/home")] }
  launcher _ _ files := (.ok {}, files)

/-- A specification of a system without sections. -/
def emptySystem : String := "DIL:spec v0\nsystem \"S\" \x7b\n\x7d\n"

/-- The specification stands in the home directory. -/
def homeFiles : FileTree :=
  ⟨[(["home"], .directory), (["home", "spec"], .file (Utf8.encode emptySystem))]⟩

/-- Help is shown with a status of its own, which is none of a refusal or a failure. -/
theorem call_run_help : (call homeSetting homeFiles [runWord, "--help"]).launches = [] ∧
    (call homeSetting homeFiles [runWord, "--help"]).status ∉ [1, 2, 3, 4] := by
  decide +kernel

example : (call homeSetting homeFiles [runWord, "spec", "--", "true"]).launches.map (·.argv) = [["true"]] := by
  decide +kernel

end IntentSpec.Cli
