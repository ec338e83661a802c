import IntentSpec.Proofs.Files.Course

/-!
# What a write changes

A write makes directories where nothing stands, puts a file at a place beside its target where nothing
stands, and at last moves that file to the target.  So it never takes a directory away, and of the files
that are there it can only change the one at the target, and that only by carrying out all its steps.
This holds wherever the write is interrupted, and also if what was written beside the target is left
there.

During a write the target is as it was before, or leads to all that is to be written; no other file changes, and
what is new is the file beside the target and directories above it.  A write that fails leaves the target as it
was, and a write that is done has written all; neither leaves the file beside the target, unless it cannot be
removed.  There is one exception: a path can lead through its own target, as `x/../x` does.  Then the
directories made above the target can stand at its place, if nothing stood there (`FileWrite.Crossed`).

* `FileWrite.Changes`, `FileWrite.run_changes` — what a write changes.
* `FileTree.Holds` — what a path leads to.
* `FileWrite.Passes` — what holds of every tree that a write goes through.
* `FileWrite.Outcome` — what holds where a write ends.
* `FileWrite.Ready`, `FileWrite.Calm` — a write that can be carried out, and is.
* `FileWrite.run_allOrNothing` — a write is all or nothing.
* `FileWrite.not_asBefore_crossingWrite` — a target in its own way.
-/

namespace IntentSpec

open FileTree

namespace FileWrite

variable {w : FileWrite}

/-- What a write changes, from the tree at its beginning to that at its end. -/
structure Changes (w : FileWrite) (t t' : FileTree) (ending : WriteEnd) : Prop where
  keeps : Keeps t t'
  /-- Other files stay as they are, unless they have a name for a file beside the target. -/
  others : ∀ place, place ≠ placeOf w.directory w.target → ¬ w.Beside place →
    ∀ node, node.isFile = true → (t'.find? place = some node ↔ t.find? place = some node)
  /-- If it fails, the file at the target stays as it is. -/
  failed : ∀ trouble, ending = .failed trouble → ∀ node, node.isFile = true →
    (t'.find? (placeOf w.directory w.target) = some node ↔ t.find? (placeOf w.directory w.target) = some node)
  /-- If it is done, the target leads to a file with what was to be written. -/
  done : ending = .done → ∃ content, w.payload.content w.codecs = .ok content ∧
    t'.stat w.directory w.target = .ok (.file content) ∧ w.target.hasNul = false
  /-- It stops only where it is stopped. -/
  stopped : ending = .stopped → ∃ s, w.interruption s = some .stop

section Reaches

variable {t t' : FileTree} {stage : Stage}

/-- No tree of a write has lost a directory. -/
theorem Reaches.keeps (reaches : w.Reaches t stage t') : Keeps t t' := by
  cases reaches with
  | begun made => exact made.weaken.keeps
  | aside made free differs => exact made.weaken.keeps.trans (differs.keeps free.free)
  | replaced made _ _ notDirectory differs _ =>
      refine made.weaken.keeps.trans fun place here => ?_
      rw [differs place, here]
      rintro rfl
      exact notDirectory here

/-- The file at a place stays as it is, unless the place is that of the target or beside it. -/
theorem Reaches.file_iff (reaches : w.Reaches t stage t') {place : Place}
    (apart : place ≠ placeOf w.directory w.target) (free : ¬ w.Beside place) {node : Node}
    (isFile : node.isFile = true) : t'.find? place = some node ↔ t.find? place = some node := by
  cases reaches with
  | begun made => exact made.weaken.file_iff place isFile
  | aside made free' differs =>
      rw [differs place fun same => free (same ▸ free'.beside)]
      exact made.weaken.file_iff place isFile
  | replaced made _ _ _ differs _ =>
      rw [differs place apart]
      exact made.weaken.file_iff place isFile

/-- **What a write has changed where it ends.** Directories and other files stay, what failed leaves
the target alone, and what is done has its content there. -/
theorem Reaches.changes (reaches : w.Reaches t stage t') {ending : WriteEnd} (ends_ : w.Ends stage ending) :
    w.Changes t t' ending where
  keeps := reaches.keeps
  others _ apart free _ isFile := reaches.file_iff apart free isFile
  failed trouble failed node isFile := by
    subst failed
    cases reaches with
    | begun made => exact made.weaken.file_iff _ isFile
    | aside made free differs =>
        rw [differs _ free.ne_target]
        exact made.weaken.file_iff _ isFile
    | replaced => cases ends_
  done isDone := by
    subst isDone
    cases ends_
    cases reaches with
    | replaced _ isContent plain _ _ leads => exact ⟨_, isContent, leads, plain⟩
  stopped isStopped := by
    subst isStopped
    cases ends_ with
    | stopped stops => exact ⟨_, stops⟩

end Reaches

/-- **What a write changes**, wherever it is interrupted: no directory is lost, no file but that at the target
is changed, and that only by carrying out all steps. -/
theorem run_changes (w : FileWrite) (t : FileTree) : w.Changes t (w.run t).last (w.run t).ending := by
  obtain ⟨stage, reaches, ends_⟩ := (run_goes w t).ending
  exact reaches.changes ends_

end FileWrite

/-! ## The content of a file -/

/-- A path leads to a file that can be read and has a content, or else no file stands at its place, be it one that
can be read or not. -/
def FileTree.Holds (t : FileTree) (directory p : Path) : Option (List UInt8) → Prop
  | some content => t.stat directory p = .ok (.file content) ∧ p.hasNul = false
  | none => ∀ node, node.isFile = true → t.find? (placeOf directory p) ≠ some node

namespace FileTree.Holds

variable {t : FileTree} {directory p : Path} {content : Option (List UInt8)}

/-- It is found that the path leads to a file exactly if it does. -/
theorem isFile_iff (holds : t.Holds directory p content) :
    t.isFile directory p = .ok true ↔ content.isSome = true := by
  rw [isFile_eq_ok_true_iff]
  cases content with
  | some content => exact iff_of_true ⟨holds.2, .file content, rfl, holds.1⟩ rfl
  | none =>
      refine iff_of_false ?_ (by simp)
      rintro ⟨-, node, isFile, found⟩
      exact holds node isFile ((stat_eq_ok_iff _ _ _ _).mp found).2

theorem read {content : List UInt8} (holds : t.Holds directory p (some content)) :
    t.read directory p = .ok content :=
  (read_eq_ok_iff _ _ _ _).mpr holds.1

theorem toOption_read (holds : t.Holds directory p content) : (t.read directory p).toOption = content := by
  cases content with
  | some content => rw [holds.read]; rfl
  | none =>
      cases reads : t.read directory p with
      | error code => rfl
      | ok content =>
          exact absurd ((stat_eq_ok_iff _ _ _ _).mp ((read_eq_ok_iff _ _ _ _).mp reads)).2 (holds _ rfl)

/-- What a path leads to stays as it is if directories stay directories and the files at its place stay as
they are. -/
theorem of_keeps (holds : t.Holds directory p content) {t' : FileTree} (keeps : Keeps t t')
    (same : ∀ node, node.isFile = true →
      (t'.find? (placeOf directory p) = some node ↔ t.find? (placeOf directory p) = some node)) :
    t'.Holds directory p content := by
  cases content with
  | some content =>
      obtain ⟨leads, stands⟩ := (stat_eq_ok_iff _ _ _ _).mp holds.1
      exact ⟨(stat_eq_ok_iff _ _ _ _).mpr ⟨locate_of_keeps keeps leads, (same _ rfl).mpr stands⟩, holds.2⟩
  | none => exact fun node isFile there => holds node isFile ((same node isFile).mp there)

end FileTree.Holds

end IntentSpec

namespace IntentSpec.FileWrite

open FileTree

variable {w : FileWrite} {t t' : FileTree} {stage : Stage}

/-! ## During a write -/

/-- A directory above the target has been made at the place of the target, where nothing stood. -/
structure Crossed (w : FileWrite) (t t' : FileTree) : Prop where
  parents : w.makeParents = true
  /-- The path of the target leads through the place of the target. -/
  through : LeadsThrough w.directory w.target.parent (placeOf w.directory w.target)
  nothing : t.find? (placeOf w.directory w.target) = none
  made : t'.find? (placeOf w.directory w.target) = some .directory

/-- The target is as it was before, unless a directory has been made there. -/
def AsBefore (w : FileWrite) (t t' : FileTree) : Prop :=
  t'.find? (placeOf w.directory w.target) = t.find? (placeOf w.directory w.target) ∨ w.Crossed t t'

/-- The target leads to a file with all that was to be written. -/
def Written (w : FileWrite) (t' : FileTree) : Prop :=
  ∃ content, w.payload.content w.codecs = .ok content ∧ t'.stat w.directory w.target = .ok (.file content)

/-- What holds of every tree that a write goes through. -/
structure Passes (w : FileWrite) (t t' : FileTree) : Prop where
  /-- The target is as it was before, or leads to all that was to be written. -/
  target : w.AsBefore t t' ∨ w.Written t'
  /-- All else that stood somewhere still stands there. -/
  others : ∀ place, place ≠ placeOf w.directory w.target → ∀ node, t.find? place = some node →
    t'.find? place = some node
  /-- What is new elsewhere is the file beside the target, or a directory above it. -/
  added : ∀ place, place ≠ placeOf w.directory w.target → t.find? place = none → ∀ node,
    t'.find? place = some node →
      w.Beside place ∨ node = .directory ∧ w.makeParents = true ∧ LeadsThrough w.directory w.target.parent place

theorem Made.asBefore (made : w.Made t t') : w.AsBefore t t' :=
  (made _).imp_right fun ⟨⟨parents, through⟩, nothing, isMade⟩ => ⟨parents, through, nothing, isMade⟩

/-- What stood somewhere still stands there after directories have been made. -/
theorem Made.find?_eq_some (made : w.Made t t') {place : Place} {node : Node} (stands : t.find? place = some node) :
    t'.find? place = some node := by
  rcases made place with same | ⟨-, nothing, -⟩
  · rw [same, stands]
  · cases nothing.symm.trans stands

theorem Made.of_find?_eq_none (made : w.Made t t') {place : Place} {node : Node} (nothing : t.find? place = none)
    (stands : t'.find? place = some node) :
    node = .directory ∧ w.makeParents = true ∧ LeadsThrough w.directory w.target.parent place := by
  rcases made place with same | ⟨⟨parents, through⟩, -, isMade⟩
  · cases (stands.symm.trans same).trans nothing
  · exact ⟨Option.some.inj (stands.symm.trans isMade), parents, through⟩

theorem asBefore_of_differsAt {between : FileTree} {beside : Place} (made : w.Made t between)
    (free : w.FreeBeside between beside) (differs : DiffersAt beside between t') : w.AsBefore t t' := by
  have same := differs _ free.ne_target
  refine made.asBefore.imp (fun asBefore => same.trans asBefore) fun crossed => ?_
  exact ⟨crossed.parents, crossed.through, crossed.nothing, same.trans crossed.made⟩

/-- **What holds of every tree of a write.** Whoever looks at the target in the middle of it sees
the old content or the new one. -/
theorem Reaches.passes (reaches : w.Reaches t stage t') : w.Passes t t' := by
  cases reaches with
  | begun made =>
      exact ⟨.inl made.asBefore, fun _ _ _ => made.find?_eq_some, fun _ _ nothing _ stands =>
        .inr (made.of_find?_eq_none nothing stands)⟩
  | @aside between _ beside made free differs =>
      refine ⟨.inl (asBefore_of_differsAt made free differs), fun place _ node stands => ?_,
        fun place _ nothing node stands => ?_⟩
      · have there := made.find?_eq_some stands
        rw [differs place, there]
        rintro rfl
        cases free.free.symm.trans there
      · by_cases here : place = beside
        · exact .inl (here ▸ free.beside)
        · exact .inr (made.of_find?_eq_none nothing (differs place here ▸ stands))
  | replaced made isContent _ _ differs leads =>
      refine ⟨.inr ⟨_, isContent, leads⟩, fun place apart node stands => ?_, fun place apart nothing node stands => ?_⟩
      · rw [differs place apart, made.find?_eq_some stands]
      · exact .inr (made.of_find?_eq_none nothing (differs place apart ▸ stands))

/-! ## The end of a write -/

/-- What holds of the tree at the end of a write, by how it ends. -/
structure Outcome (w : FileWrite) (t t' : FileTree) (ending : WriteEnd) : Prop where
  /-- If it fails, the target is as it was before, and if the file beside it can be removed, no file is new. -/
  failed : ∀ trouble, ending = .failed trouble → w.AsBefore t t' ∧
    (w.interruption .remove = none → ∀ place content, t'.find? place = some (.file content) →
      t.find? place = some (.file content))
  /-- If it is done, the target leads to all that was to be written, and no other file is new. -/
  done : ending = .done → w.Written t' ∧ ∀ place, place ≠ placeOf w.directory w.target → ∀ content,
    t'.find? place = some (.file content) → t.find? place = some (.file content)
  /-- It stops only where it is stopped. -/
  stopped : ending = .stopped → ∃ s, w.interruption s = some .stop

/-- **What holds where a write ends.** -/
theorem Reaches.outcome (reaches : w.Reaches t stage t') {ending : WriteEnd} (ends_ : w.Ends stage ending) :
    w.Outcome t t' ending where
  failed trouble failed := by
    subst failed
    refine ⟨?_, fun removes place content stands => ?_⟩
    · cases reaches with
      | begun made => exact made.asBefore
      | aside made free differs => exact asBefore_of_differsAt made free differs
      | replaced => cases ends_
    · cases ends_ with
      | failed =>
          cases reaches with
          | begun made => exact (made.weaken.file_iff place rfl).mp stands
      | left kept => cases kept.symm.trans removes
  done isDone := by
    subst isDone
    cases ends_
    cases reaches with
    | replaced made isContent _ _ differs leads =>
        refine ⟨⟨_, isContent, leads⟩, fun place apart content stands => ?_⟩
        exact (made.weaken.file_iff place rfl).mp (differs place apart ▸ stands)
  stopped isStopped := by
    subst isStopped
    cases ends_ with
    | stopped stops => exact ⟨_, stops⟩

/-! ## A write that is carried out -/

/-- A write that begins with a tree can be carried out, with the directories above the target as they are in
another one. -/
structure Ready (w : FileWrite) (t t' : FileTree) : Prop where
  /-- The directories above the target are made if they are to be made. -/
  parents : if w.makeParents then t.makeDirectories w.directory w.target.parent = (t', none) else t' = t
  /-- The target stands in a directory. -/
  directory : t'.stat w.directory w.target.parent = .ok .directory
  /-- There is something to be written. -/
  content : ∃ content, w.payload.content w.codecs = .ok content
  /-- The path of the target can be one. -/
  plain : w.target.hasNul = false
  named : w.target.parts ≠ [] ∧ w.target.name ≠ Path.up
  /-- The name is short enough for one beside it. -/
  short : (besideName w.target.name 0).utf8ByteSize ≤ maxName
  /-- If anything stands at the target, it is a file. -/
  free : ∀ node, t'.find? (placeOf w.directory w.target) = some node → node.isFile = true

/-- Nothing happens at the steps, but that bringing the directory to the disk, or removing a file, may fail. -/
structure Calm (w : FileWrite) : Prop where
  /-- The other steps are not interrupted. -/
  steps : ∀ s, s ≠ .syncParent → s ≠ .remove → w.interruption s = none
  /-- The write is not stopped at its end. -/
  atEnd : w.interruption .syncParent ≠ some .stop

theorem ending_step {s : WriteStep} {before : FileTree} {act : FileTree × Option WriteTrouble}
    {fail : FileTree → WriteTrouble → WriteRun} {next : FileTree → WriteRun} (calm : w.interruption s = none)
    (succeeds : act.2 = none) : (andThen (w.step s before act) fail next).ending = (next act.1).ending := by
  obtain ⟨t', trouble⟩ := act
  obtain rfl : trouble = none := succeeds
  rw [step, calm]
  rfl

theorem name_lt_besideName (name : String) (number : Nat) :
    name.utf8ByteSize < (besideName name number).utf8ByteSize := by
  simp only [besideName, String.utf8ByteSize_append]
  have dot : ".".utf8ByteSize = 1 := rfl
  omega

theorem Ready.locate (ready : w.Ready t t') :
    t'.locate w.directory w.target = .ok (placeOf w.directory w.target) := by
  obtain ⟨leads, stands⟩ := (stat_eq_ok_iff _ _ _ _).mp ready.directory
  have shorter : ¬ maxName < w.target.name.utf8ByteSize := by
    have length := name_lt_besideName w.target.name 0
    have short := ready.short
    omega
  have reached : t'.locate w.directory w.target =
      .ok (placeOf w.directory w.target.parent ++ [w.target.name]) := by
    rw [FileTree.locate, parts_join_parent w.directory ready.named.1, follow_append]
    have leads : t'.follow [] (w.directory.join w.target.parent).parts = .ok (placeOf w.directory w.target.parent) :=
      leads
    rw [leads]
    exact follow_name stands shorter ready.named.2
  rw [reached, locate_eq_ok reached]

/-- What stands somewhere can take the place of a path that has a name and leads to no directory. -/
theorem rename_of_locate {t : FileTree} {source place : Place} {node : Node} {directory target : Path}
    (stands : t.find? source = some node) (leads : t.locate directory target = .ok place)
    (named : target.parts ≠ [] ∧ target.name ≠ Path.up)
    (onlyFile : ∀ node, t.find? place = some node → node.isFile = true) :
    t.rename source directory target = .ok ((t.erase source).put place node) := by
  have isName : ¬ target.parts.getLast?.all (· == Path.up) = true := by
    have last : target.parts.getLast? = some target.name := by
      rw [Path.name, List.getLast?_eq_some_getLast named.1]
      rfl
    rw [last]
    simpa using named.2
  unfold rename
  rw [leads]
  dsimp only [bind, Except.bind]
  rw [if_neg isName, stands]
  split
  next isDirectory => cases onlyFile _ isDirectory
  next isDirectory => cases onlyFile _ isDirectory
  next isNode _ _ =>
    obtain rfl := Option.some.inj isNode
    rfl
  next nothing _ _ => cases nothing

theorem ending_fill {content : List UInt8} {beside : Place} (calm : w.Calm) (ready : w.Ready t t')
    (free : w.FreeBeside t' beside) :
    (w.fill beside content (t'.put beside (.file []))).ending = .done := by
  have written := ((DiffersAt.refl beside t').put (.file [])).put (.file content)
  have leads := locate_of_keeps (written.keeps free.free) ready.locate
  have stands : ((t'.put beside (.file [])).put beside (.file content)).find? beside = some (.file content) := by
    rw [find?_put, if_pos ⟨rfl, free.ne_root⟩]
  have onlyFile (node : Node) (there : ((t'.put beside (.file [])).put beside (.file content)).find?
      (placeOf w.directory w.target) = some node) : node.isFile = true := by
    rw [written _ free.ne_target] at there
    exact ready.free node there
  unfold fill
  dsimp only
  rw [ending_step (calm.steps _ (by decide) (by decide)) rfl,
    ending_step (calm.steps _ (by decide) (by decide)) rfl,
    ending_step (calm.steps _ (by decide) (by decide))]
  · split
    next stops => exact absurd stops calm.atEnd
    next => rfl
  · rw [rename_of_locate stands leads ready.named onlyFile]

theorem Ready.plain_of_mem (ready : w.Ready t t') {part : String} (here : part ∈ w.target.parts) :
    part.toList.contains '\x00' = false := by
  have none := ready.plain
  rw [Path.hasNul, List.any_eq_false] at none
  exact eq_false_of_ne_true (none part here)

theorem Ready.parent_plain (ready : w.Ready t t') : ¬ w.target.parent.hasNul = true := by
  rw [Path.hasNul, List.any_eq_true]
  rintro ⟨part, here, nul⟩
  cases (ready.plain_of_mem (List.dropLast_subset _ here)).symm.trans nul

theorem ending_findParent (calm : w.Calm) (ready : w.Ready t t') : (w.findParent t').ending = .done := by
  obtain ⟨content, isContent⟩ := ready.content
  obtain ⟨parent, resolves, isParent, isDirectory⟩ := resolve_of_stat ready.directory
  have namePlain : ¬ w.target.name.toList.contains '\x00' = true := by
    have here : w.target.name ∈ w.target.parts := by
      rw [parts_eq_parent ready.named.1]
      simp
    rw [ready.plain_of_mem here]
    exact Bool.false_ne_true
  have short := ready.short
  unfold findParent
  rw [if_neg ready.parent_plain, calm.steps _ (by decide) (by decide), resolves]
  dsimp only
  unfold createBeside
  rw [isDirectory, isContent]
  dsimp only
  have makes (beside : Place) : emptyFile parent.parts beside t' = (t'.put beside (.file []), none) := by
    rw [emptyFile, isParent, ((stat_eq_ok_iff _ _ _ _).mp ready.directory).2]
  rw [if_neg (by simp), if_neg namePlain, if_neg (by omega), makes,
    ending_step (calm.steps _ (by decide) (by decide)) rfl]
  obtain ⟨nothing, number, place⟩ := besidePlace_free t' parent.parts w.target.name
  exact ending_fill calm ready ⟨⟨number, by rw [← isParent, ← place]⟩, nothing⟩

/-- **A write that can be carried out is done** if it is not interrupted. -/
theorem ending_run (calm : w.Calm) (ready : w.Ready t t') : (w.run t).ending = .done := by
  have parents := ready.parents
  unfold run
  dsimp only
  by_cases making : w.makeParents = true
  · rw [if_pos making] at parents
    rw [if_neg (by simp [making]), if_neg ready.parent_plain, parents,
      ending_step (calm.steps _ (by decide) (by decide)) rfl]
    exact ending_findParent calm ready
  · rw [if_neg making] at parents
    rw [if_pos (by simpa using making), ← parents]
    exact ending_findParent calm ready

/-! ## All or nothing -/

/-- **A write is all or nothing**, wherever it is interrupted: what holds of every tree that it goes through, and of
the one at its end.  Only a path with steps to the parent can be in its own way.  If a write can be carried out and
is not interrupted, it is done. -/
theorem run_allOrNothing (w : FileWrite) (t : FileTree) :
    (∀ t' ∈ (w.run t).states, w.Passes t t') ∧ w.Outcome t (w.run t).last (w.run t).ending ∧
      (Path.up ∉ w.target.parts → ∀ t', ¬ w.Crossed t t') ∧
      (∀ t', w.Calm → w.Ready t t' → (w.run t).ending = .done) := by
  have goes := run_goes w t
  refine ⟨fun t' here => ?_, ?_, fun noUp t' crossed => not_through noUp crossed.through,
    fun t' calm ready => ending_run calm ready⟩
  · obtain ⟨stage, reaches⟩ := goes.states t' here
    exact reaches.passes
  · obtain ⟨stage, reaches, ends_⟩ := goes.ending
    exact reaches.outcome ends_

/-- A write that stops after a part has been written leaves that part beside its target. -/
example : (({ directory := ⟨1, ["work"]⟩, target := ⟨0, ["x"]⟩, payload := .text "ab" "utf-8", written := 1
              interruption := fun s => if s = .write then some .stop else none } : FileWrite).run
            ⟨[(["work"], .directory)]⟩).last.find? ["work", ".x.00000000.tmp"] = some (.file [97]) := by
  decide +kernel

/-- A write whose target is in its own way: the directory `x` has to be made to go through it. -/
def crossingWrite : FileWrite :=
  { directory := ⟨1, ["work"]⟩, target := ⟨1, ["work", "x", "..", "x"]⟩, payload := .text "a" "utf-8"
    makeParents := true }

/-- A tree with the working directory and nothing in it. -/
def bareTree : FileTree := ⟨[(["work"], .directory)]⟩

/-- It fails, and a directory stands at its target, where nothing stood before. -/
theorem not_asBefore_crossingWrite :
    (∃ trouble, (crossingWrite.run bareTree).ending = .failed trouble) ∧
      (crossingWrite.run bareTree).last.find? (placeOf crossingWrite.directory crossingWrite.target) ≠
        bareTree.find? (placeOf crossingWrite.directory crossingWrite.target) := by
  refine ⟨⟨.system Errno.isDirectory, ?_⟩, ?_⟩
  · decide +kernel
  · decide +kernel

end IntentSpec.FileWrite
