import IntentSpec.Files.Write
import IntentSpec.Proofs.Files.Tree
import Mathlib.Data.List.Perm.Subperm

/-!
# The course of a write

A write makes directories above its target, puts a file at a place beside the target where nothing stands, and
at last moves that file to the target.  Accordingly there are three kinds of trees that it goes through
(`FileWrite.Reaches`), and of each kind it is known how a write can end there (`FileWrite.Ends`).  Every step
leads from one kind to the same or the next one, or ends the write (`FileWrite.goes_step`), and so a whole
write goes through such trees only (`FileWrite.run_goes`), wherever it is interrupted.

* `FileWrite.besidePlace_free` — there is always a free place beside the target.
* `FileWrite.FreeBeside`, `FileWrite.DiffersAt` — the file beside the target.
* `FileWrite.Stage`, `FileWrite.Reaches`, `FileWrite.Ends` — the trees, and the ends.
* `FileWrite.Goes`, `FileWrite.run_goes` — the course of a write.
-/

namespace IntentSpec.FileWrite

open FileTree

/-! ## The place beside the target -/

/-- The digits of a number after as many zeros as make eight digits of them. -/
def paddedDigits (number : Nat) : List Char :=
  List.replicate (8 - (toString number).length) '0' ++ Nat.toDigits 10 number

theorem toList_besideName (name : String) (number : Nat) :
    (besideName name number).toList =
      '.' :: name.toList ++ '.' :: paddedDigits number ++ ".tmp".toList := by
  have zeros (k : Nat) : ("".pushn '0' k).toList = List.replicate k '0' := by
    rw [String.pushn_eq_repeat_push]
    induction k with
    | zero => rfl
    | succ k ih => rw [Nat.repeat, String.toList_push, ih, List.replicate_succ']
  simp [besideName, paddedDigits, zeros]

/-- Different numbers give different names. -/
theorem besideName_injective (name : String) : Function.Injective (besideName name) := by
  intro m n same
  have value (k : Nat) : Nat.ofDigitChars 10 (paddedDigits k) 0 = k := by
    rw [paddedDigits, Nat.ofDigitChars_append, Nat.ofDigitChars_replicate_zero, Nat.mul_zero,
      Nat.ofDigitChars_ten_toDigits]
  have lists := congrArg String.toList same
  rw [toList_besideName, toList_besideName] at lists
  have digits := (List.cons.inj (List.append_cancel_left (List.append_cancel_right lists))).2
  rw [← value m, digits, value n]

/-- The name beside the target is longer than that of the target. -/
theorem besideName_ne (name : String) (number : Nat) : besideName name number ≠ name := by
  intro same
  have lengths := congrArg (fun s : String => s.toList.length) same
  simp only [toList_besideName, List.length_append, List.length_cons] at lengths
  omega

/-- **There is a free place beside the target**: there are more names than nodes. So the search for
one never falls back on a name that is taken. -/
theorem besidePlace_free (t : FileTree) (parent : Place) (name : String) :
    t.find? (besidePlace t parent name) = none ∧
      ∃ number, besidePlace t parent name = parent ++ [besideName name number] := by
  let places := (List.range (t.nodes.length + 1)).map fun n => parent ++ [besideName name n]
  have isBeside : besidePlace t parent name =
      (places.find? fun place => (t.find? place).isNone).getD (parent ++ [besideName name 0]) := rfl
  cases found : places.find? fun place => (t.find? place).isNone with
  | some place =>
      obtain ⟨n, -, rfl⟩ := List.mem_map.mp (List.mem_of_find?_eq_some found)
      rw [isBeside, found, Option.getD_some]
      exact ⟨by simpa using List.find?_some found, n, rfl⟩
  | none =>
      exfalso
      have distinct : places.Nodup := by
        refine List.nodup_range.map fun m n same => besideName_injective name ?_
        simpa using same
      have occupied : places ⊆ t.nodes.map Prod.fst := by
        intro place here
        have stands : t.find? place ≠ none := by simpa using List.find?_eq_none.mp found place here
        obtain ⟨n, -, rfl⟩ := List.mem_map.mp here
        obtain ⟨node, isThere⟩ := Option.ne_none_iff_exists'.mp stands
        exact mem_of_find? (by simp) isThere
      have lengths := (List.subperm_of_subset distinct occupied).length_le
      simp only [places, List.length_map, List.length_range] at lengths
      omega

/-- Whether a place has a name that a file beside the target of a write may have. -/
def Beside (w : FileWrite) (place : Place) : Prop :=
  ∃ parent number, place = parent ++ [besideName w.target.name number]

/-- A place beside the target at which nothing stands. -/
structure FreeBeside (w : FileWrite) (t : FileTree) (beside : Place) : Prop where
  place : ∃ number, beside = placeOf w.directory w.target.parent ++ [besideName w.target.name number]
  free : t.find? beside = none

variable {w : FileWrite} {t : FileTree}

theorem FreeBeside.beside {beside : Place} (free : w.FreeBeside t beside) : w.Beside beside := by
  obtain ⟨number, same⟩ := free.place
  exact ⟨_, number, same⟩

theorem FreeBeside.ne_target {beside : Place} (free : w.FreeBeside t beside) :
    placeOf w.directory w.target ≠ beside := by
  obtain ⟨number, rfl⟩ := free.place
  exact placeOf_ne (besideName_ne w.target.name number)

theorem FreeBeside.ne_root {beside : Place} (free : w.FreeBeside t beside) : beside ≠ [] := by
  obtain ⟨number, rfl⟩ := free.place
  simp

/-- Two trees differ at one place only. -/
def DiffersAt (beside : Place) (t t' : FileTree) : Prop :=
  ∀ place, place ≠ beside → t'.find? place = t.find? place

theorem DiffersAt.refl (beside : Place) (t : FileTree) : DiffersAt beside t t := fun _ _ => rfl

theorem DiffersAt.put {beside : Place} {t t' : FileTree} (differs : DiffersAt beside t t') (node : Node) :
    DiffersAt beside t (t'.put beside node) := by
  intro place apart
  rw [find?_put, if_neg fun both => apart both.1]
  exact differs place apart

/-- As long as only a place has changed at which nothing stood, no directory is lost. -/
theorem DiffersAt.keeps {beside : Place} {t t' : FileTree} (differs : DiffersAt beside t t')
    (free : t.find? beside = none) : Keeps t t' := by
  intro place here
  by_cases same : place = beside
  · cases (same ▸ here).symm.trans free
  · rw [differs place same, here]

/-! ## The trees of a write -/

/-- Nothing has changed but that directories have been made above the target. -/
def Made (w : FileWrite) (t t' : FileTree) : Prop :=
  ExtendsAt (fun place => w.makeParents = true ∧ LeadsThrough w.directory w.target.parent place) t t'

/-- What a write has come to. -/
inductive Stage where
  | begun
  /-- A file stands beside the target. -/
  | aside
  /-- The file has taken the place of the target. -/
  | replaced

/-- The trees of a write that begins with a tree. -/
inductive Reaches (w : FileWrite) (t : FileTree) : Stage → FileTree → Prop
  | begun {t' : FileTree} (made : w.Made t t') : Reaches w t .begun t'
  /-- The file beside the target may have any content. -/
  | aside {between t' : FileTree} {beside : Place} (made : w.Made t between) (free : w.FreeBeside between beside)
      (differs : DiffersAt beside between t') : Reaches w t .aside t'
  /-- The target leads to a file with all that was to be written, and nothing else stands beside it than before. -/
  | replaced {between t' : FileTree} {content : List UInt8} (made : w.Made t between)
      (isContent : w.payload.content w.codecs = .ok content) (plain : w.target.hasNul = false)
      (notDirectory : between.find? (placeOf w.directory w.target) ≠ some .directory)
      (differs : DiffersAt (placeOf w.directory w.target) between t')
      (leads : t'.stat w.directory w.target = .ok (.file content)) : Reaches w t .replaced t'

/-- How a write ends. -/
inductive Ends (w : FileWrite) : Stage → WriteEnd → Prop
  /-- It fails, and nothing is left beside the target. -/
  | failed (trouble : WriteTrouble) : Ends w .begun (.failed trouble)
  /-- It fails, and the file beside the target cannot be removed. -/
  | left {code : Int} (kept : w.interruption .remove = some (.error code)) (trouble : WriteTrouble) :
      Ends w .aside (.failed trouble)
  | done : Ends w .replaced .done
  | stopped {s : WriteStep} (stops : w.interruption s = some .stop) (stage : Stage) : Ends w stage .stopped

/-- The course of the steps that begin with a tree, in a write that began with another one. -/
structure Goes (w : FileWrite) (t start : FileTree) (r : WriteRun) : Prop where
  /-- It goes through trees of the write. -/
  states : ∀ t' ∈ r.states, ∃ stage, w.Reaches t stage t'
  /-- It ends as a write can end with the last one. -/
  ending : ∃ stage, w.Reaches t stage (r.states.getLast?.getD start) ∧ w.Ends stage r.ending

namespace Goes

variable {start t' : FileTree} {stage : Stage} {ending : WriteEnd}

theorem single (reaches : w.Reaches t stage t') (ends_ : w.Ends stage ending) : w.Goes t start ⟨[t'], ending⟩ :=
  ⟨List.forall_mem_singleton.mpr ⟨stage, reaches⟩, stage, reaches, ends_⟩

theorem cons (reaches : w.Reaches t stage t') {r : WriteRun} (goes : w.Goes t t' r) :
    w.Goes t start ⟨t' :: r.states, r.ending⟩ := by
  refine ⟨List.forall_mem_cons.mpr ⟨⟨stage, reaches⟩, goes.states⟩, ?_⟩
  rw [List.getLast?_cons]
  exact goes.ending

end Goes

/-! ## Steps -/

/-- **A step**: it is carried out, and others follow if it does not fail, or else it is interrupted. -/
theorem goes_step {s : WriteStep} {start before : FileTree} {act : FileTree × Option WriteTrouble}
    {fail : FileTree → WriteTrouble → WriteRun} {next : FileTree → WriteRun} {stage : Stage}
    (goesOn : act.2 = none → (∃ stage', w.Reaches t stage' act.1) ∧ w.Goes t act.1 (next act.1))
    (fails : ∀ trouble, act.2 = some trouble → w.Goes t start (fail act.1 trouble))
    (interrupted : ∀ trouble, w.Goes t start (fail before trouble)) (reaches : w.Reaches t stage before) :
    w.Goes t start (andThen (w.step s before act) fail next) := by
  unfold step
  split
  next stops => exact .single reaches (.stopped stops stage)
  next code _ => exact interrupted (.system code)
  next =>
    obtain ⟨t', _ | trouble⟩ := act
    · obtain ⟨⟨stage', reached⟩, goes⟩ := goesOn rfl
      exact .cons reached goes
    · exact fails trouble rfl

theorem goes_giveUp {start t' : FileTree} (made : w.Made t t') (trouble : WriteTrouble) :
    w.Goes t start (giveUp t' trouble) :=
  .single (.begun made) (.failed trouble)

/-- A failure before the end is cleaned up. -/
theorem goes_cleanUp {start between t' : FileTree} {beside : Place} (made : w.Made t between)
    (free : w.FreeBeside between beside) (differs : DiffersAt beside between t') (trouble : WriteTrouble) :
    w.Goes t start (w.cleanUp beside t' trouble) := by
  have reaches := Reaches.aside made free differs
  unfold cleanUp
  split
  next stops => exact .single reaches (.stopped stops _)
  next code kept => exact .single reaches (.left kept trouble)
  next =>
    refine .cons reaches (.single (.begun fun place => ?_) (.failed trouble))
    have same : (t'.erase beside).find? place = between.find? place := by
      rw [find?_erase]
      by_cases here : place = beside
      · rw [if_pos ⟨here, here ▸ free.ne_root⟩, here, free.free]
      · rw [if_neg fun both => here both.1, differs place here]
    rw [same]
    exact made place

/-- What stands beside the target takes its place, if a directory does not stand there. -/
theorem rename_eq_ok {t t' : FileTree} {source : Place} {node : Node} {directory target : Path}
    (stands : t.find? source = some node) (renames : t.rename source directory target = .ok t') :
    t.locate directory target = .ok (placeOf directory target) ∧ placeOf directory target ≠ [] ∧
      t.find? (placeOf directory target) ≠ some .directory ∧
      t' = (t.erase source).put (placeOf directory target) node := by
  obtain ⟨place, leads, renames⟩ := (bind_eq_ok_iff _ _ _).mp renames
  obtain rfl := locate_eq_ok leads
  split at renames
  next => cases renames
  next =>
    rw [stands] at renames
    split at renames
    next => cases renames
    next => cases renames
    next isNode notDirectory _ =>
      obtain rfl := Option.some.inj isNode
      refine ⟨leads, ?_, notDirectory, (Except.ok.inj renames).symm⟩
      intro root
      rw [root] at notDirectory
      exact notDirectory (find?_root t)
    next => cases renames

/-- **What stood beside the target has taken its place.** It is the one step of a write that changes
what stands at the target. -/
theorem reaches_rename {between t' t'' : FileTree} {beside : Place} {content : List UInt8}
    (made : w.Made t between) (free : w.FreeBeside between beside) (differs : DiffersAt beside between t')
    (stands : t'.find? beside = some (.file content)) (isContent : w.payload.content w.codecs = .ok content)
    (plain : w.target.hasNul = false) (renames : t'.rename beside w.directory w.target = .ok t'') :
    w.Reaches t .replaced t'' := by
  obtain ⟨leads, inside, notDirectory, rfl⟩ := rename_eq_ok stands renames
  have differsAt : DiffersAt (placeOf w.directory w.target) between
      ((t'.erase beside).put (placeOf w.directory w.target) (.file content)) := by
    intro place apart
    rw [find?_put, if_neg fun both => apart both.1, find?_erase]
    by_cases here : place = beside
    · rw [if_pos ⟨here, here ▸ free.ne_root⟩, here, free.free]
    · rw [if_neg fun both => here both.1, differs place here]
  have notBefore : between.find? (placeOf w.directory w.target) ≠ some .directory := by
    rwa [← differs _ free.ne_target]
  have keeps : Keeps t' ((t'.erase beside).put (placeOf w.directory w.target) (.file content)) := by
    intro place here
    have apart : place ≠ placeOf w.directory w.target := by
      rintro rfl
      exact notDirectory here
    have other : place ≠ beside := by
      rintro rfl
      cases stands.symm.trans here
    rw [differsAt place apart, ← differs place other, here]
  refine .replaced made isContent plain notBefore differsAt
    ((stat_eq_ok_iff _ _ _ _).mpr ⟨locate_of_keeps keeps leads, ?_⟩)
  rw [find?_put, if_pos ⟨rfl, inside⟩]

/-! ## The whole write -/

theorem goes_fill {between t' start : FileTree} {beside : Place} {content : List UInt8} (made : w.Made t between)
    (free : w.FreeBeside between beside) (differs : DiffersAt beside between t')
    (isContent : w.payload.content w.codecs = .ok content) (plain : w.target.hasNul = false) :
    w.Goes t start (w.fill beside content t') := by
  unfold fill
  have begun := differs.put (.file (content.take w.written))
  have written := differs.put (.file content)
  have reaches := Reaches.aside made free written
  have stands : (t'.put beside (.file content)).find? beside = some (.file content) := by
    rw [find?_put, if_pos ⟨rfl, free.ne_root⟩]
  -- The content is written, and then brought to the disk.
  refine goes_step (fun _ => ⟨⟨_, reaches⟩, ?_⟩) nofun (goes_cleanUp made free begun) (.aside made free begun)
  refine goes_step (fun _ => ⟨⟨_, reaches⟩, ?_⟩) nofun (goes_cleanUp made free written) reaches
  -- It takes the place of the target.
  refine goes_step (fun renamed => ?_) (fun trouble failed => ?_) (goes_cleanUp made free written) reaches
  · split at renamed
    next t'' renames =>
      have replaced := reaches_rename made free written stands isContent plain renames
      refine ⟨⟨_, replaced⟩, ?_⟩
      split
      next stops => exact ⟨nofun, .replaced, replaced, .stopped stops _⟩
      next => exact ⟨nofun, .replaced, replaced, .done⟩
    next => cases renamed
  · split at failed
    next => cases failed
    next => exact goes_cleanUp made free written _

theorem emptyFile_cases (parent beside : Place) (t : FileTree) :
    emptyFile parent beside t = (t.put beside (.file []), none) ∨
      ∃ trouble, emptyFile parent beside t = (t, some trouble) := by
  unfold emptyFile
  split
  · exact .inr ⟨_, rfl⟩
  · exact .inl rfl

theorem goes_createBeside {t' start : FileTree} {parent : Path} (made : w.Made t t')
    (isParent : parent.parts = placeOf w.directory w.target.parent) (noNul : w.target.parent.hasNul = false) :
    w.Goes t start (w.createBeside parent t') := by
  unfold createBeside
  split
  · exact goes_giveUp made _
  · split
    next => exact goes_giveUp made _
    next content isContent =>
      extract_lets beside
      split
      · exact goes_giveUp made _
      next plain =>
        split
        · exact goes_giveUp made _
        · obtain ⟨nothing, number, place⟩ := besidePlace_free t' parent.parts w.target.name
          have free : w.FreeBeside t' beside := ⟨⟨number, by rw [← isParent, ← place]⟩, nothing⟩
          have created := (DiffersAt.refl beside t').put (.file [])
          rcases emptyFile_cases parent.parts beside t' with isMade | ⟨trouble, refused⟩
          · rw [isMade]
            refine goes_step (fun _ => ⟨⟨_, .aside made free created⟩, ?_⟩) nofun (goes_giveUp made) (.begun made)
            exact goes_fill made free created isContent (hasNul_eq_false noNul (eq_false_of_ne_true plain))
          · rw [refused]
            exact goes_step nofun (fun trouble' _ => goes_giveUp made trouble') (goes_giveUp made) (.begun made)

theorem goes_findParent {t' start : FileTree} (made : w.Made t t') : w.Goes t start (w.findParent t') := by
  unfold findParent
  split
  · exact goes_giveUp made _
  next noNul =>
    split
    next stops => exact .single (.begun made) (.stopped stops _)
    next => exact goes_giveUp made _
    next =>
      split
      next => exact goes_giveUp made _
      next parent resolves =>
        obtain ⟨place, leads, same⟩ := (bind_eq_ok_iff _ _ _).mp resolves
        obtain rfl := Except.ok.inj same
        exact goes_createBeside made (resolveFrom_eq_ok leads) (by simpa using noNul)

/-- **The course of a write**, wherever it is interrupted: it goes through trees that the write can
reach, and it ends as a write can end with the last one. -/
theorem run_goes (w : FileWrite) (t : FileTree) : w.Goes t {} (w.run t) := by
  unfold run
  extract_lets begun r
  refine .cons (.begun (.refl t)) ?_
  dsimp only [r]
  split
  · exact goes_findParent (.refl t)
  next parents =>
    split
    · exact goes_giveUp (.refl t) _
    · have isMade : w.makeParents = true := by simpa using parents
      have made := (makeDirectories_extendsAt t w.directory w.target.parent).imp fun _ leads =>
        And.intro isMade leads
      have halfMade : w.Made t begun :=
        (makeDirectories_extendsAt t w.directory _).imp fun _ leads => ⟨isMade, leads.of_take⟩
      exact goes_step (fun _ => ⟨⟨_, .begun made⟩, goes_findParent made⟩) (fun trouble _ => goes_giveUp made trouble)
        (goes_giveUp halfMade) (.begun halfMade)

end IntentSpec.FileWrite
