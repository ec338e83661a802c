import IntentSpec.Proofs.Text.Pieces
import IntentSpec.Proofs.Files.Tree
import Mathlib.Data.List.Infix

/-!
# Paths and where they lead

A path that a text gives has parts without slashes, none of which is empty or a single dot, so its own text
gives it back.  Cancelling the steps to the parent in a path from the root, the last part before each of
them, comes to the same as following its parts from the root; what is left are names, of which nothing is
cancelled again.

* `Path.Regular`, `Path.ofText_text` — paths that their texts give back.
* `Path.normal_of_absolute` — the normal form of a path from the root is the place that it leads to.
* `Path.Settled` — paths from the root without steps, as they are written and read again.
* `Environment.expand_of_notMem` — a text that refers to no variable.
-/

namespace IntentSpec

open Text

namespace Path

/-! ## Paths that their texts give back -/

/-- What a part of a path is: not empty, no single dot, and without slashes. -/
def IsPart (part : String) : Prop := part.toList ≠ [] ∧ part.toList ≠ ['.'] ∧ '/' ∉ part.toList

/-- A path as texts give it. -/
structure Regular (p : Path) : Prop where
  /-- There are two slashes at the front at most. -/
  root : p.root ≤ 2
  /-- The parts are what stands between slashes and says something. -/
  parts : ∀ part ∈ p.parts, IsPart part

theorem regular_ofText (text : String) : (ofText text).Regular where
  root := by
    show rootOf text.toList ≤ 2
    unfold rootOf
    split <;> decide
  parts part here := by
    obtain ⟨piece, inside, rfl⟩ := List.mem_map.mp here
    obtain ⟨piece_mem, isPart⟩ := List.mem_filter.mp inside
    have slashless := notMem_of_mem_splitAt piece_mem
    unfold IsPart
    rw [String.toList_ofList]
    simpa [slashless] using isPart

theorem Regular.join {p q : Path} (regular : p.Regular) (regular' : q.Regular) : (p.join q).Regular := by
  unfold Path.join
  split
  · exact regular'
  · exact ⟨regular.root, List.forall_mem_append.mpr ⟨regular.parts, regular'.parts⟩⟩

theorem Regular.expandHome? {environment : Environment} {p q : Path} (regular : p.Regular)
    (expands : p.expandHome? environment = some q) : q.Regular := by
  unfold Path.expandHome? at expands
  split at expands
  next first rest _ isParts =>
    have others : ∀ part ∈ rest, IsPart part := fun part here =>
      regular.parts part (isParts ▸ List.mem_cons_of_mem first here)
    split at expands
    next =>
      split at expands
      next => cases expands
      next home _ =>
        split at expands
        next => cases expands
        next =>
          obtain rfl := Option.some.inj expands
          have front := regular_ofText home
          exact ⟨front.root, List.forall_mem_append.mpr ⟨front.parts, others⟩⟩
    next =>
      obtain rfl := Option.some.inj expands
      exact regular
  next =>
    obtain rfl := Option.some.inj expands
    exact regular

theorem toList_text {p : Path} (some : ¬ (p.root = 0 ∧ p.parts = [])) :
    p.text.toList = List.replicate p.root '/' ++ ['/'].intercalate (p.parts.map String.toList) := by
  unfold text
  rw [if_neg (by simpa using some), String.toList_append, String.toList_ofList, String.toList_intercalate]
  rfl

/-- The pieces of the text of a path are its parts, and empty ones for slashes at the front. -/
theorem Regular.splitAt_text {p : Path} (regular : p.Regular) (some : ¬ (p.root = 0 ∧ p.parts = [])) :
    splitAt '/' p.text.toList = List.replicate p.root [] ++
      (if p.parts = [] then [[]] else p.parts.map String.toList) := by
  rw [toList_text some, splitAt_replicate]
  split
  next none => simp [none, splitAt]
  next parts =>
    rw [splitAt_intercalate (by simpa using parts)]
    intro piece here
    obtain ⟨part, inside, rfl⟩ := List.mem_map.mp here
    exact (regular.parts part inside).2.2

theorem rootOf_replicate {n : Nat} {s : List Char} (small : n ≤ 2) (front : s.head? ≠ some '/') :
    rootOf (List.replicate n '/' ++ s) = n := by
  have run : (List.replicate n '/' ++ s).takeWhile (· == '/') = List.replicate n '/' := by
    rw [List.takeWhile_append_of_pos (by simp)]
    cases s with
    | nil => simp
    | cons c s =>
        have other : ¬ c = '/' := by simpa using front
        simp [other]
  unfold rootOf
  rw [run, List.length_replicate]
  rcases n with _ | _ | _ | n
  · rfl
  · rfl
  · rfl
  · omega

/-- **The text of a path gives it back.** -/
theorem ofText_text {p : Path} (regular : p.Regular) : ofText p.text = p := by
  by_cases empty : p.root = 0 ∧ p.parts = []
  · obtain ⟨root, parts⟩ := p
    obtain ⟨rfl, rfl⟩ := empty
    rfl
  · -- The empty pieces in front of the parts, one for each slash, are dropped, and nothing else is.
    have kept : (p.parts.map String.toList).filter (fun part => !part.isEmpty && part != ['.']) =
        p.parts.map String.toList := by
      refine List.filter_eq_self.mpr fun piece here => ?_
      obtain ⟨part, inside, rfl⟩ := List.mem_map.mp here
      obtain ⟨some, notDot, -⟩ := regular.parts part inside
      simp [some, notDot]
    have parts : partsOf p.text.toList = p.parts := by
      unfold partsOf
      rw [regular.splitAt_text empty, List.filter_append]
      split
      next none => simp [none]
      next => simp [kept, Function.comp_def]
    have front : (['/'].intercalate (p.parts.map String.toList)).head? ≠ some '/' := by
      cases isParts : p.parts with
      | nil => simp
      | cons first rest =>
          obtain ⟨some, -, plain⟩ := regular.parts first (isParts ▸ List.mem_cons_self)
          obtain ⟨c, s, split⟩ := List.exists_cons_of_ne_nil some
          have other : c ≠ '/' := fun same => plain (split ▸ same ▸ List.mem_cons_self)
          cases rest <;> simpa [split, List.intercalate_cons_cons] using other
    have root : rootOf p.text.toList = p.root := by
      rw [toList_text empty]
      exact rootOf_replicate regular.root front
    rw [ofText, root, parts]

/-! ## Where a path leads -/

/-- Following parts from a place never leaves a step to the parent. -/
theorem up_notMem_placeFrom {at_ : Place} (names : up ∉ at_) (parts : List String) :
    up ∉ FileTree.placeFrom at_ parts := by
  induction parts generalizing at_ with
  | nil => exact names
  | cons part parts ih =>
      rw [FileTree.placeFrom, List.foldl_cons]
      split
      next => exact ih fun here => names (List.mem_of_mem_dropLast here)
      next isName => exact ih (by simpa [names] using Ne.symm isName)

theorem mem_placeFrom {at_ : Place} {parts : List String} {part : String}
    (here : part ∈ FileTree.placeFrom at_ parts) : part ∈ at_ ∨ part ∈ parts := by
  induction parts generalizing at_ with
  | nil => exact .inl here
  | cons next parts ih =>
      rw [FileTree.placeFrom, List.foldl_cons] at here
      rcases ih here with before | later
      · split at before
        · exact .inl (List.mem_of_mem_dropLast before)
        · rcases List.mem_append.mp before with before | isNext
          · exact .inl before
          · exact .inr (List.mem_singleton.mp isNext ▸ List.mem_cons_self)
      · exact .inr (List.mem_cons_of_mem next later)

/-- Cancelling steps to the parent is following the parts, with the last name in front. -/
theorem reverse_foldl_step {done : List String} (names : up ∉ done) (parts : List String) :
    (parts.foldl (step true) done).reverse = FileTree.placeFrom done.reverse parts := by
  induction parts generalizing done with
  | nil => rfl
  | cons part parts ih =>
      rw [FileTree.placeFrom, List.foldl_cons, List.foldl_cons]
      -- What has been kept are names only, so a step to the parent cancels the last of them.
      by_cases isUp : part = up
      · rw [if_pos isUp]
        cases done with
        | nil =>
            have stays : step true [] part = [] := by simp [step, isUp]
            rw [stays]
            exact ih List.not_mem_nil
        | cons last rest =>
            obtain ⟨isName, others⟩ : up ≠ last ∧ up ∉ rest := by simpa using names
            have cancels : step true (last :: rest) part = rest := by simp [step, isUp, Ne.symm isName]
            rw [cancels, List.reverse_cons, List.dropLast_concat]
            exact ih others
      · have stands : step true done part = part :: done := by simp [step, isUp]
        rw [if_neg isUp, stands, ← List.reverse_cons]
        exact ih (by simpa [names] using Ne.symm isUp)

/-- **The normal form of a path from the root is the place that it leads to.** A step to the parent
of the root leads to the root. -/
theorem normal_of_absolute {p : Path} (absolute : p.isAbsolute = true) :
    p.normal = ⟨p.root, FileTree.placeFrom [] p.parts⟩ := by
  rw [normal, absolute, reverse_foldl_step List.not_mem_nil]
  rfl

theorem isAbsolute_join {base : Path} (absolute : base.isAbsolute = true) (p : Path) :
    (base.join p).isAbsolute = true := by
  unfold Path.join
  split
  next absolute' => exact absolute'
  next => exact absolute

/-! ## Settled paths -/

/-- A path from the root without steps to the parent. -/
structure Settled (p : Path) : Prop where
  /-- It is as texts give it. -/
  regular : p.Regular
  absolute : p.isAbsolute = true
  /-- There is no step to the parent. -/
  names : up ∉ p.parts

theorem Regular.settled_normal {p : Path} (regular : p.Regular) (absolute : p.isAbsolute = true) :
    p.normal.Settled := by
  rw [normal_of_absolute absolute]
  refine ⟨⟨regular.root, fun part here => ?_⟩, absolute, up_notMem_placeFrom List.not_mem_nil _⟩
  exact regular.parts part ((mem_placeFrom here).resolve_left List.not_mem_nil)

namespace Settled

variable {p : Path} (settled : p.Settled)
include settled

/-- Nothing is cancelled again. -/
theorem normal_eq : p.normal = p := by
  rw [normal_of_absolute settled.absolute, FileTree.placeFrom_of_names [] settled.names]
  rfl

theorem root_ne_zero : p.root ≠ 0 := by
  simpa [isAbsolute] using settled.absolute

theorem head?_text : p.text.toList.head? = some '/' := by
  have root := settled.root_ne_zero
  rw [toList_text fun both => root both.1]
  obtain ⟨n, isRoot⟩ := Nat.exists_eq_succ_of_ne_zero root
  rw [isRoot, List.replicate_succ]
  rfl

/-- Between the slashes of the text there is no dot by itself and no step to the parent. -/
theorem notMem_splitAt_text {piece : List Char} (step : piece = ['.'] ∨ piece = up.toList) :
    piece ∉ splitAt '/' p.text.toList := by
  have nonempty : piece ≠ [] := by
    rcases step with rfl | rfl <;> decide
  rw [settled.regular.splitAt_text fun both => settled.root_ne_zero both.1, List.mem_append, not_or]
  refine ⟨fun here => nonempty (List.eq_of_mem_replicate here), ?_⟩
  split
  next => simpa using nonempty
  next =>
    rintro here
    obtain ⟨part, inside, same⟩ := List.mem_map.mp here
    rcases step with rfl | rfl
    · exact (settled.regular.parts part inside).2.1 same
    · exact settled.names (String.toList_injective same ▸ inside)

end Settled

/-- A path from the root has no tilde at its front. -/
theorem expandHome?_of_absolute (environment : Environment) {p : Path} (absolute : p.isAbsolute = true) :
    p.expandHome? environment = some p := by
  obtain ⟨root, parts⟩ := p
  cases root with
  | zero => cases absolute
  | succ n => rfl

end Path

/-! ## Texts without variables -/

theorem Environment.expandFrom_of_notMem (vars : Variables) {s : List Char} (plain : '$' ∉ s) :
    expandFrom vars 0 s = s := by
  induction s with
  | nil => rfl
  | cons c s ih =>
      obtain ⟨other, plain⟩ := not_or.mp (mt List.mem_cons.mpr plain)
      rw [expandFrom, if_pos (Ne.symm other), ih plain]

/-- **A text that refers to no variable stands as it is.** -/
theorem Environment.expand_of_notMem (environment : Environment) {text : String} (plain : '$' ∉ text.toList) :
    environment.expand text = text := by
  rw [expand, expandFrom_of_notMem environment.vars plain, String.ofList_toList]

end IntentSpec
