import IntentSpec.Proofs.Document.Recognise

/-!
# The segments of a document

The parse goes once over the lines of a document, counts braces as it goes and keeps the section that
is open.  Here the sections are cut out of the document without such a pass.  The system block goes
through the first line after its opening behind which no brace is open.  Inside it a line opens a
section exactly when one brace is open in front of it and it is an opening, and the section goes
through the first line behind which fewer than two braces are open.  How many braces are open is a
sum over the lines in front (`level`).

* `through` — the lines through the first that leaves fewer than some number of braces open.
* `segments` — the sections of a document, in the order of their openings.
* `foldl_step_inside` — the pass reads the segments, one after another.
-/

namespace IntentSpec.Document

open Text
open Predicate (row leaving balance_row classify_fst)

/-! ## Levels -/

/-- Opening braces less closing braces of some lines, comments left out. -/
def total : List (List Char) → Int
  | [] => 0
  | raw :: ls => balance (stripComment raw) + total ls

/-- The braces that are open behind the first `n` lines, if `base` are open in front of them. -/
def level (base : Int) (ls : List (List Char)) (n : Nat) : Int := base + total (ls.take n)

/-- The lines through the first behind which fewer than `bound` braces are open, or all of them. -/
def through (bound base : Int) (ls : List (List Char)) : List (List Char) :=
  match (List.range ls.length).find? fun n => level base ls (n + 1) < bound with
  | some n => ls.take (n + 1)
  | none => ls

theorem level_zero (base : Int) (ls : List (List Char)) : level base ls 0 = base := by
  simp [level, total]

theorem level_cons_succ (base : Int) (raw : List Char) (ls : List (List Char)) (n : Nat) :
    level base (raw :: ls) (n + 1) = level (base + balance (stripComment raw)) ls n := by
  simp only [level, List.take_succ_cons, total]
  omega

theorem total_append (ls ls' : List (List Char)) : total (ls ++ ls') = total ls + total ls' := by
  induction ls with
  | nil => exact (Int.zero_add _).symm
  | cons raw ls ih => rw [List.cons_append, total, total, ih, Int.add_assoc]

/-- Behind the first part of some lines the second part begins at the level that the first one leads
to. -/
theorem level_append (base : Int) (ls ls' : List (List Char)) (n : Nat) :
    level base (ls ++ ls') (ls.length + n) = level (level base ls ls.length) ls' n := by
  unfold level
  rw [List.take_length_add_append, total_append, List.take_length, Int.add_assoc]

theorem level_append_of_le {n : Nat} {ls : List (List Char)} (within : n ≤ ls.length) (base : Int)
    (ls' : List (List Char)) : level base (ls ++ ls') n = level base ls n := by
  unfold level
  rw [List.take_append_of_le_length within]

theorem through_nil (bound base : Int) : through bound base [] = [] := rfl

theorem through_cons (bound base : Int) (raw : List Char) (ls : List (List Char)) :
    through bound base (raw :: ls) =
      if base + balance (stripComment raw) < bound then [raw]
      else raw :: through bound (base + balance (stripComment raw)) ls := by
  unfold through
  rw [List.length_cons, List.range_succ_eq_map, List.find?_cons, List.find?_map]
  simp only [level_cons_succ, level_zero, Function.comp_def]
  by_cases closes : base + balance (stripComment raw) < bound
  · simp [closes]
  · simp only [closes, decide_false, if_false]
    cases (List.range ls.length).find? fun n =>
      decide (level (base + balance (stripComment raw)) ls (n + 1) < bound) <;> rfl

/-- A part that ends earlier can be cut out of a part that ends later. -/
theorem through_through {bound bound' : Int} (less : bound ≤ bound') (base : Int)
    (ls : List (List Char)) :
    through bound' base (through bound base ls) = through bound' base ls := by
  induction ls generalizing base with
  | nil => rfl
  | cons raw ls ih =>
      by_cases ends : base + balance (stripComment raw) < bound
      · have ends' : base + balance (stripComment raw) < bound' := by omega
        rw [through_cons bound, if_pos ends, through_cons, if_pos ends', through_cons, if_pos ends']
      · rw [through_cons bound, if_neg ends, through_cons, through_cons bound' base raw ls, ih]

/-! ## Segments -/

/-- A section with the lines from its opening through its end. -/
structure Segment where
  kind : SectionKind
  /-- The lines as they stand in the document. -/
  lines : List (List Char)
deriving DecidableEq

/-- Whether a line opens the system block. -/
def opensSystem (raw : List Char) : Bool := (systemName? false (stripComment raw)).isSome

/-- The section that the line with the number `n` opens, if `base` braces are open in front of the
lines. -/
def opening? (base : Int) (ls : List (List Char)) (n : Nat) : Option SectionKind :=
  if level base ls n = 1 then ls[n]?.bind fun raw => sectionOpening? (row raw) else none

/-- The segments of the lines of a system block. -/
def segmentsFrom (base : Int) (ls : List (List Char)) : List Segment :=
  (List.range ls.length).filterMap fun n =>
    (opening? base ls n).map fun kind => ⟨kind, through 2 (level base ls n) (ls.drop n)⟩

/-- The segments of the lines of a document.  The system block begins at the first line that opens
it. -/
def segments (ls : List (List Char)) : List Segment :=
  match ls.dropWhile (!opensSystem ·) with
  | [] => []
  | system :: rest =>
    segmentsFrom (balance (stripComment system)) (through 1 (balance (stripComment system)) rest)

theorem segmentsFrom_nil (base : Int) : segmentsFrom base [] = [] := rfl

theorem segmentsFrom_cons (base : Int) (raw : List Char) (ls : List (List Char)) :
    segmentsFrom base (raw :: ls) =
      ((if base = 1 then sectionOpening? (row raw) else none).map fun kind =>
        Segment.mk kind (through 2 base (raw :: ls))).toList ++
      segmentsFrom (base + balance (stripComment raw)) ls := by
  unfold segmentsFrom opening?
  rw [List.length_cons, List.range_succ_eq_map, List.filterMap_cons, List.filterMap_map]
  simp only [level_cons_succ, level_zero, Function.comp_def, List.drop_succ_cons,
    List.getElem?_cons_succ, List.getElem?_cons_zero, List.drop_zero, Option.bind_some]
  cases (if base = 1 then sectionOpening? (row raw) else none) <;> rfl

theorem segmentsFrom_cons_of_none {base : Int} {raw : List Char}
    (plain : (if base = 1 then sectionOpening? (row raw) else none) = none)
    (ls : List (List Char)) :
    segmentsFrom base (raw :: ls) = segmentsFrom (base + balance (stripComment raw)) ls := by
  rw [segmentsFrom_cons, plain]
  rfl

/-! ## The lines of segments -/

theorem through_sublist (bound base : Int) (ls : List (List Char)) :
    (through bound base ls).Sublist ls := by
  unfold through
  split
  · exact List.take_sublist _ _
  · exact List.Sublist.refl ls

theorem sublist_of_mem_segmentsFrom {base : Int} {ls : List (List Char)} {segment : Segment}
    (here : segment ∈ segmentsFrom base ls) : segment.lines.Sublist ls := by
  obtain ⟨n, -, opened⟩ := List.mem_filterMap.mp here
  obtain ⟨kind, -, rfl⟩ := Option.map_eq_some_iff.mp opened
  exact (through_sublist ..).trans (List.drop_sublist n ls)

/-- The lines of a segment are lines of the document. -/
theorem sublist_of_mem_segments {ls : List (List Char)} {segment : Segment}
    (here : segment ∈ segments ls) : segment.lines.Sublist ls := by
  unfold segments at here
  split at here
  next => cases here
  next system rest cut =>
    have behind : rest.Sublist ls :=
      (List.sublist_cons_self system rest).trans (cut ▸ List.dropWhile_sublist _)
    exact (sublist_of_mem_segmentsFrom here).trans ((through_sublist ..).trans behind)

/-! ## The pass reads the segments -/

/-- The effect of a line of an open section. -/
def readLine (here : OpenSection × Spec) (raw : List Char) : OpenSection × Spec :=
  here.1.classify (here.2.appendRaw here.1.kind.name raw) (row raw)

/-- The effect of a segment: the section opens, and all its lines are read. -/
def Spec.readSegment (spec : Spec) (segment : Segment) : Spec :=
  (segment.lines.foldl readLine (enter segment.kind 1 spec)).2

/-- The effect of the lines that are left of the section that is open, if one is. -/
def finish (current : Option OpenSection) (spec : Spec) (ls : List (List Char)) : Spec :=
  match current with
  | none => spec
  | some entered => (ls.foldl readLine (entered, spec)).2

/-- A line is read by the section that is open once the line has had the chance to open one. -/
theorem stepInside_eq (depth : Int) (current : Option OpenSection) (spec : Spec)
    (raw : List Char) :
    stepInside depth current spec raw =
      match sectionAt depth current spec (row raw) with
      | (none, spec) => ⟨leaving (depth + balance (stripComment raw)) none, spec⟩
      | (some entered, spec) =>
        ⟨leaving (depth + balance (stripComment raw)) (some (readLine (entered, spec) raw).1),
          (readLine (entered, spec) raw).2⟩ := by
  unfold stepInside row leaving
  dsimp only
  cases sectionAt depth current spec (trim (stripComment raw)) with
  | mk here spec => cases here <;> rfl

theorem stepInside_of_opening {depth : Int} {raw : List Char} {kind : SectionKind}
    (opening : (if depth = 1 then sectionOpening? (row raw) else none) = some kind)
    (current : Option OpenSection) (spec : Spec) :
    depth = 1 ∧ balance (stripComment raw) = 1 ∧ stepInside depth current spec raw =
      ⟨.inside 2 (some (readLine (enter kind 1 spec) raw).1),
        (readLine (enter kind 1 spec) raw).2⟩ := by
  obtain ⟨rfl, opens⟩ : depth = 1 ∧ sectionOpening? (row raw) = some kind := by
    simpa using opening
  have one : balance (stripComment raw) = 1 := by
    rw [← balance_row]
    exact balance_of_sectionOpening? opens
  have floor : (readLine (enter kind 1 spec) raw).1.floor = 2 := (classify_fst _ _ _).2.1
  refine ⟨rfl, one, ?_⟩
  rw [stepInside_eq, one]
  unfold sectionAt
  rw [if_pos rfl, opens]
  simp [leaving, floor]

theorem stepInside_of_plain {depth : Int} {current : Option OpenSection} {raw : List Char}
    (plain : (if depth = 1 then sectionOpening? (row raw) else none) = none) (spec : Spec) :
    stepInside depth current spec raw =
      match current with
      | none => ⟨leaving (depth + balance (stripComment raw)) none, spec⟩
      | some entered =>
        ⟨leaving (depth + balance (stripComment raw)) (some (readLine (entered, spec) raw).1),
          (readLine (entered, spec) raw).2⟩ := by
  rw [stepInside_eq]
  unfold sectionAt
  rw [plain]
  cases current <;> rfl

theorem foldl_step_closed (ls : List (List Char)) (spec : Spec) :
    ls.foldl Scan.step ⟨.closed, spec⟩ = ⟨.closed, spec⟩ := by
  induction ls with
  | nil => rfl
  | cons raw ls ih => exact ih

/-- **Inside the system the pass finishes the section that is open and then reads the segments.**
A section that is open was opened directly inside the system. -/
theorem foldl_step_inside (ls : List (List Char)) (base : Int) (current : Option OpenSection)
    (spec : Spec) (inner : ∀ entered ∈ current, entered.floor = 2 ∧ 2 ≤ base) :
    (ls.foldl Scan.step ⟨.inside base current, spec⟩).spec =
      (segmentsFrom base (through 1 base ls)).foldl Spec.readSegment
        (finish current spec (through 2 base ls)) := by
  induction ls generalizing base current spec with
  | nil => cases current <;> rfl
  | cons raw ls ih =>
      rw [List.foldl_cons]
      show (ls.foldl Scan.step (stepInside base current spec raw)).spec = _
      cases opening : (if base = 1 then sectionOpening? (row raw) else none) with
      | some kind =>
          obtain ⟨rfl, one, step⟩ := stepInside_of_opening opening current spec
          -- an open section has two braces open in front of each of its lines
          obtain rfl : current = none := by
            by_contra some
            obtain ⟨entered, rfl⟩ := Option.ne_none_iff_exists'.mp some
            exact absurd (inner entered rfl).2 (by decide)
          have floor : (readLine (enter kind 1 spec) raw).1.floor = 2 := (classify_fst _ _ _).2.1
          have goesOn : ∀ bound ≤ 2, through bound 1 (raw :: ls) = raw :: through bound 2 ls := by
            intro bound less
            rw [through_cons, one, if_neg (by omega)]
            rfl
          have cut : through 2 1 (raw :: through 1 2 ls) = raw :: through 2 2 ls := by
            rw [← goesOn 1 (by decide), through_through (by decide), goesOn 2 (by decide)]
          rw [step, ih 2 _ _ (by rintro _ ⟨rfl⟩; exact ⟨floor, by decide⟩), goesOn 1 (by decide),
            segmentsFrom_cons, opening, one, cut]
          rfl
      | none =>
          rw [stepInside_of_plain opening]
          by_cases closes : base + balance (stripComment raw) ≤ 0
          · -- the line closes the system, and with it the section
            have last : ∀ bound ≥ 1, through bound base (raw :: ls) = [raw] := fun bound more => by
              rw [through_cons, if_pos (by omega)]
            rw [last 1 (by decide), last 2 (by decide), segmentsFrom_cons_of_none opening,
              segmentsFrom_nil]
            cases current <;> simp [leaving, closes, foldl_step_closed, finish]
          · rw [through_cons 1, if_neg (by omega), segmentsFrom_cons_of_none opening, leaving,
              if_neg closes]
            cases current with
            | none => exact ih _ none spec (by simp)
            | some entered =>
                have floor : (readLine (entered, spec) raw).1.floor = 2 :=
                  (classify_fst _ _ _).2.1.trans (inner entered rfl).1
                by_cases stays : base + balance (stripComment raw) < 2
                · -- the line closes the section, but not the system
                  rw [through_cons 2, if_pos stays]
                  simp only [leaving, if_neg closes, Option.filter_some, floor]
                  rw [if_neg (by simpa using stays)]
                  exact ih _ none _ (by simp)
                · -- the section goes on behind the line
                  rw [through_cons 2, if_neg stays]
                  simp only [leaving, if_neg closes, Option.filter_some, floor]
                  rw [if_pos (decide_eq_true (Int.not_lt.mp stays))]
                  exact ih _ (some _) _ (by rintro _ ⟨rfl⟩; exact ⟨floor, by omega⟩)

end IntentSpec.Document
