import IntentSpec.Proofs.Document.Artifacts
import IntentSpec.Proofs.Document.Outline

/-!
# Documents with the rows of an outline

A document that has the rows of an outline opens the system on one line, and there its name is read
(`exists_system`).  Behind that line each section of the outline is a segment, and there are no
other segments (`segments_of_rows`).  Nothing is missing in its header (`parse_of_rows`).

The rows of a document leave out the lines that show nothing, and these still belong to a segment.  So
a segment is compared with a section of the outline by its rows (`Segment.Holds`) and not by its lines,
and it ends as soon as it has them, because the closing brace takes the level back.

The name of the system is the one thing that is read off a line with its blanks and not off its row.
In front of the line that opens the system there is only the version, and it has no letter y, which is
enough to see that no earlier line opens one (`systemName?_of_notMem`).
-/

namespace IntentSpec.Document

open Text
open Predicate (row balance_row leaving)

variable {outline : Outline}

/-! ## The line that opens the system -/

/-- Trimming loses blanks only. -/
theorem mem_trim_of_mem {s : List Char} {c : Char} (solid : isBlank c = false) (here : c ∈ s) :
    c ∈ trim s := by
  obtain ⟨before, after, split, blank, blank'⟩ := exists_trim s
  rw [split] at here
  rcases List.mem_append.mp here with hb | here
  · exact absurd (blank c hb) (by simp [solid])
  · rcases List.mem_append.mp here with hr | ha
    · exact hr
    · exact absurd (blank' c ha) (by simp [solid])

theorem systemName?_of_row {raw : List Char} (without : 'y' ∉ row raw) :
    systemName? false (stripComment raw) = none :=
  systemName?_of_notMem (fun here => without (mem_trim_of_mem (by decide) here)) false

theorem systemName?_of_opening {raw : List Char} (shown : row raw = outline.opening) :
    systemName? false (stripComment raw) = some outline.name.text.toList := by
  obtain ⟨before, after, split, blank, -⟩ := exists_trim (stripComment raw)
  have quotes : '"' ∉ outline.name.text.toList := fun here =>
    outline.name.plain _ here (by decide)
  have opens : systemOpening? (trim (stripComment raw) ++ after) =
      some outline.name.text.toList := by
    have opens := systemOpening?_append outline.name.nonempty quotes after
    have split : outline.opening ++ after = "system".toList ++
        ' ' :: '"' :: (outline.name.text.toList ++ '"' :: ' ' :: '\x7b' :: after) := by
      show "system".toList ++ ' ' :: '"' :: (outline.name.text.toList ++ ['"', ' ', '\x7b']) ++
        after = _
      simp only [List.append_assoc, List.cons_append, List.nil_append]
    rw [show trim (stripComment raw) = outline.opening from shown, split, opens]
  rw [split]
  exact systemName?_append blank opens

/-- The system is opened on one line, with the version in front of it. -/
theorem exists_system {ls : List (List Char)} (shown : rows ls = outline.rows) :
    ∃ front system back, ls = front ++ system :: back ∧ rows front = ["DIL:spec v0".toList] ∧
      (∀ raw ∈ front, systemName? false (stripComment raw) = none) ∧
      row system = outline.opening ∧
      rows back = outline.parts.flatMap Part.rows ++ [closing] := by
  obtain ⟨version, others, rfl, first, rest⟩ :=
    (rows_eq_append_iff ls ["DIL:spec v0".toList] _).mp shown
  obtain ⟨idle, system, back, rfl, none, opens, inner⟩ := exists_of_rows_eq_cons rest
  have front : rows (version ++ idle) = ["DIL:spec v0".toList] := by
    rw [rows_append, first, none, List.append_nil]
  refine ⟨version ++ idle, system, back, (List.append_assoc _ _ _).symm, front, fun raw here => ?_,
    opens, inner⟩
  refine systemName?_of_row ?_
  by_cases empty : row raw = []
  · rw [empty]
    exact List.not_mem_nil
  · have listed : row raw ∈ rows (version ++ idle) :=
      List.mem_filter.mpr ⟨List.mem_map_of_mem here, by simpa using empty⟩
    rw [front, List.mem_singleton] at listed
    rw [listed]
    decide

/-! ## The segments -/

/-- A segment holds a section: its lines have the rows of the section and are no more than needed
for them. The second condition places the end of the segment at the line of the closing brace. -/
structure Segment.Holds (segment : Segment) (part : Part) : Prop where
  /-- The segment is of the kind of the section. -/
  kind : segment.kind = part.kind
  /-- The lines have the rows of the section. -/
  rows : rows segment.lines = part.rows
  /-- The first line shows the first row. -/
  first : ∀ raw ∈ segment.lines.head?, row raw ≠ []
  /-- The last line shows the last row. -/
  last : ∀ raw ∈ segment.lines.getLast?, row raw ≠ []

theorem sectionOpening?_of_part (part : Part) :
    sectionOpening? (part.kind.name.toList ++ [' ', '\x7b']) = some part.kind :=
  (sectionOpening?_eq_some_iff _ _).mpr ⟨[' '], List.forall_mem_singleton.mpr rfl, rfl⟩

/-- A section of an outline is a segment, and behind it the document goes on inside the system. -/
theorem exists_segment {part : Part} {body rest : List (List Char)}
    (shown : rows body = part.rows ++ rest) :
    ∃ (segment : Segment) (body' : List (List Char)), segment.Holds part ∧ rows body' = rest ∧
      ∀ back, segmentsFrom 1 (body ++ back) = segment :: segmentsFrom 1 (body' ++ back) := by
  have shown' : rows body = (part.kind.name.toList ++ [' ', '\x7b']) ::
      (part.blocks.flatMap (Block.rows part.kind) ++ closing :: rest) := by
    simpa [Part.rows] using shown
  -- the opening, the rows of the blocks and the closing brace, with idle lines in front of each
  obtain ⟨idle, opener, body, rfl, skipped, opens, shown'⟩ := exists_of_rows_eq_cons shown'
  obtain ⟨blocks, body, rfl, inner, shown'⟩ := (rows_eq_append_iff _ _ _).mp shown'
  obtain ⟨idle', closer, body, rfl, skipped', closes, shown'⟩ := exists_of_rows_eq_cons shown'
  have inside : rows (blocks ++ idle') = part.blocks.flatMap (Block.rows part.kind) := by
    rw [rows_append, inner, skipped', List.append_nil]
  have walks : Walks 2 2 (rows (blocks ++ idle')) 2 := inside ▸ part.walks_blocks
  have opening : sectionOpening? (row opener) = some part.kind := by
    rw [opens, sectionOpening?_of_part]
  have down : (2 : Int) + balance (stripComment closer) = 1 := by
    rw [← balance_row, closes]
    rfl
  refine ⟨⟨part.kind, opener :: ((blocks ++ idle') ++ [closer])⟩, body, ?holds, shown',
    fun back => ?goesOn⟩
  case holds =>
    have opened : row opener ≠ [] := by simp [opens]
    have closed : row closer ≠ [] := by simp [closes, closing]
    constructor
    · rfl
    · rw [rows_cons_of_shown opened, rows_append, inside, rows_cons_of_shown closed, rows_nil, opens,
        closes, Part.rows]
    · rintro raw ⟨rfl⟩
      exact opened
    · intro raw last
      rw [← List.cons_append, List.getLast?_concat] at last
      exact Option.some.inj last ▸ closed
  case goesOn =>
    have lines : idle ++ opener :: (blocks ++ (idle' ++ closer :: body)) ++ back =
        idle ++ (opener :: ((blocks ++ idle') ++ closer :: (body ++ back))) := by
      simp
    rw [lines, segmentsFrom_idle skipped, segmentsFrom_section opening walks down]

theorem segmentsFrom_parts (parts : List Part) {body back : List (List Char)}
    (shown : rows body = parts.flatMap Part.rows) (nothing : segmentsFrom 1 back = []) :
    List.Forall₂ Segment.Holds (segmentsFrom 1 (body ++ back)) parts := by
  induction parts generalizing body with
  | nil =>
      rw [segmentsFrom_idle shown, nothing]
      exact .nil
  | cons part parts ih =>
      obtain ⟨segment, body', holds, shown', goesOn⟩ := exists_segment shown
      rw [goesOn]
      exact .cons holds (ih shown')

theorem segments_append {front : List (List Char)}
    (plain : ∀ raw ∈ front, opensSystem raw = false) (back : List (List Char)) :
    segments (front ++ back) = segments back := by
  induction front with
  | nil => rfl
  | cons raw front ih =>
      obtain ⟨here, plain⟩ := List.forall_mem_cons.mp plain
      rw [List.cons_append, segments_cons, if_neg (by simp [here]), ih plain]

/-- The system goes from the line that opens it through the first that closes it. -/
theorem segments_system {front body tail : List (List Char)} {system closer : List Char}
    (plain : ∀ raw ∈ front, opensSystem raw = false) (opens : opensSystem system = true)
    (up : balance (stripComment system) = 1) (walks : Walks 1 1 (rows body) 1)
    (shuts : 1 + balance (stripComment closer) ≤ 0) :
    segments (front ++ system :: (body ++ closer :: tail)) = segmentsFrom 1 (body ++ [closer]) := by
  have ends : through 1 1 (body ++ closer :: tail) = body ++ [closer] := by
    rw [through_append walks (by decide), through_cons, if_pos (by omega)]
  rw [segments_append plain, segments_cons, if_pos opens, up, ends]

/-- **The sections of an outline are the segments** of a document that has its rows: one segment for
each section, in the same order, and each holding the rows of its section. -/
theorem segments_of_rows {ls : List (List Char)} (shown : rows ls = outline.rows) :
    List.Forall₂ Segment.Holds (segments ls) outline.parts := by
  obtain ⟨front, system, back, rfl, -, plain, opens, inner⟩ := exists_system shown
  obtain ⟨body, rest, rfl, parts, shut⟩ := (rows_eq_append_iff _ _ _).mp inner
  obtain ⟨idle, closer, tail, rfl, skipped, closes, -⟩ := exists_of_rows_eq_cons shut
  have opened : opensSystem system = true := by
    unfold opensSystem
    rw [systemName?_of_opening opens]
    rfl
  have up : balance (stripComment system) = 1 := by
    rw [← balance_row, opens, outline.balance_opening]
  have shuts : 1 + balance (stripComment closer) ≤ 0 := by
    rw [← balance_row, closes]
    decide
  -- behind the sections the closing brace is the first to leave no brace open
  have walks : Walks 1 1 (rows (body ++ idle)) 1 := by
    rw [rows_append, skipped, List.append_nil, parts]
    exact walks_parts outline.parts
  have noOpening : ∀ raw ∈ front, opensSystem raw = false := fun raw here => by
    rw [opensSystem, plain raw here]
    rfl
  have nothing : segmentsFrom 1 (idle ++ [closer]) = [] := by
    rw [segmentsFrom_idle skipped, segmentsFrom_closer shuts]
  rw [← List.append_assoc, segments_system noOpening opened up walks shuts, List.append_assoc]
  exact segmentsFrom_parts outline.parts parts nothing

/-! ## The header -/

theorem headerLine?_of_rows {ls rs : List (List Char)} (shown : rows ls = "DIL:spec v0".toList :: rs)
    (number : Nat) : ∃ n, headerLine? number ls = some (n, "DIL:spec v0".toList) := by
  induction ls generalizing number with
  | nil => exact absurd shown (by simp [rows_nil])
  | cons raw ls ih =>
      have sees : significant raw = trim ((row raw).dropWhile (· == '\ufeff')) := rfl
      by_cases empty : row raw = []
      · rw [rows_cons_of_idle empty] at shown
        rw [empty] at sees
        rw [headerLine?, sees]
        exact ih shown _
      · rw [rows_cons_of_shown empty] at shown
        rw [(List.cons.inj shown).1] at sees
        exact ⟨number, by rw [headerLine?, sees]; rfl⟩

theorem readHeader_of_rows {ls rs : List (List Char)} (shown : rows ls = "DIL:spec v0".toList :: rs)
    (spec : Spec) : spec.readHeader ls = { spec with version := "DIL:spec v0" } := by
  obtain ⟨n, found⟩ := headerLine?_of_rows shown 1
  unfold Spec.readHeader
  rw [found]
  rfl

theorem readSystem_of_rows {ls : List (List Char)} (shown : rows ls = outline.rows) (spec : Spec) :
    spec.readSystem ls = { spec with system := String.ofList (trim outline.name.text.toList) } := by
  obtain ⟨front, system, back, rfl, -, plain, opens, -⟩ := exists_system shown
  have found : (front ++ system :: back).findSome?
      (fun raw => systemName? false (stripComment raw)) = some outline.name.text.toList := by
    rw [List.findSome?_append, List.findSome?_eq_none_iff.mpr plain, Option.none_or,
      List.findSome?_cons, systemName?_of_opening opens]
  obtain ⟨c, rest, name⟩ := List.exists_cons_of_ne_nil outline.named
  have known := outline.known
  rw [name] at known
  unfold Spec.readSystem
  dsimp only
  rw [found, Option.map_some, name]
  exact if_neg known

theorem phase_step {scan : Scan} (opened : scan.phase ≠ .before) (raw : List Char) :
    (scan.step raw).phase ≠ .before := by
  unfold Scan.step
  split
  next before => exact absurd before opened
  next depth current _ =>
    rw [stepInside_eq]
    split <;> (unfold leaving; dsimp only; split <;> simp)
  next => exact opened

/-- The pass has found the system once it has come to a line that opens it. -/
theorem phase_foldl_step {ls : List (List Char)} {scan : Scan}
    (opened : scan.phase ≠ .before ∨ ∃ raw ∈ ls, opensSystem raw = true) :
    (ls.foldl Scan.step scan).phase ≠ .before := by
  induction ls generalizing scan with
  | nil => simpa using opened
  | cons raw ls ih =>
      refine ih ?_
      by_cases before : scan.phase = .before
      · obtain ⟨other, here, opens⟩ := opened.resolve_left (not_not.mpr before)
        rcases List.mem_cons.mp here with rfl | later
        · obtain ⟨phase, spec⟩ := scan
          obtain rfl : phase = .before := before
          rw [step_of_opensSystem opens]
          exact Or.inl fun same => Phase.noConfusion same
        · exact Or.inr ⟨other, later, opens⟩
      · exact Or.inl (phase_step before raw)

/-- **A document that opens a system is parsed into its header and its segments.** Only where none
is opened is an issue added behind. -/
theorem parse_of_opened {text : String}
    (opened : ∃ raw ∈ lines text.toList, opensSystem raw = true) :
    Spec.parse text = (readSegments (segments (lines text.toList))).under (header text) := by
  have found : ((header text).scan (lines text.toList)).phase ≠ .before :=
    phase_foldl_step (Or.inr opened)
  rw [← scan_spec]
  unfold Spec.parse
  dsimp only
  rw [show ({ text : Spec }.readHeader (lines text.toList)).readSystem (lines text.toList) =
    header text from rfl]
  split
  next before => exact absurd before found
  next => rfl

/-- **Nothing is missing in the header** of a document with the rows of an outline. -/
theorem parse_of_rows {text : String} (shown : rows (lines text.toList) = outline.rows) :
    Spec.parse text = (readSegments (segments (lines text.toList))).under
      { text, version := "DIL:spec v0",
        system := String.ofList (trim outline.name.text.toList) } := by
  have opened : ∃ raw ∈ lines text.toList, opensSystem raw = true := by
    obtain ⟨front, system, back, split, -, -, opens, -⟩ := exists_system shown
    refine ⟨system, by simp [split], ?_⟩
    unfold opensSystem
    rw [systemName?_of_opening opens]
    rfl
  rw [parse_of_opened opened]
  unfold header
  rw [readHeader_of_rows shown, readSystem_of_rows shown]

end IntentSpec.Document
