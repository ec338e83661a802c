import IntentSpec.Proofs.Document.Agreement
import IntentSpec.Proofs.Document.Entries
import IntentSpec.Proofs.Text.Lines

/-!
# Documents made of whole sections

A document can be put together from texts: a preamble through the line that opens the system, whole
sections, and a remainder that begins with the line that closes the system (`assembled`).  A section
is whole if the braces that it opens are closed by its last line and not earlier, and the system stays
open all the while.

The parse finds these sections, and no others, as the segments of the document
(`segments_assembled`).  What it reads from them into a table depends on the sections of one kind
alone, so if no two sections are of one kind their order makes no difference (`parse_reordered`).
-/

namespace IntentSpec.Document

open Text
open Predicate (row balance_row)

/-! ## The parts of a document -/

/-- The front of a document, through the line that opens the system. -/
structure Preamble where
  text : List Char
  /-- The front ends with its last line. -/
  ended : text.getLast? = some '\n'
  /-- No earlier line opens a system. -/
  plain : ∀ raw ∈ (endedLines text).dropLast, opensSystem raw = false
  /-- The last line opens the system and one brace. -/
  opens : ∃ system, (endedLines text).getLast? = some system ∧ opensSystem system = true ∧
    balance (stripComment system) = 1

/-- A section with all its lines, as it stands directly inside the system: the last line is the first
behind which the level is that of the system again. -/
structure WholeSection where
  kind : SectionKind
  text : List Char
  /-- The section ends with its last line. -/
  ended : text.getLast? = some '\n'
  /-- The first line opens the section. -/
  opens : (endedLines text).head?.bind (fun raw => sectionOpening? (row raw)) = some kind
  /-- Until the last line more than the brace of the system is open.  Where less were, the system would
  be closed, and what follows would not be read. -/
  inside : ∀ n < (endedLines text).length, 0 < n → 1 < level 1 (endedLines text) n
  /-- Behind the last line only the brace of the system is open. -/
  closes : level 1 (endedLines text) (endedLines text).length = 1

/-- The rest of a document, from the line that closes the system. -/
structure Remainder where
  text : List Char
  /-- The first line begins with a closing brace. -/
  brace : (((lines text).headD []).dropWhile isBlank).head? = some '\x7d'
  /-- The first line closes the system. -/
  closes : 1 + balance (stripComment ((lines text).headD [])) ≤ 0

/-- The document that is made of the parts. -/
def assembled (front : Preamble) (ss : List WholeSection) (back : Remainder) : String :=
  String.ofList (front.text ++ (ss.flatMap (·.text) ++ back.text))

/-- The section as a segment of a document. -/
def WholeSection.segment (s : WholeSection) : Segment := ⟨s.kind, endedLines s.text⟩

theorem lines_sections (ss : List WholeSection) (t : List Char) :
    lines (ss.flatMap (·.text) ++ t) = ss.flatMap (endedLines ·.text) ++ lines t := by
  induction ss with
  | nil => rfl
  | cons s ss ih =>
      rw [List.flatMap_cons, List.append_assoc, lines_append s.ended, ih, List.flatMap_cons,
        List.append_assoc]

/-- The lines of the document are those of its parts. -/
theorem lines_assembled (front : Preamble) (ss : List WholeSection) (back : Remainder) :
    lines (assembled front ss back).toList =
      endedLines front.text ++ (ss.flatMap (endedLines ·.text) ++ lines back.text) := by
  rw [assembled, String.toList_ofList, lines_append front.ended, lines_sections]

/-! ## Whole sections -/

namespace WholeSection

variable (s : WholeSection)

/-- A whole section begins with its opening and ends with the line that leads back to the level of the
system. -/
theorem exists_lines :
    ∃ opener inner closer depth, endedLines s.text = opener :: (inner ++ [closer]) ∧
      sectionOpening? (row opener) = some s.kind ∧ Walks 2 2 (rows inner) depth ∧
      depth + balance (stripComment closer) = 1 := by
  obtain ⟨opener, first, opens⟩ := Option.bind_eq_some_iff.mp s.opens
  obtain ⟨rest, split⟩ := List.head?_eq_some_iff.mp first
  have up : (1 : Int) + balance (stripComment opener) = 2 := by
    rw [← balance_row, balance_of_sectionOpening? opens]
    rfl
  have inside := s.inside
  have closes := s.closes
  rw [split, List.length_cons] at inside closes
  rw [level_cons_succ, up] at closes
  rcases List.eq_nil_or_concat' rest with rfl | ⟨inner, closer, rfl⟩
  · exact absurd closes (by decide)
  · have stays : ∀ n ≤ inner.length, 2 ≤ level 2 inner n := fun n within => by
      have above := inside (n + 1) (by simp; omega) (by omega)
      rw [level_cons_succ, up, level_append_of_le within] at above
      exact above
    refine ⟨opener, inner, closer, level 2 inner inner.length, split, opens,
      walks_of_level stays, ?_⟩
    rwa [List.length_append, List.length_singleton, level_append, level_cons_succ, level_zero]
      at closes

/-- A whole section begins with its name, perhaps behind blanks. -/
theorem exists_text :
    ∃ before rest, s.text = before ++ (s.kind.name.toList ++ rest) ∧
      ∀ c ∈ before, isBlank c = true := by
  obtain ⟨opener, inner, closer, -, split, opens, -⟩ := s.exists_lines
  have cut := lines_append s.ended []
  rw [List.append_nil, split, List.cons_append] at cut
  obtain ⟨behind, text⟩ := prefix_of_lines cut
  obtain ⟨before, after, comment, line, blank, -⟩ := shows_row opener
  obtain ⟨gap, -, name⟩ := (sectionOpening?_eq_some_iff _ _).mp opens
  refine ⟨before, gap ++ ['\x7b'] ++ after ++ comment ++ behind, ?_, blank⟩
  rw [← text, line, name]
  simp only [List.append_assoc]

/-- The section is a segment, and behind it the document goes on inside the system. -/
theorem segmentsFrom_append (rest : List (List Char)) :
    segmentsFrom 1 (endedLines s.text ++ rest) = s.segment :: segmentsFrom 1 rest := by
  obtain ⟨opener, inner, closer, depth, split, opens, walks, closes⟩ := s.exists_lines
  have lines : endedLines s.text ++ rest = opener :: (inner ++ closer :: rest) := by
    rw [split, List.cons_append, List.append_assoc, List.singleton_append]
  rw [lines, segmentsFrom_section opens walks closes, segment, split]

/-- The system is not over with the section. -/
theorem walks : Walks 1 1 (rows (endedLines s.text)) 1 := by
  have stays : ∀ n ≤ (endedLines s.text).length, 1 ≤ level 1 (endedLines s.text) n := by
    intro n within
    have inside := s.inside n
    have closes := s.closes
    rcases Nat.eq_zero_or_pos n with rfl | later
    · exact Int.le_of_eq (level_zero 1 _).symm
    · rcases Nat.lt_or_eq_of_le within with less | rfl
      · exact Int.le_of_lt (inside less later)
      · exact Int.le_of_eq closes.symm
  have walks := walks_of_level stays
  rwa [s.closes] at walks

end WholeSection

/-- The remainder begins with the brace that closes the system, perhaps behind blanks. -/
theorem Remainder.exists_text (back : Remainder) :
    ∃ before rest, back.text = before ++ '\x7d' :: rest ∧ ∀ c ∈ before, isBlank c = true := by
  obtain ⟨first, ls, split⟩ := exists_lines_eq_cons back.text
  have brace := back.brace
  rw [split, List.headD_cons] at brace
  obtain ⟨behind, closes⟩ := List.head?_eq_some_iff.mp brace
  obtain ⟨rest, text⟩ := prefix_of_lines split
  refine ⟨first.takeWhile isBlank, behind ++ rest, ?_, List.all_eq_true.mp List.all_takeWhile⟩
  rw [← List.cons_append, ← closes, ← List.append_assoc, List.takeWhile_append_dropWhile, text]

/-! ## The segments of the document -/

section Assembled

variable (front : Preamble) (ss : List WholeSection) (back : Remainder)

theorem walks_sections : Walks 1 1 (rows (ss.flatMap (endedLines ·.text))) 1 := by
  induction ss with
  | nil => rfl
  | cons s ss ih =>
      rw [List.flatMap_cons, rows_append]
      exact walks_append s.walks ih

theorem segmentsFrom_sections (rest : List (List Char)) :
    segmentsFrom 1 (ss.flatMap (endedLines ·.text) ++ rest) =
      ss.map WholeSection.segment ++ segmentsFrom 1 rest := by
  induction ss with
  | nil => rfl
  | cons s ss ih =>
      rw [List.flatMap_cons, List.append_assoc, s.segmentsFrom_append, ih, List.map_cons,
        List.cons_append]

/-- **The sections are the segments of the document.** Each is whole, so it ends where the next one
begins. -/
theorem segments_assembled :
    segments (lines (assembled front ss back).toList) = ss.map WholeSection.segment := by
  obtain ⟨system, last, opens, up⟩ := front.opens
  obtain ⟨before, split⟩ := List.getLast?_eq_some_iff.mp last
  have plain := front.plain
  rw [split, List.dropLast_concat] at plain
  obtain ⟨closer, tail, rest⟩ := exists_lines_eq_cons back.text
  have shuts := back.closes
  rw [rest, List.headD_cons] at shuts
  rw [lines_assembled, split, rest, List.append_assoc, List.singleton_append,
    segments_system plain opens up (walks_sections ss) shuts, segmentsFrom_sections,
    segmentsFrom_closer shuts, List.append_nil]

/-! ## The header of the document -/

theorem firstSystem?_append {ls : List (List Char)} (opened : ∃ raw ∈ ls, opensSystem raw = true)
    (rest : List (List Char)) : firstSystem? (ls ++ rest) = firstSystem? ls := by
  obtain ⟨name, found⟩ := Option.isSome_iff_exists.mp ((isSome_firstSystem?_iff ls).mpr opened)
  unfold firstSystem? at found ⊢
  rw [List.findSome?_append, found, Option.some_or]

theorem headerLine?_append {ls : List (List Char)} (shown : ∃ raw ∈ ls, significant raw ≠ [])
    (rest : List (List Char)) (number : Nat) :
    headerLine? number (ls ++ rest) = headerLine? number ls := by
  induction ls generalizing number with
  | nil => simp at shown
  | cons raw ls ih =>
      rw [List.cons_append, headerLine?, headerLine?]
      split
      next empty =>
        obtain ⟨other, here, shows⟩ := shown
        rcases List.mem_cons.mp here with rfl | later
        · exact absurd (by simpa using empty) shows
        · exact ih ⟨other, later, shows⟩ _
      next => rfl

/-- The line that opens the system is significant. -/
theorem significant_of_opensSystem {raw : List Char} (opens : opensSystem raw = true) :
    significant raw ≠ [] := by
  have letter : 'y' ∈ stripComment raw := by
    by_contra without
    unfold opensSystem at opens
    rw [systemName?_of_notMem without] at opens
    cases opens
  have trimmed : 'y' ∈ trim (stripComment raw) := mem_trim_of_mem (by decide) letter
  have behind : 'y' ∈ (trim (stripComment raw)).dropWhile (· == '\ufeff') := by
    rw [← List.takeWhile_append_dropWhile (p := (· == '\ufeff')) (l := trim (stripComment raw))]
      at trimmed
    rcases List.mem_append.mp trimmed with mark | behind
    · exact absurd (List.all_eq_true.mp List.all_takeWhile _ mark) (by decide)
    · exact behind
  exact List.ne_nil_of_mem (mem_trim_of_mem (by decide) behind)

/-- The header of the document is in its preamble. -/
theorem fullHeader_assembled (ss' : List WholeSection) :
    fullHeader (assembled front ss' back) =
      { fullHeader (assembled front ss back) with text := assembled front ss' back } := by
  obtain ⟨system, last, opens, -⟩ := front.opens
  have here : system ∈ endedLines front.text := List.mem_of_getLast? last
  refine fullHeader_congr ?line ?system
  case line =>
    have shown : ∃ raw ∈ endedLines front.text, significant raw ≠ [] :=
      ⟨system, here, significant_of_opensSystem opens⟩
    rw [lines_assembled, lines_assembled, headerLine?_append shown, headerLine?_append shown]
  case system =>
    have opened : ∃ raw ∈ endedLines front.text, opensSystem raw = true := ⟨system, here, opens⟩
    rw [lines_assembled, lines_assembled, firstSystem?_append opened, firstSystem?_append opened]

end Assembled

/-! ## Sections in another order -/

/-- Among segments of which no two are of one kind, those of a kind are the same in any order. -/
theorem filter_eq_of_perm {ss ss' : List Segment} (distinct : (ss.map (·.kind)).Nodup)
    (perm : ss.Perm ss') (kind : SectionKind) :
    ss'.filter (·.kind = kind) = ss.filter (·.kind = kind) := by
  have same : (ss'.filter (·.kind = kind)).Perm (ss.filter (·.kind = kind)) := perm.symm.filter _
  have kinds : ((ss.filter (·.kind = kind)).map (·.kind)).Nodup :=
    distinct.sublist (List.filter_sublist.map _)
  have all : ∀ segment ∈ ss.filter (·.kind = kind), segment.kind = kind := fun segment here => by
    simpa using List.of_mem_filter here
  rcases found : ss.filter (·.kind = kind) with _ | ⟨first, _ | ⟨second, rest⟩⟩
  · rw [found] at same
    exact (List.perm_nil.mp same).trans found.symm
  · rw [found] at same
    exact (List.perm_singleton.mp same).trans found.symm
  · rw [found] at kinds all
    have one : first.kind = second.kind := (all first (by simp)).trans (all second (by simp)).symm
    simp [one] at kinds

section Reordered

variable {segments segments' : List Segment} (distinct : (segments.map (·.kind)).Nodup)
  (perm : segments.Perm segments')

include distinct perm

theorem table_reordered {α : Type} [Named α] (reading : Reading α) :
    reading.table (readSegments segments') = reading.table (readSegments segments) := by
  unfold readSegments
  rw [← reading.table_foldl_filter segments' rfl, filter_eq_of_perm distinct perm,
    reading.table_foldl_filter segments rfl]

theorem capabilities_reordered :
    (readSegments segments').capabilities = (readSegments segments).capabilities := by
  have ids := ids_readSegments segments' .capabilities
  rw [filter_eq_of_perm distinct perm, ← ids_readSegments] at ids
  exact ids

/-- **The artifacts do not depend on the order of the segments**, as long as no two are of one kind:
each table is read from one of them. -/
theorem readSegments_reordered (header : Spec) :
    (readSegments segments').under header =
      { (readSegments segments).under header with sections := (readSegments segments').sections } := by
  have intents : (readSegments segments').intents = (readSegments segments).intents :=
    table_reordered distinct perm intentReading
  have constraints : (readSegments segments').constraints = (readSegments segments).constraints :=
    table_reordered distinct perm constraintReading
  have decisions : (readSegments segments').decisions = (readSegments segments).decisions :=
    table_reordered distinct perm decisionReading
  have validations : (readSegments segments').validations = (readSegments segments).validations :=
    table_reordered distinct perm validationReading
  unfold Spec.under
  rw [capabilities_reordered distinct perm, intents, constraints, decisions, validations]

/-- Nor does the raw text of a section. -/
theorem find?_reordered (kind : SectionKind) :
    (readSegments segments').sections.find? kind.name =
      (readSegments segments).sections.find? kind.name := by
  rw [find?_readSegments, find?_readSegments, filter_eq_of_perm distinct perm]

end Reordered

/-- **A document is read as before if its sections are put in another order**, if no two of them are of
one kind.  Only the order of their raw texts changes. -/
theorem parse_reordered (front : Preamble) (back : Remainder) {ss ss' : List WholeSection}
    (distinct : (ss.map (·.kind)).Nodup) (perm : ss.Perm ss') :
    ∃ sections : Table Section,
      Spec.parse (assembled front ss' back) =
        { Spec.parse (assembled front ss back) with text := assembled front ss' back, sections } ∧
      ∀ kind : SectionKind, sections.find? kind.name =
        (Spec.parse (assembled front ss back)).sections.find? kind.name := by
  have kinds : ((ss.map WholeSection.segment).map (·.kind)).Nodup := by
    rwa [List.map_map]
  have perm := perm.map WholeSection.segment
  refine ⟨(readSegments (ss'.map WholeSection.segment)).sections, ?artifacts, fun kind => ?texts⟩
  case artifacts =>
    have text : ∀ (spec header : Spec) (text : String),
        spec.under { header with text } = { spec.under header with text } := fun _ _ _ => rfl
    rw [parse_eq, parse_eq (assembled front ss back), segments_assembled, segments_assembled,
      fullHeader_assembled, text, readSegments_reordered kinds perm]
  case texts =>
    rw [sections_parse, segments_assembled]
    exact find?_reordered kinds perm kind

end IntentSpec.Document
