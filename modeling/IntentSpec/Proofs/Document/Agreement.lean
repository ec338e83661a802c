import IntentSpec.Proofs.Document.Arrangement
import IntentSpec.Proofs.Predicate.Declared
import Mathlib.Data.List.Forall2

/-!
# Documents that are read alike

The passes over a document look at a line in two ways only: at its row, and, in search of the system,
at the line without its comment.  Lines that agree in both are read alike (`ReadAlike`), and documents
whose lines are read alike, one by one, have the same headers, the same artifacts and the same
predicates.  The raw text of the sections is all that can tell them apart.

The relation is one between lines, and every statement lifts it to lists of lines item by item.  In this form
it serves both for comments that are deleted and for other changes that leave each line in its place.  Lines
that are added or taken away are another matter: positions in issues count them.

* `parse_eq` — a parse as its segments under its header.
* `segments_forall₂` — the segments of such documents correspond to each other.
* `parse_agree`, `extract_agree` — the documents are read alike.
-/

namespace IntentSpec.Document

open Text
open Predicate (row balance_row)

/-! ## Lines -/

/-- Two lines that no pass over a document tells apart. -/
structure ReadAlike (raw raw' : List Char) : Prop where
  row_eq : row raw' = row raw
  /-- The lines open the same system, or none. -/
  system_eq : systemName? false (stripComment raw') = systemName? false (stripComment raw)

variable {raw raw' : List Char}

theorem ReadAlike.balance_eq (alike : ReadAlike raw raw') :
    balance (stripComment raw') = balance (stripComment raw) := by
  rw [← balance_row, alike.row_eq, balance_row]

theorem ReadAlike.opensSystem_eq (alike : ReadAlike raw raw') :
    opensSystem raw' = opensSystem raw :=
  congrArg Option.isSome alike.system_eq

theorem ReadAlike.significant_eq (alike : ReadAlike raw raw') :
    significant raw' = significant raw :=
  congrArg (fun r : List Char => trim (r.dropWhile (· == '\ufeff'))) alike.row_eq

/-! ## Segments -/

section Segments

variable {R : List Char → List Char → Prop}

/-- Two segments of one kind whose lines are related, one by one. -/
structure Segment.Alike (R : List Char → List Char → Prop) (segment segment' : Segment) : Prop where
  /-- The segments are of one kind. -/
  kind_eq : segment'.kind = segment.kind
  lines : List.Forall₂ R segment.lines segment'.lines

variable (alike : ∀ {raw raw'}, R raw raw' → ReadAlike raw raw') {ls ls' : List (List Char)}

include alike

theorem through_forall₂ (bound base : Int) (related : List.Forall₂ R ls ls') :
    List.Forall₂ R (through bound base ls) (through bound base ls') := by
  induction related generalizing base with
  | nil => exact .nil
  | cons first rest ih =>
      rw [through_cons, through_cons, (alike first).balance_eq]
      split
      · exact .cons first .nil
      · exact .cons first (ih _)

theorem segmentsFrom_forall₂ (base : Int) (related : List.Forall₂ R ls ls') :
    List.Forall₂ (Segment.Alike R) (segmentsFrom base ls) (segmentsFrom base ls') := by
  induction related generalizing base with
  | nil => exact .nil
  | @cons raw raw' ls ls' first rest ih =>
      rw [segmentsFrom_cons, segmentsFrom_cons, (alike first).balance_eq, (alike first).row_eq]
      refine List.rel_append ?_ (ih _)
      cases (if base = 1 then sectionOpening? (row raw) else none) with
      | none => exact .nil
      | some kind => exact .cons ⟨rfl, through_forall₂ alike 2 base (.cons first rest)⟩ .nil

/-- **Lines that are read alike are cut into the same segments.** Braces and openings are read off
the rows, on which the lines agree. -/
theorem segments_forall₂ (related : List.Forall₂ R ls ls') :
    List.Forall₂ (Segment.Alike R) (segments ls) (segments ls') := by
  induction related with
  | nil => exact .nil
  | cons first rest ih =>
      rw [segments_cons, segments_cons, (alike first).opensSystem_eq, (alike first).balance_eq]
      split
      · exact segmentsFrom_forall₂ alike _ (through_forall₂ alike 1 _ rest)
      · exact ih

end Segments

/-! ## Artifacts -/

/-- A specification without the raw text of its sections. -/
def Spec.bare (spec : Spec) : Spec := { spec with sections := .empty }

/-- A line of a section does not look at the raw texts. -/
theorem effect_bare (entered : OpenSection) (trimmed : List Char) (spec : Spec) :
    (entered.effect trimmed spec).bare = entered.effect trimmed spec.bare := by
  unfold OpenSection.effect
  cases entered.kind <;> rfl

theorem foldl_readLine_bare {ls ls' : List (List Char)} (related : List.Forall₂ ReadAlike ls ls')
    {spec spec' : Spec} (same : spec'.bare = spec.bare) (entered : OpenSection) :
    (ls'.foldl readLine (entered, spec')).2.bare = (ls.foldl readLine (entered, spec)).2.bare := by
  induction related generalizing entered spec spec' with
  | nil => exact same
  | @cons raw raw' _ _ first _ ih =>
      have raws : (spec'.appendRaw entered.kind.name raw').bare =
          (spec.appendRaw entered.kind.name raw).bare := same
      rw [List.foldl_cons, List.foldl_cons, readLine_eq, readLine_eq, first.row_eq]
      refine ih ?_ _
      rw [effect_bare, raws, effect_bare]

theorem readSegment_bare {segment segment' : Segment} (related : segment.Alike ReadAlike segment')
    {spec spec' : Spec} (same : spec'.bare = spec.bare) :
    (spec'.readSegment segment').bare = (spec.readSegment segment).bare := by
  unfold Spec.readSegment
  rw [related.kind_eq]
  exact foldl_readLine_bare related.lines (show (enter segment.kind 1 spec').2.bare =
    (enter segment.kind 1 spec).2.bare from same) (enter segment.kind 1 spec).1

theorem readSegments_bare {ss ss' : List Segment}
    (related : List.Forall₂ (Segment.Alike ReadAlike) ss ss') :
    (readSegments ss').bare = (readSegments ss).bare := by
  have read : ∀ {spec spec' : Spec}, spec'.bare = spec.bare →
      (ss'.foldl Spec.readSegment spec').bare = (ss.foldl Spec.readSegment spec).bare := by
    induction related with
    | nil => exact id
    | cons first _ ih => exact fun same => ih (readSegment_bare first same)
  exact read rfl

/-! ## Headers -/

/-- The name in the first opening of the system. -/
def firstSystem? (ls : List (List Char)) : Option (List Char) :=
  ls.findSome? fun raw => systemName? false (stripComment raw)

/-- The issue of a document without a system. -/
def undetected : Issue where
  message := "System block was not detected; validation may be unreliable."
  line := some 1

/-- The header as the parse returns it: with an issue if no line opens the system. -/
def fullHeader (text : String) : Spec :=
  { header text with
    issues := (header text).issues ++
      if (firstSystem? (lines text.toList)).isSome then [] else [undetected] }

theorem isSome_firstSystem?_iff (ls : List (List Char)) :
    (firstSystem? ls).isSome = true ↔ ∃ raw ∈ ls, opensSystem raw = true :=
  List.findSome?_isSome_iff

theorem phase_of_plain {ls : List (List Char)} (plain : ∀ raw ∈ ls, opensSystem raw = false)
    (spec : Spec) : (spec.scan ls).phase = .before := by
  unfold Spec.scan
  induction ls with
  | nil => rfl
  | cons raw ls ih =>
      obtain ⟨first, rest⟩ := List.forall_mem_cons.mp plain
      rw [List.foldl_cons, step_of_not_opensSystem first]
      exact ih rest

/-- **A parse is its segments under its header.** -/
theorem parse_eq (text : String) :
    Spec.parse text = (readSegments (segments (lines text.toList))).under (fullHeader text) := by
  unfold fullHeader
  by_cases opened : ∃ raw ∈ lines text.toList, opensSystem raw = true
  · rw [parse_of_opened opened, if_pos ((isSome_firstSystem?_iff _).mpr opened), List.append_nil]
  · have before : ((header text).scan (lines text.toList)).phase = .before :=
      phase_of_plain (by simpa using opened) _
    rw [if_neg fun found => opened ((isSome_firstSystem?_iff _).mp found)]
    unfold Spec.parse
    dsimp only
    rw [show ({ text : Spec }.readHeader (lines text.toList)).readSystem (lines text.toList) =
      header text from rfl, before, scan_spec]
    rfl

theorem readHeader_congr {ls ls' : List (List Char)} (same : headerLine? 1 ls' = headerLine? 1 ls)
    (text text' : String) :
    ({ text := text' } : Spec).readHeader ls' =
      { ({ text } : Spec).readHeader ls with text := text' } := by
  unfold Spec.readHeader
  rw [same]
  cases headerLine? 1 ls with
  | none => rfl
  | some found =>
      dsimp only
      split <;> rfl

theorem readSystem_congr {ls ls' : List (List Char)} (same : firstSystem? ls' = firstSystem? ls)
    (spec : Spec) (text' : String) :
    ({ spec with text := text' } : Spec).readSystem ls' =
      { spec.readSystem ls with text := text' } := by
  unfold firstSystem? at same
  unfold Spec.readSystem
  dsimp only
  rw [same]
  obtain _ | _ | _ := Option.map trim (ls.findSome? fun raw => systemName? false (stripComment raw))
  all_goals
    dsimp only
    split <;> rfl

/-- The header depends on the first significant line and the first opening of the system only. -/
theorem fullHeader_congr {text text' : String}
    (line : headerLine? 1 (lines text'.toList) = headerLine? 1 (lines text.toList))
    (system : firstSystem? (lines text'.toList) = firstSystem? (lines text.toList)) :
    fullHeader text' = { fullHeader text with text := text' } := by
  have same : header text' = { header text with text := text' } := by
    unfold header
    rw [readHeader_congr line text text', readSystem_congr system]
  unfold fullHeader
  rw [same, system]

section Header

variable {ls ls' : List (List Char)} (related : List.Forall₂ ReadAlike ls ls')

include related

theorem headerLine?_agree (number : Nat) : headerLine? number ls' = headerLine? number ls := by
  induction related generalizing number with
  | nil => rfl
  | cons first _ ih => rw [headerLine?, headerLine?, first.significant_eq, ih]

theorem firstSystem?_agree : firstSystem? ls' = firstSystem? ls := by
  unfold firstSystem?
  induction related with
  | nil => rfl
  | cons first _ ih => rw [List.findSome?_cons, List.findSome?_cons, first.system_eq, ih]

theorem rows_agree : rows ls' = rows ls := by
  unfold rows
  induction related with
  | nil => rfl
  | cons first _ ih => rw [List.map_cons, List.map_cons, List.filter_cons, List.filter_cons,
      first.row_eq, ih]

end Header

/-! ## Documents -/

variable {text text' : String}

theorem eq_of_bare_eq {spec spec' : Spec} (same : spec'.bare = spec.bare) :
    spec' = { spec with sections := spec'.sections } :=
  congrArg (fun bare => { bare with sections := spec'.sections }) same

/-- **Documents whose lines are read alike have one header and the same artifacts.**  The raw texts of
their sections are left open. -/
theorem parse_agree
    (related : List.Forall₂ ReadAlike (lines text.toList) (lines text'.toList)) :
    ∃ sections, Spec.parse text' = { Spec.parse text with text := text', sections } := by
  have artifacts := readSegments_bare (segments_forall₂ id related)
  have header := fullHeader_congr (headerLine?_agree related 1) (firstSystem?_agree related)
  have same : (Spec.parse text').bare = { Spec.parse text with text := text' }.bare := by
    rw [parse_eq text, parse_eq text', header]
    exact congrArg (fun spec => Spec.under spec { fullHeader text with text := text' }) artifacts
  exact ⟨_, eq_of_bare_eq same⟩

/-- Documents whose lines are read alike have the same predicates. -/
theorem extract_agree
    (related : List.Forall₂ ReadAlike (lines text.toList) (lines text'.toList)) :
    Predicate.extract text' = Predicate.extract text := by
  rw [Predicate.extract_eq, Predicate.extract_eq, rows_agree related]

end IntentSpec.Document
