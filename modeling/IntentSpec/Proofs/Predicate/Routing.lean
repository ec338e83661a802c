import IntentSpec.Proofs.Predicate.Block

/-!
# Lines that the parse routes to the validations

The parse routes every line of the system block to the section that is open there, and inside the
section of validations it keeps the validation that is being read.  A predicate is meant to count
when the parse sees it: on a line of that section, for that validation.

* `Routed` — the parse sees a predicate on a line, for a validation.
* `phase_stepInside` — where the parse stands after a line inside the system.
* `opens_of_sectionOpening?` — a line that opens the section is the opening of a block for the
  extraction, too.
-/

namespace IntentSpec

open Text Document Predicate

/-! ## Routed lines -/

namespace Document

/-- The state of the parse after the lines `front` of a text. -/
def scanned (text : String) (front : List (List Char)) : Scan :=
  (({ text : Spec }.readHeader (lines text.toList)).readSystem (lines text.toList)).scan front

/-- The section that the parse routes a line to. -/
def Scan.sectionOf? (scan : Scan) (raw : List Char) : Option OpenSection :=
  match scan.phase with
  | .inside depth current => (sectionAt depth current scan.spec (row raw)).1
  | .before | .closed => none

/-- The predicate on a line of the section of validations, with the validation that is being
read. -/
def Scan.predicate? (scan : Scan) (raw : List Char) : Option (String × String) := do
  let entered ← scan.sectionOf? raw
  if entered.kind = .validations then some (← entered.validation, ← predicateText? (row raw))
  else none

/-- The parse is inside the section of validations. -/
def Scan.InValidations (scan : Scan) : Prop :=
  ∃ depth entered, scan.phase = .inside depth (some entered) ∧ entered.kind = .validations

theorem scanned_concat (text : String) (front : List (List Char)) (raw : List Char) :
    scanned text (front ++ [raw]) = (scanned text front).step raw := by
  unfold scanned Spec.scan
  rw [List.foldl_append]
  rfl

end Document

namespace Predicate

/-- The parse of the text sees the predicate on the line, for the validation. -/
def Routed (text v : String) (front : List (List Char)) (raw : List Char) (p : String) : Prop :=
  (scanned text front).predicate? raw = some (v, p)

theorem routed_iff (text v : String) (front : List (List Char)) (raw : List Char) (p : String) :
    Routed text v front raw p ↔ predicateText? (row raw) = some p ∧
      ∃ entered, (scanned text front).sectionOf? raw = some entered ∧ entered.kind = .validations ∧
        entered.validation = some v := by
  unfold Routed Scan.predicate?
  cases (scanned text front).sectionOf? raw with
  | none => simp
  | some entered =>
      obtain ⟨kind, floor, decision, validation⟩ := entered
      by_cases same : kind = .validations
      · cases validation <;> cases predicateText? (row raw) <;> simp [same, and_comm]
      · simp [same]

/-! ## What a line does to the open section -/

theorem readValidation_fst (spec : Spec) (current : Option String) (trimmed : List Char) :
    (spec.readValidation current trimmed).1 = (validationHeading? trimmed).or current := by
  unfold Spec.readValidation
  cases validationHeading? trimmed with
  | some id => rfl
  | none => cases current <;> rfl

/-- A line keeps the section that it is routed to, and moves on to the validation of its heading. -/
theorem classify_fst (entered : OpenSection) (spec : Spec) (trimmed : List Char) :
    (entered.classify spec trimmed).1.kind = entered.kind ∧
      (entered.classify spec trimmed).1.floor = entered.floor ∧
      (entered.kind = .validations → (entered.classify spec trimmed).1.validation =
        (validationHeading? trimmed).or entered.validation) := by
  obtain ⟨kind, floor, decision, validation⟩ := entered
  cases kind with
  | validations => exact ⟨rfl, rfl, fun _ => readValidation_fst spec validation trimmed⟩
  | capabilities =>
      unfold OpenSection.classify
      dsimp only
      split <;> exact ⟨rfl, rfl, fun h => SectionKind.noConfusion h⟩
  | _ => exact ⟨rfl, rfl, fun h => SectionKind.noConfusion h⟩

theorem sectionAt_fst (depth : Int) (current : Option OpenSection) (spec : Spec)
    (trimmed : List Char) :
    (sectionAt depth current spec trimmed).1 =
      ((if depth = 1 then sectionOpening? trimmed else none).map fun kind =>
        { kind, floor := depth + 1 }).or current := by
  unfold sectionAt enter
  cases (if depth = 1 then sectionOpening? trimmed else none) <;> rfl

/-- The section that a line moves on to, if it has a heading of a validation or none. -/
def Moves (heading : Option String) (next : OpenSection → OpenSection) : Prop :=
  ∀ entered, (next entered).kind = entered.kind ∧ (next entered).floor = entered.floor ∧
    (entered.kind = .validations → (next entered).validation = heading.or entered.validation)

/-- Where the parse stands when a line of a section has left so many braces open. -/
def leaving (depth : Int) (here : Option OpenSection) : Phase :=
  if depth ≤ 0 then .closed else .inside depth (here.filter (·.floor ≤ depth))

theorem count_dropWhile {p : Char → Bool} {c : Char} (kept : p c = false) (s : List Char) :
    (s.dropWhile p).count c = s.count c := by
  have dropped : (s.takeWhile p).count c = 0 := by
    refine List.count_eq_zero.mpr fun hc => ?_
    have blank := List.all_eq_true.mp List.all_takeWhile c hc
    rw [kept] at blank
    exact absurd blank (by decide)
  calc (s.dropWhile p).count c = (s.takeWhile p).count c + (s.dropWhile p).count c := by omega
    _ = s.count c := by rw [← List.count_append, List.takeWhile_append_dropWhile]

theorem count_trim {c : Char} (kept : isBlank c = false) (s : List Char) :
    (trim s).count c = s.count c := by
  unfold trim trimEnd trimStart
  rw [List.count_reverse, count_dropWhile kept, List.count_reverse, count_dropWhile kept]

/-- Blanks are no braces. -/
theorem balance_row (raw : List Char) : balance (row raw) = balance (stripComment raw) := by
  unfold balance row
  rw [count_trim (by decide), count_trim (by decide)]

/-- A line that opens the section opens a block, and nothing else. -/
theorem opens_of_sectionOpening? {s : List Char} (h : sectionOpening? s = some .validations) :
    opensValidations s = true ∧ balance s = 1 := by
  have opening := List.find?_some h
  split at opening
  next rest found =>
    have brace : skipAsciiBlanks rest = ['\x7b'] := eq_of_beq opening
    constructor
    · unfold opensValidations
      rw [show "validations".toList = SectionKind.validations.name.toList from rfl, found]
      simp [brace]
    · have left : rest.count '\x7b' = 1 := by
        rw [← count_dropWhile (p := isAsciiBlank) (by decide) rest]
        exact congrArg (List.count '\x7b') brace
      have right : rest.count '\x7d' = 0 := by
        rw [← count_dropWhile (p := isAsciiBlank) (by decide) rest]
        exact congrArg (List.count '\x7d') brace
      rw [eq_append_of_dropWord? found]
      unfold balance
      rw [List.count_append, List.count_append, left, right]
      decide
  next => exact absurd opening (by decide)

/-! ## Where the parse stands after a line -/

/-- Inside the system the braces are counted, and the section of a line stays open while its own
brace is. -/
theorem phase_stepInside (depth : Int) (current : Option OpenSection) (spec : Spec)
    (raw : List Char) : ∃ next, Moves (validationHeading? (row raw)) next ∧
      (stepInside depth current spec raw).phase = leaving (depth + balance (row raw))
        ((sectionAt depth current spec (row raw)).1.map next) := by
  refine ⟨fun entered => (entered.classify ((sectionAt depth current spec (row raw)).2.appendRaw
    entered.kind.name raw) (row raw)).1, fun entered => classify_fst entered _ _, ?_⟩
  rw [balance_row]
  unfold stepInside leaving row
  cases h : sectionAt depth current spec (trim (stripComment raw)) with
  | mk entered spec => cases entered <;> simp [h]

end Predicate

end IntentSpec
