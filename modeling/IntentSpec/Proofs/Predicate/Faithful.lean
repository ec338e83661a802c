import IntentSpec.Predicate.Plan
import IntentSpec.Proofs.Predicate.Routing

/-!
# The extraction of predicates and the parse

A document is read twice: the parse routes each line to a section, and the extraction looks for
blocks of validations by itself.  A predicate that one of them sees and the other does not is either lost, or
it is carried out though no line of the section has it.

* The extraction is faithful to the parse exactly when, for every declared validation, the
  predicate that was taken last is the predicate that was routed last (`faithful_iff`).
* The two passes run in step as long as a block opens only where the section of validations does
  (`Regular`, `sync_of_regular`).  They differ then only on the line that closes the section,
  which the parse still routes (`taken_iff_of_regular`).
* A block may open elsewhere: outside the system, in another section, or inside a block
  (`not_faithful_strayText`).

Both passes are described by the lines in front of a line, and not by their states, so that the two can be
compared at all: their counts of braces start at different places.  The exact condition only looks at the last
predicate of each validation, because an earlier one is replaced in either pass.
-/

namespace IntentSpec.Predicate

open Text Document

/-- For every declared validation the extraction finds a predicate exactly when it is the last one
that the parse sees for it. -/
def Faithful (text : String) : Prop :=
  ∀ v ∈ (Spec.parse text).validations.names, ∀ p,
    value? v (extract text) = some p ↔ LastText (Routed text v) (lines text.toList) p

/-- A block opens only where the parse opens the section of validations. -/
def Regular (text : String) : Prop :=
  ∀ front raw back, lines text.toList = front ++ raw :: back → opensValidations (row raw) = true →
    (∃ current, (scanned text front).phase = .inside 1 current) ∧
      sectionOpening? (row raw) = some .validations

/-! ## Both passes in step -/

/-- The extraction is inside exactly when the parse is inside the section of validations, one
brace below it and at the same validation. -/
structure Sync (e : Extraction) (phase : Phase) : Prop where
  /-- A section stands directly inside the system, and its own brace is open. -/
  floor : ∀ depth entered, phase = .inside depth (some entered) → entered.floor = 2 ∧ 2 ≤ depth
  /-- In the section of validations the passes agree. -/
  reading : ∀ depth entered, phase = .inside depth (some entered) → entered.kind = .validations →
    e.inside = true ∧ e.depth = depth - 1 ∧ e.current = entered.validation
  outside : (∀ depth entered, phase = .inside depth (some entered) → entered.kind ≠ .validations) →
    e.inside = false ∧ e.current = none

theorem Sync.of_outside {e : Extraction} {phase : Phase} (outside : e.inside = false)
    (idle : e.current = none) (away : ∀ depth entered, phase ≠ .inside depth (some entered)) :
    Sync e phase where
  floor depth entered h := absurd h (away depth entered)
  reading depth entered h := absurd h (away depth entered)
  outside _ := ⟨outside, idle⟩

/-- The passes are in step after a line of the section `here` if they stay in it or leave it
together. -/
theorem Sync.of_section {e : Extraction} {here : Option OpenSection}
    {next : OpenSection → OpenSection} {depth : Int} {heading : Option String}
    (moves : Moves heading next)
    (floors : ∀ entered ∈ here, entered.floor = 2)
    (stays : ∀ entered ∈ here, entered.kind = .validations → 2 ≤ depth →
      e.inside = true ∧ e.depth = depth - 1 ∧ e.current = heading.or entered.validation)
    (leaves : (∀ entered ∈ here, entered.kind = .validations → depth < 2) →
      e.inside = false ∧ e.current = none) :
    Sync e (leaving depth (here.map next)) := by
  -- The section is left when its own brace is closed, that is below depth 2; the system may be
  -- left on the same line, and then no section is open either.
  unfold leaving
  cases here with
  | none =>
      obtain ⟨outside, idle⟩ := leaves (by simp)
      refine Sync.of_outside outside idle fun depth entered => ?_
      split <;> simp
  | some entered =>
      obtain ⟨kind, floor, validation⟩ := moves entered
      have two : entered.floor = 2 := floors entered rfl
      by_cases still : 2 ≤ depth
      · rw [if_neg (by omega), Option.map_some, Option.filter_some, floor, two,
          if_pos (by simpa using still)]
        refine ⟨?_, ?_, ?_⟩
        · rintro _ _ ⟨rfl, rfl⟩
          exact ⟨floor.trans two, still⟩
        · rintro _ _ ⟨rfl, rfl⟩ reads
          rw [kind] at reads
          rw [validation reads]
          exact stays entered rfl reads still
        · intro other
          refine leaves fun _ same reads => ?_
          obtain rfl := Option.some.inj same
          exact absurd (kind.trans reads) (other depth (next entered) rfl)
      · obtain ⟨outside, idle⟩ := leaves fun _ _ _ => by omega
        refine Sync.of_outside outside idle fun depth' entered' => ?_
        split
        · simp
        · rw [Option.map_some, Option.filter_some, floor, two, if_neg (by simpa using still)]
          simp

/-- Directly inside the system no section is open, and the extraction is outside. -/
theorem Sync.at_top {e : Extraction} {current : Option OpenSection}
    (sync : Sync e (.inside 1 current)) :
    current = none ∧ e.inside = false ∧ e.current = none := by
  cases current with
  | none => exact ⟨rfl, sync.outside fun depth entered h => absurd h (by simp)⟩
  | some entered => exact absurd (sync.floor 1 entered rfl).2 (by decide)

section Step

variable {e : Extraction} {raw : List Char} {next : OpenSection → OpenSection}
  (moves : Moves (validationHeading? (row raw)) next)
include moves

/-- The section of validations opens, and a block with it. -/
theorem Sync.step_opening {current : Option OpenSection} (sync : Sync e (.inside 1 current))
    (opening : sectionOpening? (row raw) = some .validations) :
    Sync (e.step raw) (leaving (1 + balance (row raw))
      (Option.map next (some { kind := .validations, floor := 1 + 1 }))) := by
  obtain ⟨opens, brace⟩ := opens_of_sectionOpening? opening
  rw [step_of_opens opens, brace]
  refine Sync.of_section moves ?_ ?_ ?_
  · rintro entered ⟨rfl⟩
    rfl
  · rintro entered ⟨rfl⟩ - -
    rw [validationHeading?_of_opens opens, sync.at_top.2.2]
    exact ⟨rfl, rfl, rfl⟩
  · intro closes
    exact absurd (closes _ rfl rfl) (by decide)

/-- Another section opens. -/
theorem Sync.step_other {current : Option OpenSection} (sync : Sync e (.inside 1 current))
    (opens : opensValidations (row raw) = false) {kind : SectionKind}
    (other : kind ≠ .validations) :
    Sync (e.step raw) (leaving (1 + balance (row raw))
      (Option.map next (some { kind, floor := 1 + 1 }))) := by
  obtain ⟨-, outside, idle⟩ := sync.at_top
  rw [step_of_outside opens outside]
  refine Sync.of_section moves ?_ ?_ fun _ => ⟨outside, idle⟩
  · rintro entered ⟨rfl⟩
    rfl
  · rintro entered ⟨rfl⟩ reads -
    exact absurd reads other

/-- No section opens. -/
theorem Sync.step_same {depth : Int} {current : Option OpenSection}
    (sync : Sync e (.inside depth current)) (opens : opensValidations (row raw) = false) :
    Sync (e.step raw) (leaving (depth + balance (row raw)) (current.map next)) := by
  have floors : ∀ entered ∈ current, entered.floor = 2 := by
    rintro entered rfl
    exact (sync.floor depth entered rfl).1
  by_cases reads : ∃ entered ∈ current, entered.kind = .validations
  · obtain ⟨entered, rfl, reads⟩ := reads
    obtain ⟨inside, below, same⟩ := sync.reading depth entered rfl reads
    by_cases stays : 0 < e.depth + balance (row raw)
    · rw [step_of_stays opens inside stays]
      refine Sync.of_section moves floors ?_ ?_
      · rintro _ ⟨rfl⟩ - -
        refine ⟨rfl, ?_, by rw [same]⟩
        show e.depth + balance (row raw) = depth + balance (row raw) - 1
        omega
      · intro closes
        have less := closes entered rfl reads
        omega
    · rw [step_of_closes opens inside (by omega)]
      refine Sync.of_section moves floors ?_ fun _ => ⟨rfl, rfl⟩
      intro _ _ _ still
      omega
  · obtain ⟨outside, idle⟩ := sync.outside fun depth' entered h kind =>
      reads ⟨entered, (Phase.inside.inj h).2, kind⟩
    rw [step_of_outside opens outside]
    refine Sync.of_section moves floors ?_ fun _ => ⟨outside, idle⟩
    intro entered h kind
    exact absurd ⟨entered, h, kind⟩ reads

end Step

/-- Before the system and after it nothing is open in either pass. -/
theorem Sync.step_away {e : Extraction} {phase phase' : Phase} (sync : Sync e phase)
    {raw : List Char} (opens : opensValidations (row raw) = false)
    (away : ∀ depth entered, phase ≠ .inside depth (some entered))
    (away' : ∀ depth entered, phase' ≠ .inside depth (some entered)) :
    Sync (e.step raw) phase' := by
  obtain ⟨outside, idle⟩ := sync.outside fun depth entered h => absurd h (away depth entered)
  rw [step_of_outside opens outside]
  exact Sync.of_outside outside idle away'

/-- **A line keeps the passes in step** if it opens a block only where it opens the section. -/
theorem Sync.step {e : Extraction} {scan : Scan} (sync : Sync e scan.phase) {raw : List Char}
    (regular : opensValidations (row raw) = true → (∃ current, scan.phase = .inside 1 current) ∧
      sectionOpening? (row raw) = some .validations) :
    Sync (e.step raw) (scan.step raw).phase := by
  unfold Scan.step
  cases phase : scan.phase with
  | before =>
      rw [phase] at sync regular
      have opens : opensValidations (row raw) = false :=
        Bool.eq_false_iff.mpr fun opens => by simpa using (regular opens).1
      refine sync.step_away opens (by simp) fun depth entered => ?_
      dsimp only
      split
      · simp
      · simp [phase]
  | closed =>
      rw [phase] at sync regular
      have opens : opensValidations (row raw) = false :=
        Bool.eq_false_iff.mpr fun opens => by simpa using (regular opens).1
      exact sync.step_away opens (by simp) (by simp [phase])
  | inside depth current =>
      rw [phase] at sync regular
      obtain ⟨next, moves, after⟩ := phase_stepInside depth current scan.spec raw
      dsimp only
      rw [after, sectionAt_fst]
      cases opening : (if depth = 1 then sectionOpening? (row raw) else none) with
      | some kind =>
          obtain ⟨rfl, opening⟩ : depth = 1 ∧ sectionOpening? (row raw) = some kind := by
            simpa using opening
          by_cases validations : kind = .validations
          · subst validations
            exact sync.step_opening moves opening
          · refine sync.step_other moves (Bool.eq_false_iff.mpr fun opens => ?_) validations
            exact validations (Option.some.inj (opening.symm.trans (regular opens).2))
      | none =>
          refine sync.step_same moves (Bool.eq_false_iff.mpr fun opens => ?_)
          obtain ⟨⟨_, top⟩, opened⟩ := regular opens
          rw [(Phase.inside.inj top).1, if_pos rfl, opened] at opening
          exact absurd opening (by simp)

/-- **In a regular text the passes are in step after any of its lines.** In the section of
validations the counts of braces differ by one, the brace of the system. -/
theorem sync_of_regular {text : String} (regular : Regular text) {front back : List (List Char)}
    (split : lines text.toList = front ++ back) : Sync (run front) (scanned text front).phase := by
  induction front using List.reverseRecOn generalizing back with
  | nil => exact Sync.of_outside rfl rfl fun depth entered => by simp [scanned, Spec.scan]
  | append_singleton front raw ih =>
      have split' : lines text.toList = front ++ raw :: back := by
        rw [split, List.append_assoc, List.singleton_append]
      rw [run_concat, scanned_concat]
      exact (ih split').step (regular front raw back split')

/-- In step, the extraction reads the validation that the parse reads on the line that follows. -/
theorem Sync.current_iff {text : String} {front : List (List Char)}
    (sync : Sync (run front) (scanned text front).phase) (raw : List Char) (v : String) :
    Current front v ↔ ∃ entered, (scanned text front).sectionOf? raw = some entered ∧
      entered.kind = .validations ∧ entered.validation = some v := by
  rw [← run_current_iff]
  unfold Scan.sectionOf?
  constructor
  · intro reading
    obtain ⟨depth, entered, phase, kind⟩ : (scanned text front).InValidations := by
      by_contra away
      have outside := sync.outside fun depth entered h kind => away ⟨depth, entered, h, kind⟩
      rw [outside.2] at reading
      exact absurd reading (by simp)
    have deep : depth ≠ 1 := by
      have two := (sync.floor depth entered phase).2
      omega
    rw [phase]
    refine ⟨entered, ?_, kind, ?_⟩
    · dsimp only
      rw [sectionAt_fst, if_neg deep]
      rfl
    · rw [← (sync.reading depth entered phase kind).2.2]
      exact reading
  · rintro ⟨entered, routed, kind, names⟩
    cases phase : (scanned text front).phase with
    | before =>
        rw [phase] at routed
        exact absurd routed (by simp)
    | closed =>
        rw [phase] at routed
        exact absurd routed (by simp)
    | inside depth current =>
        rw [phase] at routed
        dsimp only at routed
        rw [sectionAt_fst] at routed
        cases opening : (if depth = 1 then sectionOpening? (row raw) else none) with
        | some opened =>
            -- a section that opens on the line has no validation yet
            rw [opening] at routed
            obtain rfl := Option.some.inj routed
            exact absurd names (by simp)
        | none =>
            rw [opening, Option.map_none, Option.none_or] at routed
            rw [routed] at phase
            rw [(sync.reading depth entered phase kind).2.2]
            exact names

/-- **In a regular text the extraction takes what the parse routes, except on a line that closes the
section.** -/
theorem taken_iff_of_regular {text : String} (regular : Regular text)
    {front back : List (List Char)} {raw : List Char}
    (split : lines text.toList = front ++ raw :: back) (v p : String) :
    Taken v front raw p ↔
      Routed text v front raw p ∧ (scanned text (front ++ [raw])).InValidations := by
  have before := sync_of_regular regular split
  have after : Sync (run (front ++ [raw])) (scanned text (front ++ [raw])).phase :=
    sync_of_regular regular (split.trans (by rw [List.append_assoc, List.singleton_append]))
  have within : Within (front ++ [raw]) ↔ (scanned text (front ++ [raw])).InValidations := by
    rw [within_iff]
    constructor
    · intro inside
      by_contra away
      have outside := after.outside fun depth entered h kind => away ⟨depth, entered, h, kind⟩
      rw [outside.1] at inside
      exact absurd inside (by decide)
    · rintro ⟨depth, entered, h, kind⟩
      exact (after.reading depth entered h kind).1
  have current := before.current_iff raw v
  unfold Taken
  rw [routed_iff, within]
  constructor
  · rintro ⟨inside, reading, carries⟩
    exact ⟨⟨carries, current.mp reading⟩, inside⟩
  · rintro ⟨⟨carries, routed⟩, inside⟩
    exact ⟨inside, current.mpr routed, carries⟩

theorem LastText.congr {reads reads' : List (List Char) → List Char → String → Prop}
    {ls : List (List Char)} (same : ∀ front raw back, ls = front ++ raw :: back →
      ∀ p, reads front raw p ↔ reads' front raw p) {p : String} (last : LastText reads ls p) :
    LastText reads' ls p := by
  obtain ⟨front, raw, back, split, carries, silent⟩ := last
  refine ⟨front, raw, back, split, (same front raw back split p).mp carries, ?_⟩
  rintro middle later rest rfl q h
  exact silent middle later rest rfl q ((same _ later rest (by simp [split]) q).mpr h)

theorem lastText_congr {reads reads' : List (List Char) → List Char → String → Prop}
    {ls : List (List Char)} (same : ∀ front raw back, ls = front ++ raw :: back →
      ∀ p, reads front raw p ↔ reads' front raw p) (p : String) :
    LastText reads ls p ↔ LastText reads' ls p := by
  constructor
  · exact LastText.congr same
  · exact LastText.congr fun front raw back split q => (same front raw back split q).symm

/-- A validation is planned as a check when it requires a capability that can be checked and its
predicate begins with the name of it. -/
theorem ofValidation?_eq_some_iff (predicates : List (String × String)) (v : Validation)
    (check : PlannedCheck) :
    PlannedCheck.ofValidation? predicates v = some check ↔ check.validation = v.id ∧
      v.requires = some check.capability ∧ (Capability.ofName? check.capability).isSome = true ∧
      value? v.id predicates = some check.predicate ∧
      (words check.predicate.toList).head?.map String.ofList = some check.capability := by
  obtain ⟨validation, capability, predicate⟩ := check
  unfold PlannedCheck.ofValidation?
  cases required : v.requires with
  | none => simp
  | some name =>
      cases known : Capability.ofName? name with
      | none =>
          simp only [Option.bind_eq_bind, Option.bind_some, known]
          refine iff_of_false (by simp) ?_
          rintro ⟨-, ⟨rfl⟩, isKnown, -⟩
          rw [known] at isKnown
          exact absurd isKnown (by simp)
      | some kind =>
          cases found : value? v.id predicates with
          | none => simp
          | some text =>
              simp only [Option.bind_eq_bind, Option.bind_some, known]
              constructor
              · intro planned
                split at planned
                · exact absurd planned (by simp)
                · split at planned
                  next begins =>
                    obtain ⟨rfl, rfl, rfl⟩ := PlannedCheck.mk.inj (Option.some.inj planned)
                    exact ⟨rfl, rfl, by simp [known], rfl, begins⟩
                  next => exact absurd planned (by simp)
              · rintro ⟨rfl, ⟨rfl⟩, -, ⟨rfl⟩, begins⟩
                simp [begins]

/-- A planned check carries out what the extraction found for its validation. -/
theorem of_mem_select {spec : Spec} {predicates : List (String × String)} {check : PlannedCheck}
    (h : check ∈ PlannedCheck.select spec predicates) : check.validation ∈ spec.validations.names ∧
      value? check.validation predicates = some check.predicate := by
  obtain ⟨v, hv, planned⟩ := List.mem_filterMap.mp h
  obtain ⟨named, -, -, found, -⟩ := (ofValidation?_eq_some_iff predicates v check).mp planned
  rw [named]
  exact ⟨List.mem_map.mpr ⟨v, hv, rfl⟩, found⟩

/-- **The extraction is faithful to the parse exactly when, for every declared validation, the
predicate that is taken last is the one that is routed last.**  A text in which blocks open only
where the section of validations does, and in which no line that closes the section carries a
predicate, is of this kind; and then every planned check carries out a predicate that the parse
has seen. -/
theorem faithful_iff (text : String) :
    (Faithful text ↔ ∀ v ∈ (Spec.parse text).validations.names, ∀ p,
      LastText (Taken v) (lines text.toList) p ↔ LastText (Routed text v) (lines text.toList) p) ∧
    (Regular text →
      (∀ front raw back, lines text.toList = front ++ raw :: back → ∀ v p,
        Routed text v front raw p → (scanned text (front ++ [raw])).InValidations) →
      Faithful text) ∧
    (Faithful text → ∀ check ∈ PlannedCheck.select (Spec.parse text) (extract text),
      LastText (Routed text check.validation) (lines text.toList) check.predicate) := by
  refine ⟨?_, ?_, ?_⟩
  · unfold Faithful
    simp only [value?_extract_iff]
  · intro regular stays v _ p
    rw [value?_extract_iff]
    refine lastText_congr (fun front raw back split q => ?_) p
    rw [taken_iff_of_regular regular split]
    exact and_iff_left_of_imp (stays front raw back split v q)
  · intro faithful check planned
    obtain ⟨declared, found⟩ := of_mem_select planned
    exact (faithful check.validation declared check.predicate).mp found

/-- A text that declares a validation without a predicate, and gives it one in a block after the
system. -/
def strayText : String :=
  "DIL:spec v0\n" ++
  "system \"S\" \x7b\n" ++
  "validations \x7b\n" ++
  "validate V1 \x7b\n" ++
  "requires_capability: \"check_command_exit\"\n" ++
  "\x7d\n" ++
  "\x7d\n" ++
  "\x7d\n" ++
  "validations \x7b\n" ++
  "validate V1 \x7b\n" ++
  "predicate: \"check_command_exit cmd=rm args=/srv\"\n" ++
  "\x7d\n" ++
  "\x7d\n"

/-- The parse of the text sees no predicate at all, and the extraction finds one for a declared
validation. -/
theorem not_faithful_strayText : ¬ Faithful strayText := by
  intro faithful
  obtain ⟨declared, found, unseen⟩ : "V1" ∈ (Spec.parse strayText).validations.names ∧
      value? "V1" (extract strayText) = some "check_command_exit cmd=rm args=/srv" ∧
      ∀ n < (lines strayText.toList).length,
        (scanned strayText ((lines strayText.toList).take n)).predicate?
          ((lines strayText.toList).getD n []) = none := by
    decide +kernel
  -- Wherever the predicate were routed, it would be on one of the lines of the text.
  obtain ⟨front, raw, back, split, routed, -⟩ := (faithful "V1" declared _).mp found
  have seen := unseen front.length (by rw [split]; simp)
  rw [split] at seen
  unfold Routed at routed
  simp [routed] at seen

end IntentSpec.Predicate
