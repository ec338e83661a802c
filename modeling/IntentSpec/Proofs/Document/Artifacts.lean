import IntentSpec.Proofs.Document.Segment
import IntentSpec.Proofs.Document.Table

/-!
# The artifacts of the segments

The artifacts of a document are those of its segments, read one after another, and they do not
depend on the header (`parse_eq_under`).  Of each artifact table it is said here which names it has
and in which order, in terms of the lines of the segments (`ids_readSegments`), and of the table of
sections also which text stands under a name (`find?_readSegments`).  Together this describes the
parse without its state: `parse_segments`.

A line of a section changes one table, the one of its kind, and what it does there depends on no other
table (`OpenSection.effect`).  This is the one place where the readings of the six kinds are opened.
From it everything else follows by folding over the lines of a segment and then over the segments.

A kind may have several segments.  The text of its section is that of the last one, because opening the
section again begins the text anew, while its identifiers are collected from all of them.  The two halves
of `parse_segments` say so side by side.
-/

namespace IntentSpec.Document

open Text
open Predicate (row)

/-! ## A line of a section changes one table -/

/-- A table with a further entry, if there is an identifier for it. -/
def declare {α : Type} [Named α] (make : String → α) (id : Option String) (t : Table α) : Table α :=
  match id with
  | some id => t.register (make id)
  | none => t

/-- A table with the entry of the current block changed, if there is a current block. -/
def amend {α : Type} [Named α] (change : α → α)
    (keeps : ∀ a, Named.name (change a) = Named.name a) (current : Option String) (t : Table α) :
    Table α :=
  match current with
  | some id => t.adjust id change keeps
  | none => t

/-- A constraint with another severity. -/
def Constraint.grade (severity : String) (c : Constraint) : Constraint :=
  { c with severity := some severity }

/-- A table of constraints with the severity of its last one changed, if there is a severity. -/
def grade (severity : Option String) (t : Table Constraint) : Table Constraint :=
  match severity with
  | some severity =>
    amend (Constraint.grade severity) (fun _ => rfl) (t.entries.getLast?.map (·.id)) t
  | none => t

theorem Decision.name_refer (trimmed : List Char) (d : Decision) :
    Named.name (d.refer trimmed) = Named.name d :=
  rfl

theorem Validation.name_require (trimmed : List Char) (v : Validation) :
    Named.name (v.require trimmed) = Named.name v :=
  rfl

theorem readIntent_eq (spec : Spec) (trimmed : List Char) :
    spec.readIntent trimmed =
      { spec with intents := declare Intent.mk (heading? "intent" trimmed) spec.intents } := by
  unfold Spec.readIntent
  cases heading? "intent" trimmed <;> rfl

theorem readConstraint_eq (spec : Spec) (trimmed : List Char) :
    spec.readConstraint trimmed =
      { spec with
        constraints := grade (severity? trimmed)
          (declare ({ id := · }) (heading? "constraint" trimmed) spec.constraints) } := by
  unfold Spec.readConstraint
  cases severity? trimmed with
  | none => cases heading? "constraint" trimmed <;> rfl
  | some severity =>
      cases heading? "constraint" trimmed with
      | none =>
          unfold grade declare
          dsimp only
          cases spec.constraints.entries.getLast? <;> rfl
      | some id =>
          -- the constraint that the line declares is the last one when the severity is read
          unfold grade declare
          dsimp only
          cases (spec.constraints.register { id }).entries.getLast? <;> rfl

theorem readDecision_eq (spec : Spec) (current : Option String) (trimmed : List Char) :
    spec.readDecision current trimmed =
      ((heading? "decision" trimmed).or current,
        { spec with
          decisions := amend (·.refer trimmed) (Decision.name_refer trimmed)
            ((heading? "decision" trimmed).or current)
            (declare ({ id := · }) (heading? "decision" trimmed) spec.decisions) }) := by
  unfold Spec.readDecision
  cases heading? "decision" trimmed <;> cases current <;> rfl

theorem readValidation_eq (spec : Spec) (current : Option String) (trimmed : List Char) :
    spec.readValidation current trimmed =
      ((validationHeading? trimmed).or current,
        { spec with
          validations := amend (·.require trimmed) (Validation.name_require trimmed)
            ((validationHeading? trimmed).or current)
            (declare ({ id := · }) (validationHeading? trimmed) spec.validations) }) := by
  unfold Spec.readValidation
  cases validationHeading? trimmed <;> cases current <;> rfl

theorem addCapability_eq (spec : Spec) (name : String) :
    spec.addCapability name = { spec with capabilities := enlist spec.capabilities name } := by
  unfold Spec.addCapability enlist
  by_cases known : name ∈ spec.capabilities <;> simp [known]

/-- The section after a line: where blocks are kept track of, the line may have entered one. -/
def OpenSection.next (entered : OpenSection) (trimmed : List Char) : OpenSection :=
  match entered.kind with
  | .decisions => { entered with decision := (heading? "decision" trimmed).or entered.decision }
  | .validations => { entered with validation := (validationHeading? trimmed).or entered.validation }
  | _ => entered

/-- The artifacts after a line of the section.  Only the table of the section changes. -/
def OpenSection.effect (entered : OpenSection) (trimmed : List Char) (spec : Spec) : Spec :=
  match entered.kind with
  | .capabilities =>
    { spec with capabilities := (wholeIdentifier? trimmed).toList.foldl enlist spec.capabilities }
  | .intents => { spec with intents := declare Intent.mk (heading? "intent" trimmed) spec.intents }
  | .constraints =>
    { spec with
      constraints := grade (severity? trimmed)
        (declare ({ id := · }) (heading? "constraint" trimmed) spec.constraints) }
  | .decisions =>
    { spec with
      decisions := amend (·.refer trimmed) (Decision.name_refer trimmed)
        (entered.next trimmed).decision
        (declare ({ id := · }) (heading? "decision" trimmed) spec.decisions) }
  | .validations =>
    { spec with
      validations := amend (·.require trimmed) (Validation.name_require trimmed)
        (entered.next trimmed).validation
        (declare ({ id := · }) (validationHeading? trimmed) spec.validations) }
  | .about | .change | .implementationNotes => spec

theorem classify_eq (entered : OpenSection) (spec : Spec) (trimmed : List Char) :
    entered.classify spec trimmed = (entered.next trimmed, entered.effect trimmed spec) := by
  obtain ⟨kind, floor, decision, validation⟩ := entered
  unfold OpenSection.classify OpenSection.next OpenSection.effect
  cases kind with
  | capabilities =>
      cases wholeIdentifier? trimmed with
      | none => rfl
      | some name =>
          dsimp only
          rw [addCapability_eq]
          rfl
  | intents =>
      dsimp only
      rw [readIntent_eq]
  | constraints =>
      dsimp only
      rw [readConstraint_eq]
  | decisions =>
      dsimp only
      rw [readDecision_eq]
      rfl
  | validations =>
      dsimp only
      rw [readValidation_eq]
      rfl
  | _ => rfl

theorem next_kind (entered : OpenSection) (trimmed : List Char) :
    (entered.next trimmed).kind = entered.kind := by
  unfold OpenSection.next
  split <;> rfl

theorem readLine_eq (entered : OpenSection) (spec : Spec) (raw : List Char) :
    readLine (entered, spec) raw = (entered.next (row raw),
      entered.effect (row raw) (spec.appendRaw entered.kind.name raw)) :=
  classify_eq _ _ _

theorem effect_sections (entered : OpenSection) (trimmed : List Char) (spec : Spec) :
    (entered.effect trimmed spec).sections = spec.sections := by
  unfold OpenSection.effect
  split <;> rfl

/-! ## Header and artifacts do not touch each other -/

/-- The artifacts of one specification under the header of another. -/
def Spec.under (spec header : Spec) : Spec :=
  { spec with
    text := header.text, version := header.version, system := header.system,
    issues := header.issues }

/-- A line of a section leaves the header alone and does not look at it. -/
theorem effect_under (entered : OpenSection) (trimmed : List Char) (spec header : Spec) :
    entered.effect trimmed (spec.under header) = (entered.effect trimmed spec).under header := by
  unfold OpenSection.effect
  cases entered.kind <;> rfl

theorem Spec.readSegment_under (spec header : Spec) (segment : Segment) :
    (spec.under header).readSegment segment = (spec.readSegment segment).under header := by
  have lines : ∀ (ls : List (List Char)) (entered : OpenSection) (spec : Spec),
      ls.foldl readLine (entered, spec.under header) =
        ((ls.foldl readLine (entered, spec)).1,
          (ls.foldl readLine (entered, spec)).2.under header) := by
    intro ls
    induction ls with
    | nil => intros; rfl
    | cons raw ls ih =>
        intro entered spec
        have step : readLine (entered, spec.under header) raw =
            ((readLine (entered, spec) raw).1, (readLine (entered, spec) raw).2.under header) := by
          rw [readLine_eq, readLine_eq]
          exact Prod.ext rfl (effect_under entered _ (spec.appendRaw entered.kind.name raw) header)
        rw [List.foldl_cons, step, ih, List.foldl_cons]
  unfold Spec.readSegment
  show (segment.lines.foldl readLine (_, (enter segment.kind 1 spec).2.under header)).2 = _
  rw [lines]
  rfl

/-- The artifacts of segments. -/
def readSegments (ss : List Segment) : Spec := ss.foldl Spec.readSegment { text := "" }

theorem foldl_readSegment_under (ss : List Segment) (spec header : Spec) :
    ss.foldl Spec.readSegment (spec.under header) =
      (ss.foldl Spec.readSegment spec).under header := by
  induction ss generalizing spec with
  | nil => rfl
  | cons segment ss ih => rw [List.foldl_cons, Spec.readSegment_under, ih, List.foldl_cons]

/-! ## The parse reads the segments -/

theorem step_of_opensSystem {raw : List Char} (opens : opensSystem raw = true) (spec : Spec) :
    Scan.step ⟨.before, spec⟩ raw = ⟨.inside (balance (stripComment raw)) none, spec⟩ :=
  if_pos opens

theorem step_of_not_opensSystem {raw : List Char} (plain : opensSystem raw = false) (spec : Spec) :
    Scan.step ⟨.before, spec⟩ raw = ⟨.before, spec⟩ :=
  if_neg (by simpa [opensSystem] using plain)

theorem segments_cons (raw : List Char) (ls : List (List Char)) :
    segments (raw :: ls) =
      if opensSystem raw = true then
        segmentsFrom (balance (stripComment raw)) (through 1 (balance (stripComment raw)) ls)
      else segments ls := by
  unfold segments
  cases opens : opensSystem raw with
  | false => rw [List.dropWhile_cons_of_pos (by simp [opens]), if_neg (by simp)]
  | true => rw [List.dropWhile_cons_of_neg (by simp [opens]), if_pos rfl]

/-- **The pass reads the segments of the lines.** Before the system is found the level does not
count, so the segmentation of what follows it is all that the pass can see. -/
theorem foldl_step_before (ls : List (List Char)) (spec : Spec) :
    (ls.foldl Scan.step ⟨.before, spec⟩).spec = (segments ls).foldl Spec.readSegment spec := by
  induction ls with
  | nil => rfl
  | cons raw ls ih =>
      rw [List.foldl_cons, segments_cons]
      cases opens : opensSystem raw with
      | false => rw [step_of_not_opensSystem opens, if_neg (by simp), ih]
      | true =>
          rw [step_of_opensSystem opens, if_pos rfl, foldl_step_inside ls _ none spec (by simp)]
          rfl

/-- What a document says in front of its sections. -/
def header (text : String) : Spec :=
  ({ text : Spec }.readHeader (lines text.toList)).readSystem (lines text.toList)

theorem readHeader_under (spec : Spec) (ls : List (List Char)) :
    spec.readHeader ls = spec.under (spec.readHeader ls) ∧
      (spec.readHeader ls).text = spec.text := by
  unfold Spec.readHeader
  split
  next => exact ⟨rfl, rfl⟩
  next => split <;> exact ⟨rfl, rfl⟩

theorem readSystem_under (spec : Spec) (ls : List (List Char)) :
    spec.readSystem ls = spec.under (spec.readSystem ls) ∧
      (spec.readSystem ls).text = spec.text := by
  unfold Spec.readSystem
  dsimp only
  split <;> split <;> exact ⟨rfl, rfl⟩

theorem header_text (text : String) : (header text).text = text :=
  (readSystem_under _ _).2.trans (readHeader_under _ _).2

/-- The header comes without artifacts. -/
theorem header_under (text : String) :
    ({ text := "" } : Spec).under (header text) = header text := by
  unfold header
  rw [(readSystem_under _ _).1, (readHeader_under _ _).1]
  rfl

theorem scan_spec (text : String) :
    ((header text).scan (lines text.toList)).spec =
      (readSegments (segments (lines text.toList))).under (header text) := by
  unfold Spec.scan readSegments
  rw [foldl_step_before, ← foldl_readSegment_under, header_under]

/-- **The artifacts of a document are those of its segments**, whatever its header says. The two
halves of the parse can thus be described on their own and put together afterwards. -/
theorem parse_eq_under (text : String) :
    Spec.parse text =
      (readSegments (segments (lines text.toList))).under (Spec.parse text) := by
  unfold Spec.parse
  dsimp only
  rw [show ({ text : Spec }.readHeader (lines text.toList)).readSystem (lines text.toList) =
    header text from rfl, scan_spec]
  split <;> rfl

theorem parse_text (text : String) : (Spec.parse text).text = text := by
  unfold Spec.parse
  dsimp only
  rw [show ({ text : Spec }.readHeader (lines text.toList)).readSystem (lines text.toList) =
    header text from rfl, scan_spec]
  split <;> exact header_text text

/-! ## Sections -/

/-- Raw lines, each with a line feed after it. -/
def joined (ls : List (List Char)) : String := String.ofList (ls.flatMap (· ++ ['\n']))

theorem foldl_readLine_sections (ls : List (List Char)) {entered : OpenSection} {spec : Spec}
    {t : Table Section} {text : String} (here : spec.sections = t.put ⟨entered.kind.name, text⟩) :
    (ls.foldl readLine (entered, spec)).2.sections =
      t.put ⟨entered.kind.name, text ++ joined ls⟩ := by
  induction ls generalizing entered spec text with
  | nil => simpa [joined] using here
  | cons raw ls ih =>
      have kind : (readLine (entered, spec) raw).1.kind = entered.kind := by
        rw [readLine_eq]
        exact next_kind entered _
      have after : (readLine (entered, spec) raw).2.sections =
          t.put ⟨entered.kind.name, text ++ String.ofList raw ++ "\n"⟩ := by
        rw [readLine_eq, effect_sections, Spec.appendRaw]
        dsimp only
        rw [here]
        exact Table.adjust_put t ⟨entered.kind.name, text⟩ _ _
      have rest := @ih (readLine (entered, spec) raw).1 _ _ (kind.symm ▸ after)
      rw [List.foldl_cons, rest, kind]
      simp [joined, String.append_assoc]

theorem readSegment_sections (spec : Spec) (segment : Segment) :
    (spec.readSegment segment).sections =
      spec.sections.put ⟨segment.kind.name, joined segment.lines⟩ := by
  have opened : (enter segment.kind 1 spec).2.sections =
    spec.sections.put ⟨(enter segment.kind 1 spec).1.kind.name, ""⟩ := rfl
  have read := foldl_readLine_sections segment.lines opened
  rw [String.empty_append] at read
  exact read

theorem SectionKind.name_injective {kind kind' : SectionKind} (same : kind.name = kind'.name) :
    kind = kind' := by
  cases kind <;> cases kind' <;> first | rfl | exact absurd same (by decide)

/-- The sections are those that open, in the order in which they open first. -/
theorem sections_names_readSegments (ss : List Segment) :
    (readSegments ss).sections.names = (ss.map (·.kind.name)).eraseDups := by
  have read : ∀ spec : Spec, (ss.foldl Spec.readSegment spec).sections.names =
      (ss.map (·.kind.name)).foldl enlist spec.sections.names := by
    induction ss with
    | nil => exact fun _ => rfl
    | cons segment ss ih =>
        intro spec
        rw [List.foldl_cons, ih, readSegment_sections, Table.names_put]
        rfl
  rw [← foldl_enlist_nil]
  exact read _

/-- The text of a section is that of the segment in which it opens last. -/
theorem find?_readSegments (ss : List Segment) (kind : SectionKind) :
    (readSegments ss).sections.find? kind.name =
      (ss.filter (·.kind = kind)).getLast?.map fun segment => ⟨kind.name, joined segment.lines⟩ := by
  unfold readSegments
  induction ss using List.reverseRecOn with
  | nil => rfl
  | append_singleton ss segment ih =>
      rw [List.foldl_append, List.foldl_cons, List.foldl_nil, readSegment_sections, Table.find?_put,
        List.filter_append, ih]
      by_cases same : segment.kind = kind
      · subst same
        simp [Named.name]
      · have other : ¬ segment.kind.name = kind.name := fun h => same (SectionKind.name_injective h)
        simp [Named.name, same, other]

/-! ## Identifiers -/

/-- The identifier that a line of a section declares. -/
def SectionKind.id? : SectionKind → List Char → Option String
  | capabilities => wholeIdentifier?
  | intents => heading? "intent"
  | constraints => heading? "constraint"
  | decisions => heading? "decision"
  | validations => validationHeading?
  | about | change | implementationNotes => fun _ => none

/-- The identifiers that are declared in the sections of a kind. -/
def Spec.ids (spec : Spec) : SectionKind → List String
  | .capabilities => spec.capabilities
  | .intents => spec.intents.names
  | .constraints => spec.constraints.names
  | .decisions => spec.decisions.names
  | .validations => spec.validations.names
  | .about | .change | .implementationNotes => []

theorem names_declare {α : Type} [Named α] {make : String → α}
    (named : ∀ id, Named.name (make id) = id) (id : Option String) (t : Table α) :
    (declare make id t).names = id.toList.foldl enlist t.names := by
  cases id with
  | none => rfl
  | some id =>
      unfold declare
      rw [Table.names_register, named]
      rfl

theorem names_amend {α : Type} [Named α] {change : α → α}
    (keeps : ∀ a, Named.name (change a) = Named.name a) (current : Option String) (t : Table α) :
    (amend change keeps current t).names = t.names := by
  cases current with
  | none => rfl
  | some id => exact Table.names_adjust t id change keeps

theorem names_grade (severity : Option String) (t : Table Constraint) :
    (grade severity t).names = t.names := by
  cases severity with
  | none => rfl
  | some severity => exact names_amend _ _ t

theorem effect_ids (entered : OpenSection) (trimmed : List Char) (spec : Spec)
    (kind : SectionKind) :
    (entered.effect trimmed spec).ids kind =
      if entered.kind = kind then (kind.id? trimmed).toList.foldl enlist (spec.ids kind)
      else spec.ids kind := by
  by_cases here : entered.kind = kind
  · subst here
    rw [if_pos rfl]
    unfold OpenSection.effect
    cases entered.kind with
    | capabilities => rfl
    | intents => exact names_declare (fun _ => rfl) _ _
    | constraints => exact (names_grade _ _).trans (names_declare (fun _ => rfl) _ _)
    | decisions => exact (names_amend _ _ _).trans (names_declare (fun _ => rfl) _ _)
    | validations => exact (names_amend _ _ _).trans (names_declare (fun _ => rfl) _ _)
    | _ => rfl
  · rw [if_neg here]
    obtain ⟨other, floor, decision, validation⟩ := entered
    unfold OpenSection.effect
    cases other <;> cases kind <;> first | rfl | exact absurd rfl here

theorem foldl_readLine_ids (ls : List (List Char)) (entered : OpenSection) (spec : Spec)
    (kind : SectionKind) :
    (ls.foldl readLine (entered, spec)).2.ids kind =
      if entered.kind = kind then (ls.filterMap (kind.id? ∘ row)).foldl enlist (spec.ids kind)
      else spec.ids kind := by
  induction ls generalizing entered spec with
  | nil => simp
  | cons raw ls ih =>
      have raws : (spec.appendRaw entered.kind.name raw).ids kind = spec.ids kind := by
        cases kind <;> rfl
      rw [List.foldl_cons, readLine_eq, ih, next_kind, effect_ids, raws]
      by_cases here : entered.kind = kind
      · simp only [if_pos here]
        rw [List.filterMap_cons, Function.comp_apply]
        cases kind.id? (row raw) <;> rfl
      · simp only [if_neg here]

theorem readSegment_ids (spec : Spec) (segment : Segment) (kind : SectionKind) :
    (spec.readSegment segment).ids kind =
      if segment.kind = kind then
        (segment.lines.filterMap (kind.id? ∘ row)).foldl enlist (spec.ids kind)
      else spec.ids kind := by
  have opened : (enter segment.kind 1 spec).2.ids kind = spec.ids kind := by
    cases kind <;> rfl
  unfold Spec.readSegment
  rw [← opened]
  exact foldl_readLine_ids segment.lines (enter segment.kind 1 spec).1 _ kind

/-- **The identifiers of a kind are those on the lines of its segments**, without repetitions and in
the order of their first occurrences. -/
theorem ids_readSegments (ss : List Segment) (kind : SectionKind) :
    (readSegments ss).ids kind =
      (((ss.filter (·.kind = kind)).flatMap (·.lines)).filterMap (kind.id? ∘ row)).eraseDups := by
  have read : ∀ spec : Spec, (ss.foldl Spec.readSegment spec).ids kind =
      (((ss.filter (·.kind = kind)).flatMap (·.lines)).filterMap (kind.id? ∘ row)).foldl enlist
        (spec.ids kind) := by
    induction ss with
    | nil => exact fun _ => rfl
    | cons segment ss ih =>
        intro spec
        rw [List.foldl_cons, ih, readSegment_ids]
        by_cases here : segment.kind = kind
        · simp [here, List.filterMap_append]
        · simp [here]
  have blank : ({ text := "" } : Spec).ids kind = [] := by
    cases kind <;> rfl
  rw [← foldl_enlist_nil, ← blank]
  exact read _

/-! ## The parse as a segmentation -/

theorem segments_of_no_system {ls : List (List Char)}
    (plain : ∀ raw ∈ ls, opensSystem raw = false) : segments ls = [] := by
  induction ls with
  | nil => rfl
  | cons raw ls ih =>
      rw [segments_cons, if_neg (by simp [plain raw List.mem_cons_self])]
      exact ih fun raw here => plain raw (List.mem_cons_of_mem _ here)

theorem sections_parse (text : String) :
    (Spec.parse text).sections = (readSegments (segments (lines text.toList))).sections :=
  (congrArg Spec.sections (parse_eq_under text)).trans rfl

theorem ids_parse (text : String) (kind : SectionKind) :
    (Spec.parse text).ids kind = (readSegments (segments (lines text.toList))).ids kind := by
  rw [parse_eq_under]
  cases kind <;> rfl

/-- **The parse is the segmentation of the lines.**  The sections of the table are those that open
somewhere, each with the text of the segment in which it opens last; the identifiers of a kind are
those on the lines of all its segments; and a line opens a section by its name, blanks and a brace.
Without a system block there is nothing. -/
theorem parse_segments (text : String) :
    (Spec.parse text).sections.names =
        ((segments (lines text.toList)).map (·.kind.name)).eraseDups ∧
      (∀ kind : SectionKind, (Spec.parse text).sections.find? kind.name =
        ((segments (lines text.toList)).filter (·.kind = kind)).getLast?.map fun segment =>
          ⟨kind.name, joined segment.lines⟩) ∧
      (∀ kind : SectionKind, (Spec.parse text).ids kind =
        ((((segments (lines text.toList)).filter (·.kind = kind)).flatMap (·.lines)).filterMap
          (kind.id? ∘ row)).eraseDups) ∧
      (∀ s kind, sectionOpening? s = some kind ↔ ∃ gap, (∀ c ∈ gap, isAsciiBlank c = true) ∧
        s = kind.name.toList ++ (gap ++ ['\x7b'])) ∧
      ((∀ raw ∈ lines text.toList, opensSystem raw = false) →
        (Spec.parse text).sections.names = [] ∧ ∀ kind, (Spec.parse text).ids kind = []) := by
  refine ⟨?names, ?texts, ?ids, sectionOpening?_eq_some_iff, fun plain => ⟨?noNames, ?noIds⟩⟩
  case names => rw [sections_parse, sections_names_readSegments]
  case texts =>
    intro kind
    rw [sections_parse, find?_readSegments]
  case ids =>
    intro kind
    rw [ids_parse, ids_readSegments]
  case noNames =>
    rw [sections_parse, segments_of_no_system plain]
    rfl
  case noIds =>
    intro kind
    rw [ids_parse, segments_of_no_system plain]
    cases kind <;> rfl

end IntentSpec.Document
