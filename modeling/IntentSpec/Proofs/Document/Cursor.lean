import IntentSpec.Proofs.Document.Arrangement
import IntentSpec.Proofs.Document.Forms

/-!
# What holds whenever a line has been read

The pass keeps a depth of braces, the section that is open, and in it the decision or the validation that
later lines are about.  These belong together: a section is open only while two braces are, it was entered at
two, and a decision or a validation is kept only by a section of its kind and only once it is in the table.
So a line that says something about a decision or a validation finds it there.

* `OpenSection.Tracks` — an open section goes with the artifacts that have been read.
* `Scan.Sound` — what holds behind every line.
* `Scan.Meets` — what holds when a line is met.
* `Scan.Sound.step` — a line keeps it, and `scanned_sound` — it holds in every state of the pass.
-/

namespace IntentSpec.Document

open Text
open Predicate (row leaving)

/-! ## Identifiers -/

/-- What a line declares has the form of the identifiers of its section. -/
theorem admits_of_id? {kind : SectionKind} {r : List Char} {id : String}
    (declares : kind.id? r = some id) : kind.admits id.toList = true := by
  cases kind with
  | capabilities => exact ((wholeIdentifier?_eq_some_iff r id).mp declares).1
  | intents | constraints | decisions =>
      obtain ⟨-, -, -, -, name, -⟩ := (heading?_eq_some_iff _ r id).mp declares
      exact name
  | validations =>
      obtain ⟨-, -, -, -, -, name, -⟩ := (validationHeading?_eq_some_iff r id).mp declares
      exact name
  | about | change | implementationNotes => cases declares

/-- Each identifier has the form that its section prescribes, and each entry stands under its own. -/
structure Spec.WellKeyed (spec : Spec) : Prop where
  /-- Identifiers are of the grammar of their section. -/
  grammar : ∀ kind : SectionKind, ∀ id ∈ spec.ids kind, kind.admits id.toList = true
  /-- An intent stands under its identifier. -/
  intents : ∀ id ∈ spec.intents.names, ∃ i, spec.intents.find? id = some i ∧ i.id = id
  /-- A constraint stands under its identifier. -/
  constraints : ∀ id ∈ spec.constraints.names, ∃ c, spec.constraints.find? id = some c ∧ c.id = id
  /-- A decision stands under its identifier. -/
  decisions : ∀ id ∈ spec.decisions.names, ∃ d, spec.decisions.find? id = some d ∧ d.id = id
  /-- A validation stands under its identifier. -/
  validations : ∀ id ∈ spec.validations.names, ∃ v, spec.validations.find? id = some v ∧ v.id = id

/-- The tables hold each entry under its own identifier whatever they hold. -/
theorem Spec.WellKeyed.of_grammar {spec : Spec}
    (grammar : ∀ kind : SectionKind, ∀ id ∈ spec.ids kind, kind.admits id.toList = true) :
    spec.WellKeyed where
  grammar := grammar
  intents _ := Table.exists_find?
  constraints _ := Table.exists_find?
  decisions _ := Table.exists_find?
  validations _ := Table.exists_find?

theorem ids_with_sections (spec : Spec) (sections : Table Section) (kind : SectionKind) :
    ({ spec with sections } : Spec).ids kind = spec.ids kind := by
  cases kind <;> rfl

/-- An identifier behind a line of a section was there before, or the line declares it. -/
theorem mem_ids_effect_iff (entered : OpenSection) (r : List Char) (spec : Spec) (kind : SectionKind)
    (id : String) :
    id ∈ (entered.effect r spec).ids kind ↔
      id ∈ spec.ids kind ∨ entered.kind = kind ∧ kind.id? r = some id := by
  rw [effect_ids]
  by_cases same : entered.kind = kind
  · rw [if_pos same, mem_foldl_enlist, Option.mem_toList]
    simp [same]
  · rw [if_neg same]
    simp [same]

theorem Spec.WellKeyed.effect {spec : Spec} (keyed : spec.WellKeyed) (entered : OpenSection)
    (r : List Char) : (entered.effect r spec).WellKeyed :=
  .of_grammar fun kind id here => by
    rcases (mem_ids_effect_iff entered r spec kind id).mp here with old | ⟨-, declares⟩
    · exact keyed.grammar kind id old
    · exact admits_of_id? declares

theorem Spec.WellKeyed.with_sections {spec : Spec} (keyed : spec.WellKeyed) (sections : Table Section) :
    ({ spec with sections } : Spec).WellKeyed :=
  .of_grammar fun kind id here => keyed.grammar kind id (ids_with_sections spec sections kind ▸ here)

/-! ## The section that is open -/

/-- The entry of a kind that an open section keeps. -/
def OpenSection.cursor (entered : OpenSection) : SectionKind → Option String
  | .decisions => entered.decision
  | .validations => entered.validation
  | _ => none

/-- An open section goes with the artifacts that have been read. -/
structure OpenSection.Tracks (entered : OpenSection) (spec : Spec) : Prop where
  /-- The section was entered at two open braces. -/
  floor : entered.floor = 2
  /-- The section keeps an entry of its own kind only, and one that has been declared. -/
  cursor : ∀ (kind : SectionKind) (id : String), entered.cursor kind = some id →
    entered.kind = kind ∧ id ∈ spec.ids kind

/-- An entry that a section keeps behind a line was kept before, or the line declares it. -/
theorem cursor_next {entered : OpenSection} {r : List Char} {kind : SectionKind} {id : String}
    (kept : (entered.next r).cursor kind = some id) :
    entered.cursor kind = some id ∨ entered.kind = kind ∧ kind.id? r = some id := by
  obtain ⟨here, floor, decision, validation⟩ := entered
  have moved : ∀ heading : Option String, ∀ last, heading.or last = some id →
      last = some id ∨ heading = some id := fun heading last either =>
    (Option.or_eq_some_iff.mp either).symm.imp_left And.right
  cases here with
  | decisions =>
      cases kind with
      | decisions => exact (moved _ _ kept).imp_right (And.intro rfl)
      | _ => exact .inl kept
  | validations =>
      cases kind with
      | validations => exact (moved _ _ kept).imp_right (And.intro rfl)
      | _ => exact .inl kept
  | _ => exact .inl kept

variable {entered : OpenSection} {spec : Spec}

/-- A section that has just been opened keeps nothing. -/
theorem tracks_enter (kind : SectionKind) (spec spec' : Spec) :
    (enter kind 1 spec).1.Tracks spec' where
  floor := rfl
  cursor kind' id kept := by cases kind' <;> cases kept

theorem OpenSection.Tracks.with_sections (tracks : entered.Tracks spec) (sections : Table Section) :
    entered.Tracks { spec with sections } where
  floor := tracks.floor
  cursor kind id kept := by
    rw [ids_with_sections]
    exact tracks.cursor kind id kept

/-- **A line of a section** leaves the section going with the artifacts: what it keeps track of is
in the table when it starts to do so, and no line takes an entry away. -/
theorem OpenSection.Tracks.effect (tracks : entered.Tracks spec) (r : List Char) :
    (entered.next r).Tracks (entered.effect r spec) where
  floor := by
    refine Eq.trans ?_ tracks.floor
    unfold OpenSection.next
    split <;> rfl
  cursor kind id kept := by
    rw [next_kind, mem_ids_effect_iff]
    rcases cursor_next kept with old | ⟨same, declares⟩
    · exact ⟨(tracks.cursor kind id old).1, .inl (tracks.cursor kind id old).2⟩
    · exact ⟨same, .inr ⟨same, declares⟩⟩

/-! ## The state behind a line -/

/-- What holds whenever a line has been read. -/
structure Scan.Sound (scan : Scan) : Prop where
  /-- The identifiers are well formed, and the entries stand under their own. -/
  keyed : scan.spec.WellKeyed
  /-- A section is open only while two braces are, and it goes with the artifacts. -/
  inner : ∀ (depth : Int) (entered : OpenSection), scan.phase = .inside depth (some entered) →
    2 ≤ depth ∧ entered.Tracks scan.spec

/-- What holds when a line is met. -/
structure Scan.Meets (scan : Scan) (raw : List Char) : Prop where
  /-- No section is open when the line opens one. -/
  opening : ∀ (current : Option OpenSection) (kind : SectionKind), scan.phase = .inside 1 current →
    sectionOpening? (row raw) = some kind → current = none
  /-- The decision that the line is about is in the table, with what the heading of the line declares, and
  what the line says is noted there. -/
  decision : ∀ (entered : OpenSection) (id : String), scan.sectionOf? raw = some entered →
    (entered.next (row raw)).decision = some id → entered.kind = .decisions ∧
      ∃ d, (declare ({ id := · }) (heading? "decision" (row raw)) scan.spec.decisions).find? id = some d ∧
        (scan.step raw).spec.decisions.find? id = some (d.refer (row raw))
  /-- The same holds of the validation that the line is about. -/
  validation : ∀ (entered : OpenSection) (id : String), scan.sectionOf? raw = some entered →
    (entered.next (row raw)).validation = some id → entered.kind = .validations ∧
      ∃ v, (declare ({ id := · }) (validationHeading? (row raw)) scan.spec.validations).find? id = some v ∧
        (scan.step raw).spec.validations.find? id = some (v.require (row raw))

variable {scan : Scan} {raw : List Char}

/-- A line is read as it is whatever the texts of the sections are. -/
theorem readLine_apart (entered : OpenSection) (spec : Spec) (raw : List Char) :
    ∃ sections, readLine (entered, spec) raw =
      (entered.next (row raw), entered.effect (row raw) { spec with sections }) :=
  ⟨_, readLine_eq entered spec raw⟩

/-- A line inside the system is read by the section that it is routed to.  If there is none, only its braces
count. -/
theorem step_cases {depth : Int} {current : Option OpenSection} (inside : scan.phase = .inside depth current)
    (raw : List Char) :
    (∃ entered sections, scan.sectionOf? raw = some entered ∧ scan.step raw =
      ⟨leaving (depth + balance (stripComment raw)) (some (entered.next (row raw))),
        entered.effect (row raw) { scan.spec with sections }⟩) ∨
    scan.sectionOf? raw = none ∧
      scan.step raw = ⟨leaving (depth + balance (stripComment raw)) none, scan.spec⟩ := by
  have routes : scan.sectionOf? raw = (sectionAt depth current scan.spec (row raw)).1 := by
    rw [Scan.sectionOf?, inside]
  have steps : scan.step raw = stepInside depth current scan.spec raw := by
    rw [Scan.step, inside]
  rw [routes, steps, stepInside_eq]
  unfold sectionAt
  cases (if depth = 1 then sectionOpening? (row raw) else none) with
  | some kind =>
      let opened := enter kind depth scan.spec
      obtain ⟨sections, read⟩ := readLine_apart opened.1 opened.2 raw
      refine .inl ⟨opened.1, sections, rfl, ?_⟩
      show (⟨leaving _ (some (readLine opened raw).1), (readLine opened raw).2⟩ : Scan) = _
      rw [read]
      rfl
  | none =>
      cases current with
      | none => exact .inr ⟨rfl, rfl⟩
      | some entered =>
          obtain ⟨sections, read⟩ := readLine_apart entered scan.spec raw
          refine .inl ⟨entered, sections, rfl, ?_⟩
          dsimp only
          rw [read]

/-- The section that a line is routed to goes with the artifacts, whether it was open or is opened by the
line. -/
theorem Scan.Sound.tracks_sectionOf? (sound : scan.Sound) (routed : scan.sectionOf? raw = some entered) :
    entered.Tracks scan.spec := by
  unfold Scan.sectionOf? at routed
  split at routed
  next depth current inside =>
    rw [Predicate.sectionAt_fst] at routed
    rcases Option.or_eq_some_iff.mp routed with opened | ⟨-, rfl⟩
    · obtain ⟨kind, opens, rfl⟩ := Option.map_eq_some_iff.mp opened
      obtain rfl : depth = 1 := by
        by_contra other
        rw [if_neg other] at opens
        cases opens
      exact tracks_enter kind scan.spec scan.spec
    · exact (sound.inner depth entered inside).2
  all_goals cases routed

/-- Behind a line a section is open only if the line leaves its braces open. -/
theorem eq_of_leaving {depth depth' : Int} {here : Option OpenSection} {entered : OpenSection}
    (stays : leaving depth here = .inside depth' (some entered)) :
    here = some entered ∧ entered.floor ≤ depth' := by
  unfold leaving at stays
  split at stays
  next => cases stays
  next =>
    obtain ⟨rfl, kept⟩ := Phase.inside.inj stays
    obtain ⟨same, above⟩ := Option.filter_eq_some_iff.mp kept
    exact ⟨same, of_decide_eq_true above⟩

/-- **A line keeps what holds behind every line.** From this the result about all states of the pass
follows by induction on the lines. -/
theorem Scan.Sound.step (sound : scan.Sound) (raw : List Char) : (scan.step raw).Sound := by
  cases standing : scan.phase with
  | before =>
      obtain ⟨_, spec⟩ := scan
      obtain rfl := standing
      cases opens : opensSystem raw with
      | false =>
          rw [step_of_not_opensSystem opens]
          exact sound
      | true =>
          rw [step_of_opensSystem opens]
          exact ⟨sound.keyed, fun _ _ open' => by cases open'⟩
  | closed =>
      have same : scan.step raw = scan := by
        rw [Scan.step, standing]
      rw [same]
      exact sound
  | inside depth current =>
      rcases step_cases standing raw with ⟨entered, sections, routed, step⟩ | ⟨-, step⟩
      · have tracks := ((sound.tracks_sectionOf? routed).with_sections sections).effect (row raw)
        refine ⟨?_, fun depth' entered' open' => ?_⟩
        · rw [step]
          exact (sound.keyed.with_sections sections).effect entered (row raw)
        · rw [step] at open' ⊢
          obtain ⟨same, above⟩ := eq_of_leaving open'
          cases same
          exact ⟨tracks.floor ▸ above, tracks⟩
      · refine ⟨step ▸ sound.keyed, fun depth' entered' open' => ?_⟩
        rw [step] at open'
        cases (eq_of_leaving open').1

/-! ## The state in front of a line -/

/-- What a line is about is found in the table with what the line declares, and the line changes it. -/
theorem exists_amended {α : Type} [Named α] {t : Table α} {id : String} {change : α → α}
    {keeps : ∀ a, Named.name (change a) = Named.name a} (known : id ∈ (amend change keeps (some id) t).names) :
    ∃ a, t.find? id = some a ∧ (amend change keeps (some id) t).find? id = some (change a) := by
  rw [names_amend] at known
  obtain ⟨a, found, -⟩ := Table.exists_find? known
  exact ⟨a, found, (Table.find?_adjust t id change keeps).trans (congrArg (Option.map change) found)⟩

/-- A line that is routed to a section keeps what the section keeps track of, and reads itself into the
artifacts. -/
theorem Scan.Sound.routed (sound : scan.Sound) (routed : scan.sectionOf? raw = some entered) :
    ∃ sections, (scan.step raw).spec = entered.effect (row raw) { scan.spec with sections } ∧
      (entered.next (row raw)).Tracks (entered.effect (row raw) { scan.spec with sections }) := by
  cases standing : scan.phase with
  | inside depth current =>
      rcases step_cases standing raw with ⟨entered', sections, routed', step⟩ | ⟨unrouted, -⟩
      · cases routed.symm.trans routed'
        exact ⟨sections, congrArg Scan.spec step,
          ((sound.tracks_sectionOf? routed).with_sections sections).effect (row raw)⟩
      · cases routed.symm.trans unrouted
  | before | closed =>
      rw [Scan.sectionOf?, standing] at routed
      cases routed

/-- **Every line finds what it is about**: a line that says something about a decision or a
validation meets the entry in its table. -/
theorem Scan.Sound.meets (sound : scan.Sound) (raw : List Char) : scan.Meets raw where
  opening current _ inside _ := by
    by_contra some
    obtain ⟨entered, rfl⟩ := Option.ne_none_iff_exists'.mp some
    exact absurd (sound.inner 1 entered inside).1 (by decide)
  decision entered id routed kept := by
    obtain ⟨sections, step, tracks⟩ := sound.routed routed
    obtain ⟨same, known⟩ := tracks.cursor .decisions id kept
    rw [next_kind] at same
    have about : (entered.effect (row raw) { scan.spec with sections }).decisions =
        amend (·.refer (row raw)) (Decision.name_refer (row raw)) (some id)
          (declare ({ id := · }) (heading? "decision" (row raw)) scan.spec.decisions) := by
      rw [← kept]
      unfold OpenSection.effect
      rw [same]
    rw [step, about]
    exact ⟨same, exists_amended (about ▸ known)⟩
  validation entered id routed kept := by
    obtain ⟨sections, step, tracks⟩ := sound.routed routed
    obtain ⟨same, known⟩ := tracks.cursor .validations id kept
    rw [next_kind] at same
    have about : (entered.effect (row raw) { scan.spec with sections }).validations =
        amend (·.require (row raw)) (Validation.name_require (row raw)) (some id)
          (declare ({ id := · }) (validationHeading? (row raw)) scan.spec.validations) := by
      rw [← kept]
      unfold OpenSection.effect
      rw [same]
    rw [step, about]
    exact ⟨same, exists_amended (about ▸ known)⟩

/-! ## The states of the pass -/

theorem sound_foldl (ls : List (List Char)) (sound : scan.Sound) : (ls.foldl Scan.step scan).Sound := by
  induction ls generalizing scan with
  | nil => exact sound
  | cons raw ls ih => exact ih (sound.step raw)

/-- The pass begins without artifacts. -/
theorem sound_header (text : String) : ({ spec := header text } : Scan).Sound where
  keyed := by
    rw [← header_under]
    refine .of_grammar fun kind id here => ?_
    cases kind <;> cases here
  inner _ _ inside := by cases inside

/-- **In every state of the pass**, behind any number of lines of any text: a section is open only while two
braces are and was entered at two; a decision is kept only by a section of decisions and only once it is in
the table, and so is a validation; and every identifier has the form of its section and stands for the entry
that has it.  Whatever line comes next, no section is open when it opens one, and it finds the decision or the
validation that it is about. -/
theorem scanned_sound (text : String) (n : Nat) :
    (scanned text ((lines text.toList).take n)).Sound ∧
      ∀ raw, (scanned text ((lines text.toList).take n)).Meets raw := by
  have sound : (scanned text ((lines text.toList).take n)).Sound :=
    sound_foldl ((lines text.toList).take n) (sound_header text)
  exact ⟨sound, sound.meets⟩

/-- Behind these lines the section keeps a decision, which is the one that the next line is about. -/
example :
    let front := ["system \"S\" \x7b", "decisions \x7b", "decision D1 \x7b"].map String.toList
    (scanned "" front).phase =
      .inside 3 (some { kind := .decisions, floor := 2, decision := some "D1" }) := by
  decide +kernel

end IntentSpec.Document
