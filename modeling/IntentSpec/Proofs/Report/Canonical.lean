import IntentSpec.Proofs.Json.Plain
import IntentSpec.Proofs.Report.Entry
import IntentSpec.Report.Basic

/-!
# The canonical text of a rearranged report

A report is rearranged by permuting its outcomes, its violations, the targets of an outcome, and
the members of objects at any depth of what violations refer to and of the further members.
Evidence and notes keep their order.

Targets and members never matter.  Outcomes and violations are put in order by a key that does not
hold all that is shown of them, so the text of a report is the same for all its rearrangements
exactly when the entries with one key show the same (`canonicalText_eq_iff_determined`).

Whether there is a text at all is a question apart.  A canonical tree needs the keys of the violations and
therefore the text of what they refer to; a canonical text needs the text of the further members as well.
Both are conditions on the integers in a report (`RefsWritable`, `Writable`), which no rearrangement changes.
So the order of a report is studied on its tree and on the spelling of the tree, which every report has, and
the partial functions of the program are joined to them at the outset (`gives_normalize`,
`gives_canonicalText`).

Two texts are made of a value once its members are sorted: a compact one, which orders the violations of a
report, and an indented one, which is the form of a receipt.  For plain values that have a text, either of them
says what the value is, up to the order of members (`stableTexts_eq_iff`).  So violations tie in their order only
if they have one code and refer to the same, whatever their messages are.
-/

namespace IntentSpec.Report

/-- The second outcome has the targets of the first in another order. -/
def Outcome.Rearranged (o o' : Outcome) : Prop :=
  ∃ targets, o.targets.Perm targets ∧ o' = { o with targets := targets }

/-- The second violation refers to what the first does, with objects rearranged. -/
def Violation.Rearranged (v v' : Violation) : Prop :=
  ∃ refs, Json.Rearranged (.object v.refs) (.object refs) ∧ v' = { v with refs := refs }

/-- The second report is the first with its parts in another order. -/
structure Rearranged (r r' : Report) : Prop where
  /-- The version line is the same. -/
  specVersion : r'.specVersion = r.specVersion
  systemId : r'.systemId = r.systemId
  verdict : r'.verdict = r.verdict
  /-- The outcomes are permuted, and so are the targets in each. -/
  outcomes : ∃ outcomes, r.outcomes.Perm outcomes ∧
    List.Forall₂ Outcome.Rearranged outcomes r'.outcomes
  /-- The violations are permuted, and what each refers to is rearranged. -/
  violations : ∃ violations, r.violations.Perm violations ∧
    List.Forall₂ Violation.Rearranged violations r'.violations
  notes : r'.notes = r.notes
  extensions : Option.Rel
    (fun members members' => Json.Rearranged (.object members) (.object members'))
    r.extensions r'.extensions

theorem Outcome.Rearranged.refl (o : Outcome) : o.Rearranged o := ⟨o.targets, List.Perm.refl _, rfl⟩

theorem Violation.Rearranged.refl (v : Violation) : v.Rearranged v :=
  ⟨v.refs, Json.Rearranged.refl _, rfl⟩

/-- Permuted outcomes and permuted violations give a rearranged report. -/
theorem Rearranged.of_perm {r : Report} {outcomes : List Outcome} {violations : List Violation}
    (permOutcomes : r.outcomes.Perm outcomes) (permViolations : r.violations.Perm violations) :
    r.Rearranged { r with outcomes := outcomes, violations := violations } where
  specVersion := rfl
  systemId := rfl
  verdict := rfl
  outcomes := ⟨outcomes, permOutcomes, List.forall₂_same.mpr fun o _ => Outcome.Rearranged.refl o⟩
  violations :=
    ⟨violations, permViolations, List.forall₂_same.mpr fun v _ => Violation.Rearranged.refl v⟩
  notes := rfl
  extensions := by
    cases r.extensions with
    | none => exact Option.Rel.none
    | some members => exact Option.Rel.some (Json.Rearranged.refl _)

/-! ## The entries in canonical order -/

/-- The written outcomes in canonical order. -/
def writtenOutcomes (r : Report) : List (Json.Style → Nat → List Char) :=
  (sortBy (fun a b => pairLe a.place b.place) r.outcomes).map Outcome.written

/-- The violations in canonical order.  They are in order by their places, so there is an order even where a
violation has no key. -/
def orderedViolations (r : Report) : List Violation :=
  sortBy (fun a b => pairLe a.place b.place) r.violations

/-- The written violations in canonical order. -/
def writtenViolations (r : Report) : List (Json.Style → Nat → List Char) :=
  r.orderedViolations.map Violation.written

/-- The canonical tree, which has the parts in order and all members sorted. -/
def tree (r : Report) : Json :=
  (r.toJsonWith (r.canonicalOutcomes.map Outcome.toJson) (r.orderedViolations.map Violation.toJson)).sortKeys

/-- Everything that the violations of a report refer to can be written. -/
def RefsWritable (r : Report) : Prop := ∀ v ∈ r.violations, (Json.object v.refs).Writable

/-- Every integer in a report is short enough to be written.  There are integers in what violations refer to
and in the further members, and nowhere else. -/
structure Writable (r : Report) : Prop where
  refs : r.RefsWritable
  extensions : ∀ members ∈ r.extensions, (Json.object members).Writable

theorem gives_canonicalViolations (r : Report) :
    Gives r.canonicalViolations .unwritable r.RefsWritable r.orderedViolations := by
  have keyed : Gives (r.violations.mapM fun v => return (← v.sortKey, v)) .unwritable r.RefsWritable
      (r.violations.map fun v => (v.place, v)) :=
    Gives.mapM fun v _ => v.gives_sortKey.map fun key => (key, v)
  -- putting the keys beside the violations and taking them away again does not change the order
  have sorted : (sortBy (fun a b => pairLe a.place b.place) r.violations).map (fun v => (v.place, v)) =
      sortBy (fun a b => pairLe a.1 b.1) (r.violations.map fun v => (v.place, v)) := by
    refine map_sortBy (fun v : Violation => (v.place, v)) ?_ r.violations
    intro a b
    rfl
  have ordered : (sortBy (fun a b => pairLe a.1 b.1) (r.violations.map fun v => (v.place, v))).map
      (·.2) = r.orderedViolations := by
    rw [← sorted, List.map_map]
    exact List.map_id _
  rw [← ordered]
  exact keyed.map _

/-- **A report has a canonical tree exactly if what its violations refer to can be written.** What
else is in the report need not be. -/
theorem gives_normalize (r : Report) : Gives r.normalize .unwritable r.RefsWritable r.tree :=
  r.gives_canonicalViolations.map _

/-- The outcomes may be put in order first and their targets sorted afterwards. -/
theorem canonicalOutcomes_eq_map (r : Report) : r.canonicalOutcomes =
    (sortBy (fun a b => pairLe a.place b.place) r.outcomes).map Outcome.sortTargets := by
  refine (map_sortBy Outcome.sortTargets ?_ r.outcomes).symm
  intro a b
  rfl

theorem map_written_canonicalOutcomes (r : Report) :
    (r.canonicalOutcomes.map Outcome.toJson).map Json.written = r.writtenOutcomes := by
  rw [canonicalOutcomes_eq_map, List.map_map, List.map_map]
  rfl

theorem map_written_orderedViolations (r : Report) :
    (r.orderedViolations.map Violation.toJson).map Json.written = r.writtenViolations := by
  rw [List.map_map]
  rfl

/-- The members of a report with given outcomes and violations. -/
def jsonMembers (r : Report) (outcomes violations : List Json) : List (String × Json) :=
  [("spec_version", .text r.specVersion), ("system_id", .text r.systemId),
    ("state", .text r.verdict.name), ("outcomes", .array outcomes),
    ("errors", .array violations)] ++
  (r.notes.map fun l => ("notes", Json.texts l)).toList ++
  (r.extensions.map fun members => ("extensions", Json.object members)).toList

theorem toJsonWith_eq (r : Report) (outcomes violations : List Json) :
    r.toJsonWith outcomes violations = .object (r.jsonMembers outcomes violations) := rfl

theorem mem_outcomes (r : Report) (outcomes violations : List Json) (w : Json) :
    ("outcomes", w) ∈ r.jsonMembers outcomes violations ↔ w = .array outcomes := by
  unfold jsonMembers
  cases r.notes <;> cases r.extensions <;> simp

theorem mem_violations (r : Report) (outcomes violations : List Json) (w : Json) :
    ("errors", w) ∈ r.jsonMembers outcomes violations ↔ w = .array violations := by
  unfold jsonMembers
  cases r.notes <;> cases r.extensions <;> simp

/-! ## Reports that can be written -/

theorem Evidence.writable (e : Evidence) : e.toJson.Writable := by
  rw [Evidence.toJson_eq, Evidence.jsonMembers, Json.writable_object_iff]
  exact List.forall_mem_cons.mpr ⟨.text _, List.forall_mem_singleton.mpr (.text _)⟩

theorem writable_annotations {evidence : Option (List Evidence)} {notes : Option (List String)} :
    ∀ m ∈ annotations evidence notes, m.2.Writable := by
  rintro ⟨key, w⟩ here
  rcases (mem_annotations ..).mp here with ⟨-, l, -, rfl⟩ | ⟨-, l, -, rfl⟩
  · exact .array (List.forall_mem_map.mpr fun e _ => e.writable)
  · exact Json.writable_texts l

theorem Outcome.writable (o : Outcome) : o.toJson.Writable := by
  rw [Outcome.toJson_eq, Json.writable_object_iff]
  rintro ⟨key, w⟩ here
  rcases (o.mem_members key w).mp here with ⟨-, rfl⟩ | ⟨-, rfl⟩ | ⟨-, rfl⟩ | ⟨-, reason, -, rfl⟩ | noted
  · exact .text _
  · exact .text _
  · exact Json.writable_texts _
  · exact .text _
  · exact writable_annotations _ noted

theorem Violation.writable_iff (v : Violation) : v.toJson.Writable ↔ (Json.object v.refs).Writable := by
  rw [Violation.toJson_eq, Json.writable_object_iff]
  refine ⟨fun all => all ("refs", .object v.refs) (by simp [jsonMembers]), fun refs => ?_⟩
  rintro ⟨key, w⟩ here
  rcases (v.mem_members key w).mp here with ⟨-, rfl⟩ | ⟨-, rfl⟩ | ⟨-, rfl⟩ | noted
  · exact .text _
  · exact .text _
  · exact refs
  · exact writable_annotations _ noted

theorem writable_tree_iff (r : Report) : r.tree.Writable ↔ r.Writable := by
  have entries : (Json.array (r.orderedViolations.map Violation.toJson)).Writable ↔ r.RefsWritable := by
    rw [Json.writable_array_iff, List.forall_mem_map]
    exact forall_congr' fun v => imp_congr (sortBy_perm _).mem_iff v.writable_iff
  have outcomes : (Json.array (r.canonicalOutcomes.map Outcome.toJson)).Writable :=
    .array (List.forall_mem_map.mpr fun o _ => o.writable)
  have notes : ∀ l : List String, (Json.texts l).Writable := Json.writable_texts
  rw [tree, Json.writable_sortKeys_iff, toJsonWith_eq, Json.writable_object_iff, jsonMembers]
  simp only [List.forall_mem_append, List.forall_mem_cons, List.not_mem_nil, false_imp_iff,
    implies_true, and_true, entries]
  constructor
  · rintro ⟨⟨⟨-, -, -, -, refs⟩, -⟩, extensions⟩
    refine ⟨refs, fun members given => extensions ("extensions", .object members) ?_⟩
    rw [Option.mem_def.mp given]
    exact List.mem_singleton.mpr rfl
  · intro writable
    refine ⟨⟨⟨.text _, .text _, .text _, outcomes, writable.refs⟩, ?_⟩, ?_⟩
    · rintro m here
      obtain ⟨l, -, rfl⟩ := Option.map_eq_some_iff.mp (Option.mem_toList.mp here)
      exact notes l
    · rintro m here
      obtain ⟨members, given, rfl⟩ := Option.map_eq_some_iff.mp (Option.mem_toList.mp here)
      exact writable.extensions members given

/-- **A report has a canonical text exactly if it can be written.**  The text is the spelling of its tree. -/
theorem gives_canonicalText (r : Report) :
    Gives r.canonicalText .unwritable r.Writable (r.tree.spelling .lined) := by
  refine (r.gives_normalize.bind (Json.gives_render .lined r.tree)).congr ?_
  rw [r.writable_tree_iff]
  exact and_iff_right_of_imp Writable.refs

/-- **The spelling of a rearranged report is the same exactly when the written entries come in the same
order.** -/
theorem Rearranged.spelling_eq_iff {r r' : Report} (h : r.Rearranged r') :
    r'.tree.spelling .lined = r.tree.spelling .lined ↔
      r'.writtenOutcomes = r.writtenOutcomes ∧ r'.writtenViolations = r.writtenViolations := by
  unfold tree
  rw [Json.spelling_eq_iff Json.Style.readable_lined, toJsonWith_eq, toJsonWith_eq,
    ← map_written_canonicalOutcomes, ← map_written_canonicalOutcomes,
    ← map_written_orderedViolations, ← map_written_orderedViolations,
    ← Json.alike_array_sortKeys_iff, ← Json.alike_array_sortKeys_iff]
  constructor
  · intro alike
    constructor
    · obtain ⟨w, hw, items⟩ := alike.exists_member ((mem_outcomes _ _ _ _).mpr rfl)
      rw [(mem_outcomes _ _ _ _).mp hw] at items
      exact items
    · obtain ⟨w, hw, items⟩ := alike.exists_member ((mem_violations _ _ _ _).mpr rfl)
      rw [(mem_violations _ _ _ _).mp hw] at items
      exact items
  · rintro ⟨outcomes, violations⟩
    -- Member by member: the entries by assumption, the further members since sorting forgets their
    -- order, and all others because they are the same.
    refine Json.Alike.object_sortKeys ?_
    unfold jsonMembers
    rw [h.specVersion, h.systemId, h.verdict, h.notes]
    refine List.rel_append (List.rel_append ?_ ?_) ?_
    · refine List.Forall₂.cons ⟨rfl, Json.Alike.refl _⟩ (List.Forall₂.cons ⟨rfl, Json.Alike.refl _⟩
        (List.Forall₂.cons ⟨rfl, Json.Alike.refl _⟩ ?_))
      exact List.Forall₂.cons ⟨rfl, outcomes⟩ (List.Forall₂.cons ⟨rfl, violations⟩ List.Forall₂.nil)
    · exact List.forall₂_same.mpr fun m _ => ⟨rfl, Json.Alike.refl _⟩
    · have extensions := h.extensions
      revert extensions
      generalize r.extensions = members
      generalize r'.extensions = members'
      intro extensions
      cases extensions with
      | none => exact List.Forall₂.nil
      | some rearranged =>
          have trees := Json.Alike.of_eq rearranged.sortKeys_eq.symm
          exact List.Forall₂.cons ⟨rfl, trees⟩ List.Forall₂.nil

/-! ## Ties -/

/-- The entries that the order of the canonical text does not tell apart show the same. -/
structure Determined (r : Report) : Prop where
  /-- Outcomes of one rule with one joined list of targets show the same. -/
  outcomes : ∀ a ∈ r.outcomes, ∀ b ∈ r.outcomes, a.place = b.place → a.ShownAlike b
  /-- Violations of one kind that refer to the same show the same. -/
  violations : ∀ a ∈ r.violations, ∀ b ∈ r.violations, a.place = b.place → a.ShownAlike b

theorem Outcome.Rearranged.sortTargets_eq {o o' : Outcome} (h : o.Rearranged o') :
    o'.sortTargets = o.sortTargets := by
  obtain ⟨targets, perm, rfl⟩ := h
  unfold Outcome.sortTargets
  rw [sortTexts_eq_of_perm perm]

theorem Violation.Rearranged.place_eq {v v' : Violation} (h : v.Rearranged v') : v'.place = v.place := by
  obtain ⟨refs, rearranged, rfl⟩ := h
  unfold Violation.place
  rw [rearranged.sortKeys_eq]

theorem Violation.Rearranged.writable_iff {v v' : Violation} (h : v.Rearranged v') :
    (Json.object v'.refs).Writable ↔ (Json.object v.refs).Writable := by
  obtain ⟨refs, rearranged, rfl⟩ := h
  exact rearranged.writable_iff.symm

theorem Violation.Rearranged.written_eq {v v' : Violation} (h : v.Rearranged v') :
    v'.written = v.written := by
  obtain ⟨refs, rearranged, rfl⟩ := h
  refine (Violation.written_eq_iff (Violation.Rearranged.place_eq ⟨refs, rearranged, rfl⟩)).mpr ?_
  exact ⟨rfl, rfl, rfl⟩

/-- Permuted outcomes are written in one order exactly when ties show the same. -/
theorem writtenOutcomes_perm_iff (r : Report) :
    (∀ l, r.outcomes.Perm l → writtenOutcomes { r with outcomes := l } = r.writtenOutcomes) ↔
      ∀ a ∈ r.outcomes, ∀ b ∈ r.outcomes, a.place = b.place → a.ShownAlike b := by
  have ties := map_sortBy_eq_iff pairLe_comparison pairLe_antisymm Outcome.place Outcome.written
    r.outcomes
  refine ties.trans ⟨fun h a ha b hb tied => ?_, fun h a ha b hb tied => ?_⟩
  · exact (Outcome.written_eq_iff tied).mp (h a ha b hb tied)
  · exact (Outcome.written_eq_iff tied).mpr (h a ha b hb tied)

/-- Permuted violations are written in one order exactly when ties show the same. -/
theorem writtenViolations_perm_iff (r : Report) :
    (∀ l, r.violations.Perm l →
        writtenViolations { r with violations := l } = r.writtenViolations) ↔
      ∀ a ∈ r.violations, ∀ b ∈ r.violations, a.place = b.place → a.ShownAlike b := by
  have ties := map_sortBy_eq_iff pairLe_comparison pairLe_antisymm Violation.place
    Violation.written r.violations
  refine ties.trans ⟨fun h a ha b hb tied => ?_, fun h a ha b hb tied => ?_⟩
  · exact (Violation.written_eq_iff tied).mp (h a ha b hb tied)
  · exact (Violation.written_eq_iff tied).mpr (h a ha b hb tied)

/-- Targets that are permuted in their outcomes do not change what is written. -/
theorem writtenOutcomes_eq_of_forall₂ {r r' : Report}
    (h : List.Forall₂ Outcome.Rearranged r.outcomes r'.outcomes) :
    r'.writtenOutcomes = r.writtenOutcomes := by
  have sorted := forall₂_sortBy (fun a b : Outcome => pairLe a.place b.place) ?_ h
  · refine (Json.map_eq_map_of_forall₂ (sorted.imp fun o o' rearranged => ?_)).symm
    unfold Outcome.written
    rw [rearranged.sortTargets_eq]
  · intro a a' b b' ha hb
    unfold Outcome.place
    rw [ha.sortTargets_eq, hb.sortTargets_eq]

/-- Objects that are rearranged in what violations refer to do not change what is written. -/
theorem writtenViolations_eq_of_forall₂ {r r' : Report}
    (h : List.Forall₂ Violation.Rearranged r.violations r'.violations) :
    r'.writtenViolations = r.writtenViolations := by
  have sorted := forall₂_sortBy (fun a b : Violation => pairLe a.place b.place) ?_ h
  · refine (Json.map_eq_map_of_forall₂ (sorted.imp fun v v' rearranged => ?_)).symm
    exact rearranged.written_eq.symm
  · intro a a' b b' ha hb
    rw [ha.place_eq, hb.place_eq]

/-- Rearranging a report does not change whether it can be written. -/
theorem Rearranged.writable_iff {r r' : Report} (h : r.Rearranged r') : r'.Writable ↔ r.Writable := by
  have refs : r'.RefsWritable ↔ r.RefsWritable := by
    obtain ⟨violations, perm, related⟩ := h.violations
    have each : ∀ {l l' : List Violation}, List.Forall₂ Violation.Rearranged l l' →
        ((∀ v ∈ l, (Json.object v.refs).Writable) ↔ ∀ v ∈ l', (Json.object v.refs).Writable) := by
      intro l l' all
      induction all with
      | nil => rfl
      | cons first _ ih => rw [List.forall_mem_cons, List.forall_mem_cons, first.writable_iff, ih]
    unfold RefsWritable
    rw [← each related]
    exact forall_congr' fun v => imp_congr_left perm.mem_iff.symm
  have extensions : (∀ members ∈ r'.extensions, (Json.object members).Writable) ↔
      ∀ members ∈ r.extensions, (Json.object members).Writable := by
    have related := h.extensions
    revert related
    generalize r.extensions = members
    generalize r'.extensions = members'
    intro related
    cases related with
    | none => rfl
    | some rearranged => simpa using rearranged.writable_iff.symm
  exact ⟨fun w => ⟨refs.mp w.refs, extensions.mp w.extensions⟩,
    fun w => ⟨refs.mpr w.refs, extensions.mpr w.extensions⟩⟩

/-- Rearrangements of a report are spelled alike exactly when its ties show the same. -/
theorem spelling_eq_iff_determined (r : Report) :
    (∀ r', r.Rearranged r' → r'.tree.spelling .lined = r.tree.spelling .lined) ↔ r.Determined := by
  constructor
  · intro same
    -- Permuting the outcomes alone tests their ties, and so do the violations.
    constructor
    · refine r.writtenOutcomes_perm_iff.mp fun outcomes perm => ?_
      have rearranged := Rearranged.of_perm perm (List.Perm.refl r.violations)
      exact (rearranged.spelling_eq_iff.mp (same _ rearranged)).1
    · refine r.writtenViolations_perm_iff.mp fun violations perm => ?_
      have rearranged := Rearranged.of_perm (List.Perm.refl r.outcomes) perm
      exact (rearranged.spelling_eq_iff.mp (same _ rearranged)).2
  · intro determined r' rearranged
    rw [rearranged.spelling_eq_iff]
    constructor
    · obtain ⟨outcomes, perm, related⟩ := rearranged.outcomes
      have permuted := r.writtenOutcomes_perm_iff.mpr determined.outcomes outcomes perm
      rw [← permuted]
      exact writtenOutcomes_eq_of_forall₂ (r := { r with outcomes := outcomes }) related
    · obtain ⟨violations, perm, related⟩ := rearranged.violations
      have permuted := r.writtenViolations_perm_iff.mpr determined.violations violations perm
      rw [← permuted]
      exact writtenViolations_eq_of_forall₂ (r := { r with violations := violations }) related

/-- **There is one text for all rearrangements of a report exactly when it can be written and the entries that
the order does not tell apart show the same.**  Targets and the members of objects may always be
rearranged.  Where a report cannot be written, none of its rearrangements can. -/
theorem canonicalText_eq_iff_determined (r : Report) :
    ((∃ text, ∀ r', r.Rearranged r' → r'.canonicalText = .ok text) ↔ r.Writable ∧ r.Determined) ∧
    (¬ r.Writable → ∀ r', r.Rearranged r' → r'.canonicalText = .error .unwritable) := by
  have itself : r.Rearranged r := .of_perm (.refl _) (.refl _)
  refine ⟨⟨?_, ?_⟩, fun lacks r' rearranged => ?_⟩
  · rintro ⟨text, same⟩
    obtain ⟨writable, spelled⟩ := r.gives_canonicalText.eq_ok_iff.mp (same r itself)
    refine ⟨writable, r.spelling_eq_iff_determined.mp fun r' rearranged => ?_⟩
    rw [spelled]
    exact (r'.gives_canonicalText.eq_ok_iff.mp (same r' rearranged)).2
  · rintro ⟨writable, determined⟩
    refine ⟨r.tree.spelling .lined, fun r' rearranged => ?_⟩
    rw [← r.spelling_eq_iff_determined.mpr determined r' rearranged]
    exact r'.gives_canonicalText.ok (rearranged.writable_iff.mpr writable)
  · exact r'.gives_canonicalText.fails (mt rearranged.writable_iff.mp lacks)

/-- A report with two violations of one kind that refer to nothing. -/
def tiedReport (first second : String) : Report where
  specVersion := "DIL:spec v0"
  systemId := "S"
  verdict := .invalid
  violations := [{ code := "E", message := first }, { code := "E", message := second }]

/-- Messages are shown and do not decide the order: two violations that differ in nothing else are
written in the order in which they were found. -/
theorem tiedReport_canonicalText_ne : (tiedReport "b" "a").Rearranged (tiedReport "a" "b") ∧
    ∃ text text', (tiedReport "a" "b").canonicalText = .ok text ∧
      (tiedReport "b" "a").canonicalText = .ok text' ∧ text ≠ text' := by
  constructor
  · exact Rearranged.of_perm (List.Perm.refl _) (List.Perm.swap _ _ _)
  · exact ⟨_, _, rfl, rfl, by decide +kernel⟩

/-! ## The sorted texts of values -/

/-- Two attempts that succeed alike. -/
theorem exists_ok_and_ok_iff {ε α : Type} {x y : Except ε α} {error : ε} {p q : Prop} {a b : α}
    (hx : Gives x error p a) (hy : Gives y error q b) :
    (∃ c, x = .ok c ∧ y = .ok c) ↔ p ∧ q ∧ a = b := by
  simp only [hx.eq_ok_iff, hy.eq_ok_iff]
  constructor
  · rintro ⟨c, ⟨left, rfl⟩, right, same⟩
    exact ⟨left, right, same.symm⟩
  · rintro ⟨left, right, rfl⟩
    exact ⟨a, ⟨left, rfl⟩, right, rfl⟩

/-- Plain values have one text, in a style that can be read back, exactly when they can be written and are
rearrangements of each other. -/
theorem exists_sortedText_iff {style : Json.Style} (readable : style.Readable) {v w : Json} (plain : v.Plain)
    (plain' : w.Plain) :
    (∃ s, v.sortKeys.render style = .ok s ∧ w.sortKeys.render style = .ok s) ↔
      v.Writable ∧ Json.Rearranged v w := by
  rw [exists_ok_and_ok_iff (Json.gives_render style v.sortKeys) (Json.gives_render style w.sortKeys),
    Json.writable_sortKeys_iff, Json.writable_sortKeys_iff,
    Json.spelling_sortKeys_eq_iff readable plain plain']
  refine and_congr_right fun writable => and_iff_right_of_imp fun rearranged => ?_
  exact rearranged.writable_iff.mp writable

/-- **The sorted texts tell plain values apart, up to the order of members.**  Two values have one
compact text exactly when they can be written and the members of the objects in one are those in the other in
some order, at every depth; it is so for the indented texts; and so two violations tie in the order of a report
exactly when they have one code and refer to the same.  A value with an integer of too many digits has
neither text, and a violation that refers to one has no place in the order. -/
theorem stableTexts_eq_iff :
    (∀ v w : Json, v.Plain → w.Plain →
      ((∃ s, v.compactText = .ok s ∧ w.compactText = .ok s) ↔ v.Writable ∧ Json.Rearranged v w) ∧
      ((∃ s, v.indentedText = .ok s ∧ w.indentedText = .ok s) ↔ v.Writable ∧ Json.Rearranged v w)) ∧
    (∀ a b : Violation, (Json.object a.refs).Plain → (Json.object b.refs).Plain →
      ((∃ key, a.sortKey = .ok key ∧ b.sortKey = .ok key) ↔ (Json.object a.refs).Writable ∧
        a.code = b.code ∧ Json.Rearranged (.object a.refs) (.object b.refs))) ∧
    ∀ v : Json, ¬ v.Writable →
      v.compactText = .error .unwritable ∧ v.indentedText = .error .unwritable := by
  refine ⟨fun v w plain plain' => ⟨?_, ?_⟩, fun a b plain plain' => ?_, fun v lacks => ⟨?_, ?_⟩⟩
  · exact exists_sortedText_iff Json.Style.readable_compact plain plain'
  · exact exists_sortedText_iff Json.Style.readable_lined plain plain'
  · rw [exists_ok_and_ok_iff a.gives_sortKey b.gives_sortKey]
    unfold Violation.place
    rw [Prod.mk.injEq, Json.spelling_sortKeys_eq_iff Json.Style.readable_compact plain plain']
    refine and_congr_right fun writable => and_iff_right_of_imp fun both => ?_
    exact both.2.writable_iff.mp writable
  · exact (Json.gives_compactText v).fails lacks
  · exact (Json.gives_indentedText v).fails lacks

/-- References with an object inside an array. -/
def nestedRefs : List (String × Json) :=
  [("spans", .array [.null, .object [("line", .int 7), ("column", .int (-1))]]), ("exact", .bool true)]

/-- The same references, with the members permuted at both depths. -/
def turnedRefs : List (String × Json) :=
  [("exact", .bool true), ("spans", .array [.null, .object [("column", .int (-1)), ("line", .int 7)]])]

theorem plain_nestedRefs : (Json.object nestedRefs).Plain := by
  have place : (Json.object [("line", .int 7), ("column", .int (-1))]).Plain :=
    .object (by decide) (List.forall_mem_cons.mpr ⟨.int trivial, List.forall_mem_singleton.mpr (.int trivial)⟩)
  have spans : (Json.array [.null, .object [("line", .int 7), ("column", .int (-1))]]).Plain :=
    .array (List.forall_mem_cons.mpr ⟨.null, List.forall_mem_singleton.mpr place⟩)
  exact .object (by decide) (List.forall_mem_cons.mpr ⟨spans, List.forall_mem_singleton.mpr (.bool true)⟩)

theorem rearranged_turnedRefs : Json.Rearranged (.object nestedRefs) (.object turnedRefs) := by
  have place : Json.Rearranged (.object [("line", .int 7), ("column", .int (-1))])
      (.object [("column", .int (-1)), ("line", .int 7)]) :=
    .members (by decide) (.swap _ _ _)
  have spans := Json.Rearranged.item [.null] [] place
  exact (Json.Rearranged.value "spans" [] [("exact", .bool true)] spans).trans
    (.members (by decide) (.swap _ _ _))

theorem plain_turnedRefs : (Json.object turnedRefs).Plain :=
  plain_nestedRefs.rearranged rearranged_turnedRefs

theorem writable_nestedRefs : (Json.object nestedRefs).Writable := by
  have place : (Json.object [("line", .int 7), ("column", .int (-1))]).Writable :=
    .object trivial (List.forall_mem_cons.mpr
      ⟨.int (by decide +kernel), List.forall_mem_singleton.mpr (.int (by decide +kernel))⟩)
  have spans : (Json.array [.null, .object [("line", .int 7), ("column", .int (-1))]]).Writable :=
    .array (List.forall_mem_cons.mpr ⟨.null, List.forall_mem_singleton.mpr place⟩)
  exact .object trivial (List.forall_mem_cons.mpr ⟨spans, List.forall_mem_singleton.mpr (.bool true)⟩)

/-- Both texts of these references are the same, and violations that refer to them tie. -/
theorem stableTexts_turnedRefs :
    (Json.object nestedRefs).Plain ∧ (Json.object turnedRefs).Plain ∧
    (∃ s, (Json.object nestedRefs).compactText = .ok s ∧ (Json.object turnedRefs).compactText = .ok s) ∧
    (∃ s, (Json.object nestedRefs).indentedText = .ok s ∧ (Json.object turnedRefs).indentedText = .ok s) ∧
    ∃ key, ({ code := "E", message := "first", refs := nestedRefs } : Violation).sortKey = .ok key ∧
      ({ code := "E", message := "second", refs := turnedRefs } : Violation).sortKey = .ok key := by
  obtain ⟨values, violations, -⟩ := stableTexts_eq_iff
  obtain ⟨compact, indented⟩ := values _ _ plain_nestedRefs plain_turnedRefs
  refine ⟨plain_nestedRefs, plain_turnedRefs, compact.mpr ⟨writable_nestedRefs, rearranged_turnedRefs⟩,
    indented.mpr ⟨writable_nestedRefs, rearranged_turnedRefs⟩, ?_⟩
  exact (violations _ _ plain_nestedRefs plain_turnedRefs).mpr
    ⟨writable_nestedRefs, rfl, rearranged_turnedRefs⟩

/-- The least integer with too many digits is a plain value and a rearrangement of itself, and neither of its
texts exists. -/
theorem stableTexts_ne_overlong : (Json.int Text.overlong).Plain ∧
    Json.Rearranged (.int Text.overlong) (.int Text.overlong) ∧
    ¬ (∃ s, (Json.int Text.overlong).compactText = .ok s ∧ (Json.int Text.overlong).compactText = .ok s) ∧
    ¬ ∃ s, (Json.int Text.overlong).indentedText = .ok s ∧ (Json.int Text.overlong).indentedText = .ok s := by
  have lacks : ¬ (Json.int Text.overlong).Writable :=
    mt (Json.writable_int_iff _).mp Text.not_writable_overlong
  refine ⟨.int trivial, .refl _, ?_, ?_⟩
  · rintro ⟨s, first, -⟩
    exact lacks ((Json.gives_compactText _).eq_ok_iff.mp first).1
  · rintro ⟨s, first, -⟩
    exact lacks ((Json.gives_indentedText _).eq_ok_iff.mp first).1

end IntentSpec.Report
