import IntentSpec.Proofs.Report.Normal
import IntentSpec.Proofs.Rule.Redeclared
import IntentSpec.Report.Summary

/-!
# The order of the rows of a summary

The summary of a report has a row for each outcome and one for each violation, and it puts the rows in
order by itself: those of outcomes by the rule, and those of violations by the code.  The canonical order
goes further, to the targets of an outcome and to what a violation refers to.  So the rows of different
rules stand as in the canonical tree, and the rows of one rule stand as they were found.

The summary is made for every report, while a report that refers to an integer with too many digits has no
canonical tree to compare it with.  The rows of such a report are in no order that could be called canonical.

* `ShownInOrder` — row by row, the summary shows what stands in the canonical tree.
* `TiesInOrder` — the outcomes of each rule, and the violations of each code, were found in an order that
  shows the same as the canonical one.
* `shownInOrder_iff` — the first holds exactly when the second does; it holds of the report on any document.
-/

namespace IntentSpec

namespace Json

/-- The value is an object with this member. -/
def Has (v : Json) (key : String) (w : Json) : Prop := ∃ members, v = .object members ∧ (key, w) ∈ members

/-- A key that stands for one value stands for its sorted form once the members are sorted. -/
theorem has_sortKeys_iff {members : List (String × Json)} {key : String} {v : Json}
    (only : ∀ w, (key, w) ∈ members ↔ v = w) (w : Json) :
    (object members).sortKeys.Has key w ↔ w = v.sortKeys := by
  rw [sortKeys_object]
  constructor
  · rintro ⟨sorted, same, here⟩
    obtain rfl := object.inj same
    obtain ⟨⟨key', w'⟩, inside, same⟩ := List.mem_map.mp ((sortBy_perm _).mem_iff.mp here)
    obtain ⟨rfl, rfl⟩ := Prod.mk.inj same
    rw [(only w').mp inside]
  · rintro rfl
    refine ⟨_, rfl, (sortBy_perm _).mem_iff.mpr ?_⟩
    exact List.mem_map_of_mem (f := fun m : String × Json => (m.1, m.2.sortKeys)) ((only v).mpr rfl)

end Json

namespace Report

/-! ## Rows and what is written -/

/-- The row shows the rule, the status and the targets of an outcome, as it is written. -/
def ShowsOutcome (row : List String) (o : Json) : Prop :=
  ∃ rule status targets reason, row = [rule, status, ", ".intercalate targets, reason] ∧
    o.Has "validation_id" (.text rule) ∧ o.Has "status" (.text status) ∧ o.Has "targets" (.texts targets)

/-- The row shows the code and the message of a violation, as it is written. -/
def ShowsViolation (row : List String) (v : Json) : Prop :=
  ∃ code message, row = [code, message] ∧ v.Has "code" (.text code) ∧ v.Has "message" (.text message)

/-- The rows of the summary show the entries of the canonical tree, one by one.  There has to be such a tree. -/
def ShownInOrder (r : Report) : Prop :=
  ∃ tree, r.normalize = .ok tree ∧
    (∃ os, tree.Has "outcomes" (.array os) ∧ List.Forall₂ ShowsOutcome r.outcomeRows os) ∧
    ∃ vs, tree.Has "errors" (.array vs) ∧ List.Forall₂ ShowsViolation r.violationRows vs

/-- The cells in which an outcome shows its rule, its status and its targets. -/
def Outcome.cells (o : Outcome) : String × String × String :=
  (o.validation, o.status.name, ", ".intercalate (sortTexts o.targets))

/-- The cells in which a violation shows its code and its message. -/
def Violation.cells (v : Violation) : String × String := (v.code, v.message)

/-- What is found under one rule, and under one code, shows the same as it would in canonical order. -/
structure TiesInOrder (r : Report) : Prop where
  /-- It is so for the outcomes of each rule. -/
  outcomes : ∀ rule, (r.outcomes.filter fun o => o.validation == rule).map Outcome.cells =
    (sortBy (fun a b => pairLe a.place b.place)
      (r.outcomes.filter fun o => o.validation == rule)).map Outcome.cells
  /-- It is so for the violations of each code. -/
  violations : ∀ code, (r.violations.filter fun v => v.code == code).map Violation.cells =
    (sortBy (fun a b => pairLe a.place b.place)
      (r.violations.filter fun v => v.code == code)).map Violation.cells

theorem showsOutcome_iff (a b : Outcome) :
    ShowsOutcome a.row b.sortTargets.toJson.sortKeys ↔ a.cells = b.cells := by
  have rule : ∀ w, b.sortTargets.toJson.sortKeys.Has "validation_id" w ↔ w = .text b.validation := by
    rw [Outcome.toJson_eq, ← Json.sortKeys_text b.validation]
    exact Json.has_sortKeys_iff (by simp [Outcome.mem_members, mem_annotations, Outcome.sortTargets])
  have status : ∀ w, b.sortTargets.toJson.sortKeys.Has "status" w ↔ w = .text b.status.name := by
    rw [Outcome.toJson_eq, ← Json.sortKeys_text b.status.name]
    exact Json.has_sortKeys_iff (by simp [Outcome.mem_members, mem_annotations, Outcome.sortTargets])
  have targets : ∀ w, b.sortTargets.toJson.sortKeys.Has "targets" w ↔
      w = .texts (sortTexts b.targets) := by
    rw [Outcome.toJson_eq, ← Json.sortKeys_texts (sortTexts b.targets)]
    exact Json.has_sortKeys_iff (by simp [Outcome.mem_members, mem_annotations, Outcome.sortTargets])
  have texts : ∀ l l' : List String, Json.texts l = Json.texts l' ↔ l = l' := by
    intro l l'
    rw [Json.texts, Json.texts, Json.array.injEq]
    exact (List.map_injective_iff.mpr fun _ _ => Json.text.inj).eq_iff
  simp only [ShowsOutcome, rule, status, targets, Json.text.injEq, texts, Outcome.row, Outcome.cells,
    Prod.mk.injEq]
  constructor
  · rintro ⟨_, _, _, _, cells, rfl, rfl, rfl⟩
    simp only [List.cons.injEq] at cells
    exact ⟨cells.1, cells.2.1, cells.2.2.1⟩
  · rintro ⟨sameRule, sameStatus, sameTargets⟩
    exact ⟨_, _, _, _, by rw [sameRule, sameStatus, sameTargets], rfl, rfl, rfl⟩

theorem showsViolation_iff (a b : Violation) :
    ShowsViolation a.row b.toJson.sortKeys ↔ a.cells = b.cells := by
  have code : ∀ w, b.toJson.sortKeys.Has "code" w ↔ w = .text b.code := by
    rw [Violation.toJson_eq, ← Json.sortKeys_text b.code]
    exact Json.has_sortKeys_iff (by simp [Violation.mem_members, mem_annotations])
  have message : ∀ w, b.toJson.sortKeys.Has "message" w ↔ w = .text b.message := by
    rw [Violation.toJson_eq, ← Json.sortKeys_text b.message]
    exact Json.has_sortKeys_iff (by simp [Violation.mem_members, mem_annotations])
  simp only [ShowsViolation, code, message, Json.text.injEq, Violation.row, Violation.cells, Prod.mk.injEq]
  constructor
  · rintro ⟨_, _, cells, rfl, rfl⟩
    simp only [List.cons.injEq] at cells
    exact ⟨cells.1, cells.2.1⟩
  · rintro ⟨sameCode, sameMessage⟩
    exact ⟨_, _, by rw [sameCode, sameMessage], rfl, rfl⟩

/-! ## Rows one by one -/

theorem has_outcomes_iff (r : Report) (os : List Json) : r.tree.Has "outcomes" (.array os) ↔
    os = (r.canonicalOutcomes.map Outcome.toJson).map Json.sortKeys := by
  unfold tree
  rw [toJsonWith_eq, Json.has_sortKeys_iff (fun w => (mem_outcomes _ _ _ w).trans eq_comm),
    Json.sortKeys_array, Json.array.injEq]

theorem has_violations_iff (r : Report) (vs : List Json) : r.tree.Has "errors" (.array vs) ↔
    vs = (r.orderedViolations.map Violation.toJson).map Json.sortKeys := by
  unfold tree
  rw [toJsonWith_eq, Json.has_sortKeys_iff (fun w => (mem_violations _ _ _ w).trans eq_comm),
    Json.sortKeys_array, Json.array.injEq]

theorem fst_le_of_pairLe {a b : String × String} (below : pairLe a b = true) : a.1 ≤ b.1 := by
  rcases (pairLe_iff a b).mp below with less | ⟨same, -⟩
  · exact Std.le_of_lt less
  · exact same ▸ String.le_refl _

/-- The rows of outcomes are in canonical order when those of each rule are. -/
theorem forall₂_showsOutcome_iff (r : Report) :
    List.Forall₂ ShowsOutcome r.outcomeRows ((r.canonicalOutcomes.map Outcome.toJson).map Json.sortKeys) ↔
      ∀ rule, (r.outcomes.filter fun o => o.validation == rule).map Outcome.cells =
        (sortBy (fun a b => pairLe a.place b.place)
          (r.outcomes.filter fun o => o.validation == rule)).map Outcome.cells := by
  have place := pairLe_comparison.on Outcome.place
  rw [← map_sortBy_eq_map_sortBy_iff place Outcome.validation fst_le_of_pairLe Outcome.cells Prod.fst
    (fun _ => rfl), canonicalOutcomes_eq_map, outcomeRows, ← List.forall₂_eq_eq_eq]
  simp only [List.forall₂_map_left_iff, List.forall₂_map_right_iff, showsOutcome_iff]

/-- The rows of violations are in canonical order when those of each code are. -/
theorem forall₂_showsViolation_iff (r : Report) :
    List.Forall₂ ShowsViolation r.violationRows
        ((r.orderedViolations.map Violation.toJson).map Json.sortKeys) ↔
      ∀ code, (r.violations.filter fun v => v.code == code).map Violation.cells =
        (sortBy (fun a b => pairLe a.place b.place)
          (r.violations.filter fun v => v.code == code)).map Violation.cells := by
  have place := pairLe_comparison.on Violation.place
  rw [← map_sortBy_eq_map_sortBy_iff place Violation.code fst_le_of_pairLe Violation.cells Prod.fst
    (fun _ => rfl), orderedViolations, violationRows, ← List.forall₂_eq_eq_eq]
  simp only [List.forall₂_map_left_iff, List.forall₂_map_right_iff, showsViolation_iff]

/-- **The rows are in canonical order exactly when there is one and those that they do not tell apart were
found in it.** -/
theorem shownInOrder_iff_tiesInOrder (r : Report) : r.ShownInOrder ↔ r.RefsWritable ∧ r.TiesInOrder := by
  constructor
  · rintro ⟨tree, normal, ⟨os, isOutcomes, outcomes⟩, vs, isViolations, violations⟩
    obtain ⟨writable, rfl⟩ := r.gives_normalize.eq_ok_iff.mp normal
    rw [(has_outcomes_iff r os).mp isOutcomes, forall₂_showsOutcome_iff] at outcomes
    rw [(has_violations_iff r vs).mp isViolations, forall₂_showsViolation_iff] at violations
    exact ⟨writable, outcomes, violations⟩
  · rintro ⟨writable, outcomes, violations⟩
    exact ⟨r.tree, r.gives_normalize.ok writable,
      ⟨_, (has_outcomes_iff r _).mpr rfl, (forall₂_showsOutcome_iff r).mpr outcomes⟩,
      _, (has_violations_iff r _).mpr rfl, (forall₂_showsViolation_iff r).mpr violations⟩

/-! ## Reports on documents -/

/-- What looks the same looks the same in any order. -/
theorem map_eq_map_of_perm {α β : Type} {f : α → β} {l l' : List α} (perm : l'.Perm l)
    (alike : ∀ a ∈ l, ∀ b ∈ l, f a = f b) : l.map f = l'.map f := by
  cases l with
  | nil => rw [perm.eq_nil]
  | cons a l =>
      have left : ∀ x ∈ (a :: l).map f, x = f a := by
        intro x hx
        obtain ⟨b, hb, rfl⟩ := List.mem_map.mp hx
        exact alike b hb a List.mem_cons_self
      have right : ∀ x ∈ l'.map f, x = f a := fun x hx => left x ((perm.map f).mem_iff.mp hx)
      rw [List.eq_replicate_of_mem left, List.eq_replicate_of_mem right, List.length_map,
        List.length_map, perm.length_eq]

/-- Nothing can be out of order where the rule of an outcome settles its cells, and the code of a
violation its message. -/
theorem TiesInOrder.of_alike {r : Report}
    (outcomes : ∀ a ∈ r.outcomes, ∀ b ∈ r.outcomes, a.validation = b.validation → a.cells = b.cells)
    (violations : ∀ a ∈ r.violations, ∀ b ∈ r.violations, a.code = b.code → a.message = b.message) :
    r.TiesInOrder where
  outcomes rule := by
    refine map_eq_map_of_perm (sortBy_perm _) fun a ha b hb => ?_
    obtain ⟨hereA, ruleA⟩ := List.mem_filter.mp ha
    obtain ⟨hereB, ruleB⟩ := List.mem_filter.mp hb
    exact outcomes a hereA b hereB ((eq_of_beq ruleA).trans (eq_of_beq ruleB).symm)
  violations code := by
    refine map_eq_map_of_perm (sortBy_perm _) fun a ha b hb => ?_
    obtain ⟨hereA, codeA⟩ := List.mem_filter.mp ha
    obtain ⟨hereB, codeB⟩ := List.mem_filter.mp hb
    have code : a.code = b.code := (eq_of_beq codeA).trans (eq_of_beq codeB).symm
    exact Prod.ext code (violations a hereA b hereB code)

/-- The report on a specification has one outcome for each rule and one message for each code. -/
theorem exists_report_tiesInOrder (spec : Document.Spec) : ∃ r, validate spec = .ok r ∧ r.TiesInOrder := by
  by_cases supported : spec.version ∈ supportedVersions
  · obtain ⟨fs, r, -, answers, validated, outcomes, violations, -⟩ := validate_supported spec supported
    refine ⟨r, validated, .of_alike ?_ ?_⟩
    · have distinct : (r.outcomes.map Outcome.validation).Nodup := by
        rw [outcomes, List.map_map]
        exact answers.names ▸ by decide
      intro a ha b hb rule
      rw [List.inj_on_of_nodup_map distinct ha hb rule]
    · rw [violations]
      intro a ha b hb code
      exact (answers.shownAlike a ha b hb code).message
  · refine ⟨_, validate_of_unsupported supported, .of_alike (List.forall_mem_nil _) ?_⟩
    simp [unsupportedReport]

/-- **A summary has the canonical order exactly as far as the order in which the entries were found has
it.**  Row by row, it shows what stands in the canonical tree if and only if there is such a tree and the
outcomes of each rule, and the violations of each code, show the same as found as they do in canonical order.
The report on any document is such a report. -/
theorem shownInOrder_iff (r : Report) (text : String) :
    (r.ShownInOrder ↔ r.RefsWritable ∧ r.TiesInOrder) ∧
      ∃ r', validateText text = .ok r' ∧ r'.ShownInOrder := by
  refine ⟨shownInOrder_iff_tiesInOrder r, ?_⟩
  obtain ⟨r', validated, ties⟩ := exists_report_tiesInOrder (Document.Spec.parse text)
  have writable := writable_of_validate validated
  exact ⟨r', validated, (shownInOrder_iff_tiesInOrder r').mpr ⟨writable.refs, ties⟩⟩

/-- A report with two outcomes of one rule and two violations of one code, the later ones first. -/
def backwardReport : Report where
  specVersion := "DIL:spec v0"
  systemId := "S"
  verdict := .invalid
  outcomes := [{ validation := "V", status := .satisfied, targets := ["b"] },
    { validation := "V", status := .satisfied, targets := ["a"] }]
  violations := [{ code := "E", message := "m", refs := [("at", .text "2")] },
    { code := "E", message := "l", refs := [("at", .text "1")] }]

/-- Its summary has neither its outcomes nor its violations in canonical order. -/
theorem not_shownInOrder_backwardReport : ¬ backwardReport.ShownInOrder := by
  rw [shownInOrder_iff_tiesInOrder]
  rintro ⟨-, ties⟩
  exact absurd (ties.outcomes "V") (by decide +kernel)

end Report

end IntentSpec
