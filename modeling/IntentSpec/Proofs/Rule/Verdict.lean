import IntentSpec.Proofs.Rule.Finding

/-!
# The verdict on a specification

Validation always ends in a report.  Its verdict is decided by conditions on the artifact table
(`validate_verdict`), and its violations report exactly what is at fault (`validate_violations`).

Both statements rest on `validate_supported`, which reads the report of a specification of a
supported version off the answers of the rules.  A violated rule and a rule that adds violations
are the same thing, so the separate flag for a prescribed implementation decides nothing, and
leaving violations out of a valid report leaves nothing out.

The three verdicts are stated in the order in which they are decided: a violation anywhere outweighs a
capability that is missing, and only a specification with neither is valid.  An unsupported version is
decided before any rule is asked.  It makes the report invalid with a violation of its own, which is why
the account of the violations asks for a supported version, while that of the verdict does not.

* `validate_verdict` — when a report is invalid, undecidable or valid, and the exit code that goes with it.
* `validate_violations` — the violations report the faults one by one, and the outcomes name them.
-/

namespace IntentSpec

open Document Report Rule

/-- How the verdict is read off the outcomes of findings. -/
theorem verdictOf_cases (outcomes : List Outcome) (leaked : Bool)
    (violates : leaked = true → ∃ o ∈ outcomes, o.status = .unsatisfied) :
    (verdictOf outcomes leaked = .invalid ↔ ∃ o ∈ outcomes, o.status = .unsatisfied) ∧
      (verdictOf outcomes leaked = .undecidable ↔
        (¬ ∃ o ∈ outcomes, o.status = .unsatisfied) ∧ ∃ o ∈ outcomes, o.status = .unknown) := by
  have anyUnsatisfied : outcomes.any (·.status == .unsatisfied) = true ↔
      ∃ o ∈ outcomes, o.status = .unsatisfied := by
    simp
  have anyUnknown : outcomes.any (·.status == .unknown) = true ↔
      ∃ o ∈ outcomes, o.status = .unknown := by
    simp
  unfold verdictOf
  split
  next h =>
    have some : ∃ o ∈ outcomes, o.status = .unsatisfied := by
      rcases Bool.or_eq_true _ _ ▸ h with leak | some
      · exact violates leak
      · exact anyUnsatisfied.mp some
    simp [some]
  next h =>
    have none : ¬ ∃ o ∈ outcomes, o.status = .unsatisfied := by
      intro some
      exact h (Bool.or_eq_true _ _ ▸ Or.inr (anyUnsatisfied.mpr some))
    split
    next unknown => exact ⟨by simp [none], by simp [none, anyUnknown.mp unknown]⟩
    next known =>
      have none' : ¬ ∃ o ∈ outcomes, o.status = .unknown := fun h => known (anyUnknown.mpr h)
      exact ⟨by simp [none], by simp [none']⟩

/-- Some rule is violated exactly when something is at fault. -/
theorem Rule.Answers.unsatisfied_iff {spec : Spec} {fs : List Finding} (answers : Answers spec fs) :
    (∃ f ∈ fs, f.outcome.status = .unsatisfied) ↔ faults spec ≠ [] := by
  have lengths := answers.charges.length_eq
  have nothing : faults spec = [] ↔ fs.flatMap (·.violations) = [] := by
    rw [← List.length_eq_zero_iff, lengths, List.length_eq_zero_iff]
  -- Faults and violations correspond one to one, so it is enough to look for a violation.
  rw [ne_eq, nothing, List.flatMap_eq_nil_iff]
  constructor
  · rintro ⟨f, hf, status⟩ none
    exact (answers.contributes f hf).mpr status (none f hf)
  · intro some
    by_contra none
    refine some fun f hf => ?_
    by_contra adds
    exact none ⟨f, hf, (answers.contributes f hf).mp adds⟩

/-- A finding with a prescribed implementation belongs to a violated rule. -/
theorem Rule.Answers.unsatisfied_of_leaked {spec : Spec} {fs : List Finding}
    (answers : Answers spec fs) (leaked : fs.any Finding.leaked = true) :
    ∃ f ∈ fs, f.outcome.status = .unsatisfied := by
  obtain ⟨f, hf, leak⟩ := List.any_eq_true.mp leaked
  refine ⟨f, hf, (answers.contributes f hf).mp fun none => ?_⟩
  simp [Finding.leaked, none] at leak

/-- The report that the findings of the rules make. -/
def reportOf (spec : Spec) (fs : List Finding) : Report where
  specVersion := spec.version
  systemId := spec.system
  verdict := verdictOf (fs.map (·.outcome)) (fs.any Finding.leaked)
  outcomes := fs.map (·.outcome)
  violations :=
    if verdictOf (fs.map (·.outcome)) (fs.any Finding.leaked) = .valid then []
    else fs.flatMap (·.violations)

theorem validate_of_findings {spec : Spec} (supported : spec.version ∈ supportedVersions)
    {fs : List Finding} (found : findings spec = .ok fs) :
    validate spec = .ok (reportOf spec fs) := by
  have checked : (reportOf spec fs).accept = .ok (reportOf spec fs) := by
    rw [Report.accept, if_neg]
    rintro ⟨valid, some⟩
    simp [reportOf, show verdictOf _ _ = _ from valid] at some
  simp only [validate, List.contains_iff_mem, supported, if_true, found]
  exact checked

theorem Rule.Answers.verdict_iff {spec : Spec} {fs : List Finding} (answers : Answers spec fs) :
    ((reportOf spec fs).verdict = .invalid ↔ faults spec ≠ []) ∧
      ((reportOf spec fs).verdict = .undecidable ↔ faults spec = [] ∧ Undecided spec) := by
  have throughOutcomes : ∀ status : Status,
      (∃ o ∈ fs.map (·.outcome), o.status = status) ↔ ∃ f ∈ fs, f.outcome.status = status := by
    simp
  obtain ⟨invalid, undecidable⟩ :=
    verdictOf_cases (fs.map (·.outcome)) (fs.any Finding.leaked) fun leaked =>
      (throughOutcomes _).mpr (answers.unsatisfied_of_leaked leaked)
  rw [throughOutcomes, answers.unsatisfied_iff] at invalid
  rw [throughOutcomes, throughOutcomes, answers.unsatisfied_iff, answers.undecided, ne_eq, not_not]
    at undecidable
  exact ⟨invalid, undecidable⟩

/-- A valid report has no violations to leave out. -/
theorem Rule.Answers.violations_eq {spec : Spec} {fs : List Finding} (answers : Answers spec fs) :
    (reportOf spec fs).violations = fs.flatMap (·.violations) := by
  unfold reportOf
  dsimp only
  split
  next valid =>
    have nothing : faults spec = [] := by
      by_contra some
      have invalid := answers.verdict_iff.1.mpr some
      cases valid.symm.trans invalid
    have none := answers.charges
    rw [nothing, List.forall₂_nil_left_iff] at none
    exact none.symm
  next => rfl

/-- The report on a specification of a supported version, in terms of the answers of the rules. -/
theorem validate_supported (spec : Spec) (supported : spec.version ∈ supportedVersions) :
    ∃ fs r, findings spec = .ok fs ∧ Answers spec fs ∧ validate spec = .ok r ∧
      r.outcomes = fs.map (·.outcome) ∧ r.violations = fs.flatMap (·.violations) ∧
      (r.verdict = .invalid ↔ faults spec ≠ []) ∧
      (r.verdict = .undecidable ↔ faults spec = [] ∧ Undecided spec) := by
  obtain ⟨fs, found, answers⟩ := findings_answer spec
  exact ⟨fs, reportOf spec fs, found, answers, validate_of_findings supported found, rfl,
    answers.violations_eq, answers.verdict_iff⟩

/-- The report on a specification of an unsupported version. -/
def unsupportedReport (spec : Spec) : Report where
  specVersion := spec.version
  systemId := spec.system
  verdict := .invalid
  violations := [unsupportedVersion spec.version]

theorem validate_of_unsupported {spec : Spec} (unsupported : spec.version ∉ supportedVersions) :
    validate spec = .ok (unsupportedReport spec) := by
  have code : Text.isBlankText "UNSUPPORTED_SPEC_VERSION" = false := by
    decide
  have named :
      (unsupportedVersion spec.version).accept = .ok (unsupportedVersion spec.version) := by
    simp [Violation.accept, unsupportedVersion, code]
  simp only [validate, List.contains_iff_mem, unsupported, if_false, named]
  rfl

/-- A specification of an unsupported version gets an invalid report. -/
theorem validate_unsupported (spec : Spec) (unsupported : spec.version ∉ supportedVersions) :
    ∃ r, validate spec = .ok r ∧ r.verdict = .invalid :=
  ⟨_, validate_of_unsupported unsupported, rfl⟩

theorem exists_report (spec : Spec) : ∃ r, validate spec = .ok r := by
  by_cases supported : spec.version ∈ supportedVersions
  · obtain ⟨-, r, -, -, validated, -⟩ := validate_supported spec supported
    exact ⟨r, validated⟩
  · obtain ⟨r, validated, -⟩ := validate_unsupported spec supported
    exact ⟨r, validated⟩

/-- **Every specification gets a report, and its verdict is decided by the artifact table.**  It
is invalid when the version is not supported or some rule is violated; failing that, it is
undecidable when a required capability is not declared; otherwise it is valid. -/
theorem validate_verdict (spec : Spec) :
    ∃ r, validate spec = .ok r ∧
      (r.verdict = .invalid ∧ r.exitCode = 1 ↔
        spec.version ∉ supportedVersions ∨ Violated spec) ∧
      (r.verdict = .undecidable ∧ r.exitCode = 2 ↔
        ¬ (spec.version ∉ supportedVersions ∨ Violated spec) ∧ Undecided spec) ∧
      (r.verdict = .valid ∧ r.exitCode = 0 ↔
        ¬ (spec.version ∉ supportedVersions ∨ Violated spec) ∧ ¬ Undecided spec) := by
  by_cases supported : spec.version ∈ supportedVersions
  · obtain ⟨-, r, -, -, validated, -, -, invalid, undecidable⟩ := validate_supported spec supported
    rw [ne_eq, faults_eq_nil_iff, not_not] at invalid
    rw [faults_eq_nil_iff] at undecidable
    refine ⟨r, validated, ?_⟩
    cases verdict : r.verdict <;>
      simp_all [Report.exitCode, Verdict.exitCode]
  · obtain ⟨r, validated, verdict⟩ := validate_unsupported spec supported
    refine ⟨r, validated, ?_⟩
    simp [supported, verdict, Report.exitCode, Verdict.exitCode]

/-- **The violations of a report are exactly what is at fault.**  They report the faults one by
one and in order, they are those that the rules add, and each rule that adds some is violated and
names in its outcome what its violations name.  A report without violations is one that is not
invalid. -/
theorem validate_violations (spec : Spec) (supported : spec.version ∈ supportedVersions) :
    ∃ fs r, findings spec = .ok fs ∧ validate spec = .ok r ∧
      fs.map (·.outcome.validation) = ["V-M1", "V-M2", "V-M3", "V-M4", "V-M5"] ∧
      r.outcomes = fs.map (·.outcome) ∧ r.violations = fs.flatMap (·.violations) ∧
      (faults spec).Nodup ∧ List.Forall₂ (Charges spec) (faults spec) r.violations ∧
      (∀ f ∈ fs, f.violations ≠ [] ↔ f.outcome.status = .unsatisfied) ∧
      (∀ f ∈ fs, f.outcome.validation = "V-M1" → f.outcome.status = .unsatisfied →
        (f.violations.map (referenceText? "intent")).Perm (f.outcome.targets.map some)) ∧
      (∀ f ∈ fs, f.outcome.validation = "V-M3" → f.outcome.status = .unsatisfied →
        (f.violations.map (referenceText? "decision")).Perm (f.outcome.targets.map some)) ∧
      (r.violations = [] ↔ r.verdict ≠ .invalid) := by
  obtain ⟨fs, r, found, answers, validated, outcomes, violations, invalid, -⟩ :=
    validate_supported spec supported
  have charges : List.Forall₂ (Charges spec) (faults spec) r.violations := by
    rw [violations]
    exact answers.charges
  have none_iff : r.violations = [] ↔ r.verdict ≠ .invalid := by
    rw [ne_eq, invalid, not_ne_iff, ← List.length_eq_zero_iff, ← charges.length_eq,
      List.length_eq_zero_iff]
  exact ⟨fs, r, found, validated, answers.names, outcomes, violations, faults_nodup spec, charges,
    answers.contributes, answers.intents, answers.decisions, none_iff⟩

/-- One intent that nothing verifies, and one decision that supports it but respects a constraint
that is not declared. -/
def uncheckedSpec : Spec where
  text := ""
  version := "DIL:spec v0"
  intents := ⟨[⟨"I1"⟩], by simp⟩
  decisions := ⟨[{ id := "D1", supports := ["I1"], respects := ["C1"] }], by simp⟩

theorem validate_violations_uncheckedSpec :
    uncheckedSpec.version ∈ supportedVersions ∧
      ∃ r, validate uncheckedSpec = .ok r ∧ r.verdict = .invalid ∧
        List.Forall₂ (Charges uncheckedSpec)
          [.intent ⟨"I1"⟩, .decision { id := "D1", supports := ["I1"], respects := ["C1"] }]
          r.violations := by
  have supported : uncheckedSpec.version ∈ supportedVersions := by
    decide
  have atFault : faults uncheckedSpec =
      [.intent ⟨"I1"⟩, .decision { id := "D1", supports := ["I1"], respects := ["C1"] }] := by
    decide
  obtain ⟨fs, r, -, validated, -, -, -, -, charges, -, -, -, none_iff⟩ :=
    validate_violations uncheckedSpec supported
  rw [atFault] at charges
  refine ⟨supported, r, validated, ?_, charges⟩
  by_contra valid
  rw [none_iff.mpr valid] at charges
  cases charges

end IntentSpec
