import IntentSpec.Proofs.Rule.Fault
import IntentSpec.Proofs.Sorting
import IntentSpec.Rule.Validate
import Mathlib.Data.List.Forall2

/-!
# What the mandatory rules find

Each rule is opened once, in a lemma that gives its outcome and its violations.  No rule can be
rejected by the checks on outcomes and violations: rules and violations bear fixed names, and a
reason is given by the one rule that can be undecided (`accept_of_sound`).

The violations of a rule are compared with the faults of the specification one by one and in order
(`Charges`), and not as sets.  So a fault that is reported twice, or that is missing while another one
is reported in its place, would not go unnoticed.  A rule goes through declarations, and the faults are
defined by going through the same declarations, which makes each comparison an induction over the table.

`Answers` collects what the five findings say together, in terms of the faults of the
specification, and `findings_answer` says that the rules always answer so.  What comes after it, the
verdict and the report, is derived from `Answers` and opens no rule.
-/

namespace IntentSpec.Rule

open Document Report

/-! ## The checks on outcomes and violations -/

/-- The codes of the violations that the rules report. -/
def codes : List String :=
  [intentNotVerifiable, untracedDecision, brokenReference, implementationLeak]

theorem not_blank_of_mem_names : ∀ name ∈ all.map (·.1), Text.isBlankText name = false := by
  decide

theorem not_blank_of_mem_codes : ∀ code ∈ codes, Text.isBlankText code = false := by
  decide

theorem Charges.code_mem {spec : Spec} {fault : Fault} {v : Violation}
    (charges : Charges spec fault v) : v.code ∈ codes := by
  cases charges <;>
    simp [codes, intentNotVerifiable, untracedDecision, brokenReference, implementationLeak]

/-- A finding passes the checks when it bears the name of a rule, its violations bear codes, and it
gives a reason exactly when it is undecided. -/
theorem accept_of_sound {o : Outcome} {vs : List Violation} (named : o.validation ∈ all.map (·.1))
    (reasoned : o.status = .unknown ↔ given o.reason = true) (coded : ∀ v ∈ vs, v.code ∈ codes) :
    accept o vs = .ok ⟨o, vs⟩ := by
  -- Only the code of a violation is checked, and no code of the rules is blank.
  have violations : vs.mapM Violation.accept = .ok vs := by
    induction vs with
    | nil => rfl
    | cons v vs ih =>
        have first : v.accept = .ok v := by
          simp [Violation.accept, not_blank_of_mem_codes v.code (coded v (by simp))]
        have rest := ih fun w hw => coded w (List.mem_cons_of_mem v hw)
        rw [List.mapM_cons, first, rest]
        rfl
  have outcome : o.accept = .ok o := by
    unfold Outcome.accept
    rw [not_blank_of_mem_names o.validation named]
    by_cases h : o.status = .unknown
    · simp [h, reasoned.mp h]
    · have missing : given o.reason = false := by
        simpa using fun g => h (reasoned.mpr g)
      simp [h, missing]
  unfold accept
  rw [violations, outcome]
  rfl

/-- What one rule answers: it bears its name, adds given violations, is violated exactly when it
adds some, and is undecided under a given condition. -/
structure Answer (name : String) (violations : List Violation) (undecided : Prop) (f : Finding) :
    Prop where
  named : f.outcome.validation = name
  /-- The violations that the rule adds to the report. -/
  adds : f.violations = violations
  /-- A rule is violated exactly when it adds violations. -/
  violated : f.violations ≠ [] ↔ f.outcome.status = .unsatisfied
  undecided : f.outcome.status = .unknown ↔ undecided

/-! ## Intents -/

theorem unassociated_eq (spec : Spec) :
    unassociated spec = spec.intents.entries.filter fun i => ¬ Associated spec i.id := by
  refine List.filter_congr fun i _ => ?_
  rw [Bool.eq_iff_iff]
  simp [← explicit_or_implied_iff]

theorem intentVerifiability_answer (spec : Spec) :
    ∃ f, intentVerifiability spec = .ok f ∧
      Answer "V-M1" ((unassociated spec).map notVerifiable) False f ∧
      (f.outcome.status = .unsatisfied →
        f.outcome.targets = (unassociated spec).map fun i => reference "intents" i.id) := by
  unfold intentVerifiability
  cases missing : unassociated spec with
  | nil =>
      refine ⟨_, accept_of_sound (by simp [all]) (by simp [given]) (by simp), ?_, by simp⟩
      constructor <;> simp
  | cons i rest =>
      refine ⟨_, accept_of_sound (by simp [all]) (by simp [given]) fun v hv => ?_, ?_, fun _ => rfl⟩
      · obtain ⟨j, -, rfl⟩ := List.mem_map.mp hv
        simp [notVerifiable, codes]
      · constructor <;> simp

/-! ## Constraints -/

theorem constraintIntegrity_answer (spec : Spec) :
    ∃ f, constraintIntegrity spec = .ok f ∧ Answer "V-M2" [] False f := by
  unfold constraintIntegrity
  refine ⟨_, accept_of_sound (by simp [all]) (by simp [given]) (by simp), ?_⟩
  constructor <;> simp

/-! ## Decisions -/

/-- The first identifier that is not declared is the head of those that are not. -/
theorem firstUndeclared_headD (ids declared : List String) (placeholder : String) :
    FirstUndeclared ids declared placeholder
      ((ids.filter fun id => !declared.contains id).headD placeholder) := by
  induction ids with
  | nil => exact Or.inr ⟨by simp, rfl⟩
  | cons id ids ih =>
      by_cases known : id ∈ declared
      · have skip : ((id :: ids).filter fun x => !declared.contains x) =
            ids.filter fun x => !declared.contains x := by
          simp [known]
        rw [skip]
        rcases ih with ⟨before, after, split, declaredBefore, undeclared⟩ | ⟨allDeclared, same⟩
        · refine Or.inl ⟨id :: before, after, by rw [List.cons_append, ← split], ?_, undeclared⟩
          exact List.forall_mem_cons.mpr ⟨known, declaredBefore⟩
        · exact Or.inr ⟨List.forall_mem_cons.mpr ⟨known, allDeclared⟩, same⟩
      · have first : ((id :: ids).filter fun x => !declared.contains x).headD placeholder = id := by
          simp [known]
        rw [first]
        exact Or.inl ⟨[], ids, rfl, by simp, known⟩

theorem brokenIntents_eq_nil_iff (spec : Spec) (d : Decision) :
    brokenIntents spec d = [] ↔ ∀ id ∈ d.supports, id ∈ spec.intents.names := by
  simp [brokenIntents, Table.contains]

theorem brokenConstraints_eq_nil_iff (spec : Spec) (d : Decision) :
    brokenConstraints spec d = [] ↔ ∀ id ∈ d.respects, id ∈ spec.constraints.names := by
  simp [brokenConstraints, Table.contains]

theorem broken_iff (spec : Spec) (d : Decision) :
    Broken spec d ↔ ¬ (brokenIntents spec d = [] ∧ brokenConstraints spec d = []) := by
  rw [brokenIntents_eq_nil_iff, brokenConstraints_eq_nil_iff]
  simp only [Broken, not_and_or, not_forall, exists_prop]

/-- A decision has a violation exactly when it is untraceable, and the violation reports it. -/
theorem decisionViolation?_cases (spec : Spec) (d : Decision) :
    (¬ Untraceable spec d ∧ decisionViolation? spec d = none) ∨
      (Untraceable spec d ∧ ∃ v, decisionViolation? spec d = some v ∧
        Charges spec (.decision d) v) := by
  by_cases nothing : d.supports = []
  · refine Or.inr ⟨Or.inl nothing, _, ?_, .untraced d nothing⟩
    simp only [decisionViolation?, List.isEmpty_iff, nothing, if_true]
    rfl
  · by_cases whole : brokenIntents spec d = [] ∧ brokenConstraints spec d = []
    · refine Or.inl ⟨fun untraceable => ?_, by simp [decisionViolation?, nothing, whole]⟩
      rcases untraceable with empty | broken
      · exact nothing empty
      · exact (broken_iff spec d).mp broken whole
    · refine Or.inr ⟨Or.inr ((broken_iff spec d).mpr whole), _, ?_,
        .broken d ((brokenIntents spec d).headD "I_DO_NOT_EXIST")
          ((brokenConstraints spec d).headD "C_DO_NOT_EXIST") nothing
          (firstUndeclared_headD _ _ _) (firstUndeclared_headD _ _ _)⟩
      unfold decisionViolation?
      simp only [List.isEmpty_iff, nothing, if_false]
      split
      next hi hc => exact absurd ⟨hi, hc⟩ whole
      next => rfl

theorem charges_of_decisionViolation? {spec : Spec} {d : Decision} {v : Violation}
    (h : decisionViolation? spec d = some v) : Charges spec (.decision d) v := by
  rcases decisionViolation?_cases spec d with ⟨-, none⟩ | ⟨-, w, some, charges⟩
  · rw [none] at h
    cases h
  · rw [some] at h
    cases h
    exact charges

theorem failingDecisions_eq (spec : Spec) :
    failingDecisions spec = spec.decisions.entries.filter fun d => Untraceable spec d := by
  refine List.filter_congr fun d _ => ?_
  rw [Bool.eq_iff_iff, decide_eq_true_iff]
  rcases decisionViolation?_cases spec d with ⟨traceable, none⟩ | ⟨untraceable, v, some, -⟩
  · simp [none, traceable]
  · simp [some, untraceable]

/-- The violations of untraceable decisions report them one by one. -/
theorem forall₂_decisionViolation? (spec : Spec) {ds : List Decision}
    (untraceable : ∀ d ∈ ds, Untraceable spec d) :
    List.Forall₂ (fun d v => Charges spec (.decision d) v) ds
      (ds.filterMap (decisionViolation? spec)) := by
  induction ds with
  | nil => exact List.Forall₂.nil
  | cons d ds ih =>
      have rest := ih fun e he => untraceable e (List.mem_cons_of_mem d he)
      rcases decisionViolation?_cases spec d with ⟨traceable, -⟩ | ⟨-, v, some, charges⟩
      · exact absurd (untraceable d (by simp)) traceable
      · rw [List.filterMap_cons_some some]
        exact List.Forall₂.cons charges rest

theorem failingDecisions_forall₂ (spec : Spec) :
    List.Forall₂ (fun d v => Charges spec (.decision d) v) (failingDecisions spec)
      ((failingDecisions spec).filterMap (decisionViolation? spec)) := by
  refine forall₂_decisionViolation? spec fun d hd => ?_
  rw [failingDecisions_eq] at hd
  simpa using (List.mem_filter.mp hd).2

theorem failingDecisions_violations_eq_nil_iff (spec : Spec) :
    (failingDecisions spec).filterMap (decisionViolation? spec) = [] ↔
      failingDecisions spec = [] := by
  rw [← List.length_eq_zero_iff, ← (failingDecisions_forall₂ spec).length_eq,
    List.length_eq_zero_iff]

theorem decisionTraceability_answer (spec : Spec) :
    ∃ f, decisionTraceability spec = .ok f ∧
      Answer "V-M3" ((failingDecisions spec).filterMap (decisionViolation? spec)) False f ∧
      (f.outcome.status = .unsatisfied →
        f.outcome.targets =
          sortTexts ((failingDecisions spec).map fun d => reference "decisions" d.id)) := by
  have some := failingDecisions_violations_eq_nil_iff spec
  unfold decisionTraceability
  cases failing : failingDecisions spec with
  | nil =>
      refine ⟨_, accept_of_sound (by simp [all]) (by simp [given]) (by simp), ?_, by simp⟩
      constructor <;> simp
  | cons d rest =>
      rw [failing] at some
      refine ⟨_, accept_of_sound (by simp [all]) (by simp [given]) fun v hv => ?_, ?_, fun _ => rfl⟩
      · obtain ⟨e, -, he⟩ := List.mem_filterMap.mp hv
        exact (charges_of_decisionViolation? he).code_mem
      · exact ⟨rfl, rfl, iff_of_true (by simp [some]) rfl, by simp⟩

/-! ## Validations -/

theorem uncovered_eq_nil_iff (spec : Spec) : uncovered spec = [] ↔ ¬ Undecided spec := by
  rw [uncovered, List.filterMap_eq_nil_iff]
  simp only [Undecided, not_exists, not_and, not_not]
  refine forall₂_congr fun v _ => ?_
  cases required : requirement? v with
  | none =>
      refine iff_of_true rfl fun capability given nonempty => ?_
      have some := (requirement?_eq_some_iff v capability).mpr ⟨given, nonempty⟩
      rw [required] at some
      cases some
  | some capability =>
      obtain ⟨given, nonempty⟩ := (requirement?_eq_some_iff v capability).mp required
      constructor
      · intro covered other h _
        obtain rfl : other = capability := Option.mem_unique h given
        by_contra missing
        simp [missing] at covered
      · intro covered
        simp [covered capability given nonempty]

theorem capabilityCoverage_answer (spec : Spec) :
    ∃ f, capabilityCoverage spec = .ok f ∧ Answer "V-M4" [] (Undecided spec) f := by
  have covered := uncovered_eq_nil_iff spec
  unfold capabilityCoverage
  cases missing : uncovered spec with
  | nil =>
      refine ⟨_, accept_of_sound (by simp [all]) (by simp [given]) (by simp), ?_⟩
      rw [missing] at covered
      constructor <;> simp_all
  | cons first rest =>
      refine ⟨_, accept_of_sound (by simp [all]) (by simp [given]) (by simp), ?_⟩
      rw [missing] at covered
      constructor <;> simp_all

/-! ## The text -/

theorem implementationLeakage_answer (spec : Spec) :
    ∃ f, implementationLeakage spec = .ok f ∧
      Answer "V-M5" (if Leak.found spec.text = true then [leakViolation] else []) False f := by
  unfold implementationLeakage
  cases leaks : Leak.found spec.text with
  | false =>
      refine ⟨_, accept_of_sound (by simp [all]) (by simp [given]) (by simp), ?_⟩
      constructor <;> simp
  | true =>
      refine ⟨_, accept_of_sound (by simp [all]) (by simp [given]) ?_, ?_⟩
      · simp [leakViolation, codes]
      · constructor <;> simp

/-! ## All rules together -/

/-- The text that stands under a key in what a violation refers to. -/
def referenceText? (key : String) (v : Violation) : Option String :=
  match v.refs.find? (·.1 == key) with
  | some (_, .text shown) => some shown
  | _ => none

theorem Charges.referenceText?_decision {spec : Spec} {d : Decision} {v : Violation}
    (charges : Charges spec (.decision d) v) :
    referenceText? "decision" v = some (reference "decisions" d.id) := by
  cases charges <;> rfl

/-- What the findings of the rules say together. It is all that the verdict and the report are
derived from, so no rule is opened behind it. -/
structure Answers (spec : Spec) (fs : List Finding) : Prop where
  names : fs.map (·.outcome.validation) = ["V-M1", "V-M2", "V-M3", "V-M4", "V-M5"]
  /-- Every fault is reported once, and nothing else is. -/
  charges : List.Forall₂ (Charges spec) (faults spec) (fs.flatMap (·.violations))
  /-- The rules with violations are the rules that are violated. -/
  contributes : ∀ f ∈ fs, f.violations ≠ [] ↔ f.outcome.status = .unsatisfied
  /-- A rule is undecided when a required capability is not declared. -/
  undecided : (∃ f ∈ fs, f.outcome.status = .unknown) ↔ Undecided spec
  /-- The intents that V-M1 objects to are those that its violations name. -/
  intents : ∀ f ∈ fs, f.outcome.validation = "V-M1" → f.outcome.status = .unsatisfied →
    (f.violations.map (referenceText? "intent")).Perm (f.outcome.targets.map some)
  /-- The decisions that V-M3 objects to are those that its violations name. -/
  decisions : ∀ f ∈ fs, f.outcome.validation = "V-M3" → f.outcome.status = .unsatisfied →
    (f.violations.map (referenceText? "decision")).Perm (f.outcome.targets.map some)

/-- The violations of the five rules, one after another, report the faults one after another. -/
theorem forall₂_charges (spec : Spec) :
    List.Forall₂ (Charges spec) (faults spec)
      ((unassociated spec).map notVerifiable ++
        ((failingDecisions spec).filterMap (decisionViolation? spec) ++
          if Leak.found spec.text = true then [leakViolation] else [])) := by
  refine List.rel_append ?_ (List.rel_append ?_ ?_)
  · rw [← unassociated_eq, List.forall₂_map_left_iff, List.forall₂_map_right_iff,
      List.forall₂_same]
    exact fun i _ => Charges.intent i
  · rw [← failingDecisions_eq, List.forall₂_map_left_iff]
    exact failingDecisions_forall₂ spec
  · split
    · exact List.Forall₂.cons .leak .nil
    · exact List.Forall₂.nil

theorem failingDecisions_references (spec : Spec) :
    ((failingDecisions spec).filterMap (decisionViolation? spec)).map (referenceText? "decision") =
      (failingDecisions spec).map fun d => some (reference "decisions" d.id) := by
  have named :=
    (failingDecisions_forall₂ spec).imp fun _ _ charges => charges.referenceText?_decision
  rw [← List.forall₂_eq_eq_eq, List.forall₂_map_left_iff, List.forall₂_map_right_iff]
  exact named.flip

/-- **The rules always answer**, and their answers report exactly what is at fault. No answer is
rejected by the checks that it has to pass. -/
theorem findings_answer (spec : Spec) : ∃ fs, findings spec = .ok fs ∧ Answers spec fs := by
  obtain ⟨f₁, ok₁, a₁, targets₁⟩ := intentVerifiability_answer spec
  obtain ⟨f₂, ok₂, a₂⟩ := constraintIntegrity_answer spec
  obtain ⟨f₃, ok₃, a₃, targets₃⟩ := decisionTraceability_answer spec
  obtain ⟨f₄, ok₄, a₄⟩ := capabilityCoverage_answer spec
  obtain ⟨f₅, ok₅, a₅⟩ := implementationLeakage_answer spec
  have found : findings spec = .ok [f₁, f₂, f₃, f₄, f₅] := by
    simp only [findings, all, List.mapM_cons, List.mapM_nil, ok₁, ok₂, ok₃, ok₄, ok₅]
    rfl
  have names : [f₁, f₂, f₃, f₄, f₅].map (·.outcome.validation) =
      ["V-M1", "V-M2", "V-M3", "V-M4", "V-M5"] := by
    simp [a₁.named, a₂.named, a₃.named, a₄.named, a₅.named]
  -- A finding is known by the name of its rule.
  have byName : ∀ f ∈ [f₁, f₂, f₃, f₄, f₅], ∀ g ∈ [f₁, f₂, f₃, f₄, f₅],
      f.outcome.validation = g.outcome.validation → f = g := by
    refine List.inj_on_of_nodup_map ?_
    rw [names]
    decide
  refine ⟨_, found, names, ?_, ?_, ?_, fun f hf named status => ?_, fun f hf named status => ?_⟩
  · simpa [a₁.adds, a₂.adds, a₃.adds, a₄.adds, a₅.adds] using forall₂_charges spec
  · simp only [List.forall_mem_cons]
    exact ⟨a₁.violated, a₂.violated, a₃.violated, a₄.violated, a₅.violated, by simp⟩
  · simp [a₁.undecided, a₂.undecided, a₃.undecided, a₄.undecided, a₅.undecided]
  · obtain rfl := byName f hf f₁ (by simp) (named.trans a₁.named.symm)
    rw [targets₁ status, a₁.adds, List.map_map, List.map_map]
    exact List.Perm.refl _
  · obtain rfl := byName f hf f₃ (by simp) (named.trans a₃.named.symm)
    rw [targets₃ status, a₃.adds, failingDecisions_references]
    have sorted := sortTexts_perm ((failingDecisions spec).map fun d => reference "decisions" d.id)
    simpa [Function.comp_def] using (sorted.map some).symm

end IntentSpec.Rule
