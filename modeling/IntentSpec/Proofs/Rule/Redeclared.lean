import IntentSpec.Proofs.Report.Canonical
import IntentSpec.Proofs.Rule.Verdict

/-!
# Declarations in another order

The rules go through intents, constraints and decisions in the order of their declarations, and what
they find comes in that order.  Nothing that is shown depends on it: targets and violations are sorted
when a report is written, the notes that name artifacts name one at most or sort them first, and no two
violations that differ have one sort key.

The violations that the rules find refer to artifacts by their names, and to nothing else.  So a report on a
specification can always be written (`writable_of_validate`), whatever the specification says.

* `Redeclared` — specifications with the same artifacts, declared in another order.
* `Finding.Rearranged` — what the rules answer to two such specifications.
* `canonicalText_of_redeclared` — their reports are written alike.
-/

namespace IntentSpec

open Document Report Rule

/-- The second specification has the intents, the constraints and the decisions of the first, perhaps
in another order, and agrees with it in all else that the rules look at. -/
structure Redeclared (spec spec' : Spec) : Prop where
  text : spec'.text = spec.text
  /-- The version lines are the same. -/
  version : spec'.version = spec.version
  system : spec'.system = spec.system
  sections : spec'.sections = spec.sections
  capabilities : spec'.capabilities = spec.capabilities
  validations : spec'.validations = spec.validations
  intents : spec.intents.entries.Perm spec'.intents.entries
  constraints : spec.constraints.entries.Perm spec'.constraints.entries
  decisions : spec.decisions.entries.Perm spec'.decisions.entries

/-- The second finding has the targets and the violations of the first in another order. -/
structure Finding.Rearranged (f f' : Finding) : Prop where
  /-- The outcomes differ in the order of their targets. -/
  outcome : f.outcome.Rearranged f'.outcome
  violations : f.violations.Perm f'.violations

theorem Finding.Rearranged.refl (f : Finding) : f.Rearranged f :=
  ⟨Outcome.Rearranged.refl _, List.Perm.refl _⟩

/-- Outcomes and violations that differ in their order only make findings that do. -/
theorem accept_rearranged {o : Outcome} {targets : List String} {vs vs' : List Violation}
    (named : o.validation ∈ Rule.all.map (·.1)) (reasoned : o.status = .unknown ↔ given o.reason = true)
    (coded : ∀ v ∈ vs, v.code ∈ codes) (permTargets : o.targets.Perm targets)
    (permViolations : vs.Perm vs') :
    ∃ f f', accept o vs = .ok f ∧ accept { o with targets } vs' = .ok f' ∧ f.Rearranged f' :=
  ⟨_, _, accept_of_sound named reasoned coded,
    accept_of_sound named reasoned fun v here => coded v (permViolations.mem_iff.mpr here),
    ⟨targets, permTargets, rfl⟩, permViolations⟩

/-- A permuted list is the list itself, unless both lists have at least two items. -/
theorem eq_or_two_of_perm {α : Type} {l l' : List α} (perm : l.Perm l') :
    l' = l ∨ (∃ a b rest, l = a :: b :: rest) ∧ ∃ a b rest, l' = a :: b :: rest := by
  match l, l' with
  | [], l' => exact .inl perm.nil_eq.symm
  | [a], l' => exact .inl (List.singleton_perm.mp perm).symm
  | a :: b :: rest, a' :: b' :: rest' => exact .inr ⟨⟨a, b, rest, rfl⟩, a', b', rest', rfl⟩
  | _ :: _ :: _, [] => exact absurd perm.length_eq (by simp)
  | _ :: _ :: _, [_] => exact absurd perm.length_eq (by simp)

namespace Redeclared

variable {spec spec' : Spec} (same : Redeclared spec spec')

include same

/-! ## What the rules look at -/

theorem contains_intents (id : String) : spec'.intents.contains id = spec.intents.contains id := by
  have names : spec'.intents.names.Perm spec.intents.names := (same.intents.map _).symm
  exact names.contains_eq

theorem contains_constraints (id : String) :
    spec'.constraints.contains id = spec.constraints.contains id := by
  have names : spec'.constraints.names.Perm spec.constraints.names := (same.constraints.map _).symm
  exact names.contains_eq

theorem explicit_eq (id : String) : explicit spec' id = explicit spec id := by
  unfold explicit Spec.sectionText
  rw [same.sections]

theorem capabilityValidation?_eq : capabilityValidation? spec' = capabilityValidation? spec := by
  unfold capabilityValidation?
  rw [same.validations]

theorem supported_eq (id : String) : supported spec' id = supported spec id :=
  same.decisions.symm.any_eq

theorem implied_eq (id : String) : implied spec' id = implied spec id := by
  unfold implied
  rw [same.capabilityValidation?_eq, same.supported_eq]

theorem unassociated_perm : (unassociated spec).Perm (unassociated spec') := by
  unfold unassociated
  simp only [same.explicit_eq, same.implied_eq]
  exact same.intents.filter _

theorem associationNote_eq : associationNote spec' = associationNote spec := by
  unfold associationNote
  rw [same.capabilityValidation?_eq]
  rcases eq_or_two_of_perm same.intents with equal | ⟨⟨a, b, rest, some⟩, a', b', rest', some'⟩
  · rw [equal]
    simp only [same.supported_eq]
  · rw [some, some']

theorem decisionViolation?_eq (d : Decision) :
    decisionViolation? spec' d = decisionViolation? spec d := by
  unfold decisionViolation? brokenIntents brokenConstraints
  simp only [same.contains_intents, same.contains_constraints]

theorem failingDecisions_perm : (failingDecisions spec).Perm (failingDecisions spec') := by
  unfold failingDecisions
  simp only [same.decisionViolation?_eq]
  exact same.decisions.filter _

/-! ## The rules -/

theorem intentVerifiability_rearranged : ∃ f f', intentVerifiability spec = .ok f ∧
    intentVerifiability spec' = .ok f' ∧ f.Rearranged f' := by
  have coded : ∀ (missing : List Intent), ∀ v ∈ missing.map notVerifiable, v.code ∈ codes := by
    intro missing v here
    obtain ⟨i, -, rfl⟩ := List.mem_map.mp here
    simp [notVerifiable, codes]
  have perm := same.unassociated_perm
  unfold intentVerifiability
  cases missing : unassociated spec with
  | nil =>
      rw [missing] at perm
      rw [← perm.nil_eq, same.associationNote_eq]
      exact accept_rearranged (by simp [all]) (by simp [given]) (by simp) (same.intents.map _)
        (.refl _)
  | cons i rest =>
      cases missing' : unassociated spec' with
      | nil =>
          rw [missing, missing'] at perm
          exact absurd perm.length_eq (by simp)
      | cons i' rest' =>
          rw [missing, missing'] at perm
          have targets := perm.map fun i => reference "intents" i.id
          exact accept_rearranged (by simp [all]) (by simp [given]) (coded _) targets (perm.map _)

theorem constraintIntegrity_eq : constraintIntegrity spec' = constraintIntegrity spec := by
  unfold constraintIntegrity
  rw [sortTexts_eq_of_perm (same.constraints.map fun c => reference "constraints" c.id)]

theorem decisionTraceability_rearranged : ∃ f f', decisionTraceability spec = .ok f ∧
    decisionTraceability spec' = .ok f' ∧ f.Rearranged f' := by
  have coded : ∀ (failing : List Decision), ∀ v ∈ failing.filterMap (decisionViolation? spec),
      v.code ∈ codes := by
    intro failing v here
    obtain ⟨d, -, charged⟩ := List.mem_filterMap.mp here
    exact (charges_of_decisionViolation? charged).code_mem
  have perm := same.failingDecisions_perm
  have violation : decisionViolation? spec' = decisionViolation? spec :=
    funext same.decisionViolation?_eq
  unfold decisionTraceability
  cases failing : failingDecisions spec with
  | nil =>
      rw [failing] at perm
      rw [← perm.nil_eq]
      -- one decision is named in the note, and with two or more the note is a fixed text
      rcases eq_or_two_of_perm same.decisions with equal | ⟨⟨a, b, rest, some⟩, a', b', rest', some'⟩
      · rw [equal]
        exact accept_rearranged (by simp [all]) (by simp [given]) (by simp) (.refl _) (.refl _)
      · have targets := same.decisions.map fun d => reference "decisions" d.id
        rw [some, some'] at targets ⊢
        exact accept_rearranged (by simp [all]) (by simp [given]) (by simp) targets (.refl _)
  | cons d rest =>
      cases failing' : failingDecisions spec' with
      | nil =>
          rw [failing, failing'] at perm
          exact absurd perm.length_eq (by simp)
      | cons d' rest' =>
          rw [failing, failing'] at perm
          have targets := sortTexts_eq_of_perm (perm.map fun d => reference "decisions" d.id)
          rw [violation]
          exact accept_rearranged (by simp [all]) (by simp [given]) (coded _) (.of_eq targets)
            (perm.filterMap _)

theorem capabilityCoverage_eq : capabilityCoverage spec' = capabilityCoverage spec := by
  unfold capabilityCoverage uncovered
  rw [same.validations, same.capabilities]

theorem implementationLeakage_eq : implementationLeakage spec' = implementationLeakage spec := by
  unfold implementationLeakage
  rw [same.text]

/-- **Every rule answers alike.** Of two specifications that differ in the order of declarations,
the findings differ in the order of their targets and of their violations. -/
theorem rule_rearranged : ∀ rule ∈ Rule.all, ∃ f f', rule.2 spec = .ok f ∧ rule.2 spec' = .ok f' ∧
    f.Rearranged f' := by
  have answered : ∀ {rule : Spec → Except Rejection Finding}, rule spec' = rule spec →
      (∃ f, rule spec = .ok f) → ∃ f f', rule spec = .ok f ∧ rule spec' = .ok f' ∧
        f.Rearranged f' := by
    rintro rule equal ⟨f, answer⟩
    exact ⟨f, f, answer, equal.trans answer, .refl f⟩
  simp only [Rule.all, List.forall_mem_cons]
  refine ⟨same.intentVerifiability_rearranged, answered same.constraintIntegrity_eq ?_,
    same.decisionTraceability_rearranged, answered same.capabilityCoverage_eq ?_,
    answered same.implementationLeakage_eq ?_, List.forall_mem_nil _⟩
  · exact (constraintIntegrity_answer spec).imp fun _ => And.left
  · exact (capabilityCoverage_answer spec).imp fun _ => And.left
  · exact (implementationLeakage_answer spec).imp fun _ => And.left

theorem findings_rearranged : ∃ fs fs', findings spec = .ok fs ∧ findings spec' = .ok fs' ∧
    List.Forall₂ Finding.Rearranged fs fs' := by
  have alike := same.rule_rearranged
  show ∃ fs fs', Rule.all.mapM (fun rule => rule.2 spec) = .ok fs ∧
    Rule.all.mapM (fun rule => rule.2 spec') = .ok fs' ∧ List.Forall₂ Finding.Rearranged fs fs'
  revert alike
  generalize Rule.all = rules
  intro alike
  induction rules with
  | nil => exact ⟨[], [], rfl, rfl, .nil⟩
  | cons rule rules ih =>
      obtain ⟨⟨f, f', answer, answer', first⟩, alike⟩ := List.forall_mem_cons.mp alike
      obtain ⟨fs, fs', answers, answers', others⟩ := ih alike
      refine ⟨f :: fs, f' :: fs', ?_, ?_, .cons first others⟩
      · rw [List.mapM_cons, answer, answers]
        rfl
      · rw [List.mapM_cons, answer', answers']
        rfl

end Redeclared

/-! ## The report -/

section Findings

variable {fs fs' : List Finding} (rearranged : List.Forall₂ Finding.Rearranged fs fs')

include rearranged

theorem outcomes_rearranged :
    List.Forall₂ Outcome.Rearranged (fs.map (·.outcome)) (fs'.map (·.outcome)) := by
  rw [List.forall₂_map_left_iff, List.forall₂_map_right_iff]
  exact rearranged.imp fun _ _ => Finding.Rearranged.outcome

theorem violations_perm : (fs.flatMap (·.violations)).Perm (fs'.flatMap (·.violations)) := by
  induction rearranged with
  | nil => exact .refl _
  | cons first _ ih => exact first.violations.append ih

theorem any_rearranged {p : Finding → Bool} (unseen : ∀ f f', f.Rearranged f' → p f' = p f) :
    fs'.any p = fs.any p := by
  induction rearranged with
  | nil => rfl
  | cons first _ ih => rw [List.any_cons, List.any_cons, unseen _ _ first, ih]

theorem verdictOf_rearranged :
    verdictOf (fs'.map (·.outcome)) (fs'.any Finding.leaked) =
      verdictOf (fs.map (·.outcome)) (fs.any Finding.leaked) := by
  have leaked : fs'.any Finding.leaked = fs.any Finding.leaked :=
    any_rearranged rearranged fun _ _ related => related.violations.symm.any_eq
  have statuses : ∀ status, (fs'.map (·.outcome)).any (·.status == status) =
      (fs.map (·.outcome)).any (·.status == status) := by
    intro status
    rw [List.any_map, List.any_map]
    refine any_rearranged rearranged fun f f' related => ?_
    obtain ⟨targets, -, outcome⟩ := related.outcome
    rw [Function.comp_apply, Function.comp_apply, outcome]
  unfold verdictOf
  rw [statuses, statuses, leaked]

end Findings

/-- Violations of one kind say the same. -/
theorem Rule.Charges.shownAlike {spec : Spec} {fault fault' : Fault} {v v' : Violation}
    (charges : Charges spec fault v) (charges' : Charges spec fault' v') (code : v.code = v'.code) :
    v.ShownAlike v' := by
  cases charges <;> cases charges' <;> first
    | exact ⟨rfl, rfl, rfl⟩
    | exact absurd code (by simp)

/-- The violations of a report report faults, so those of one kind say the same. -/
theorem Rule.Answers.shownAlike {spec : Spec} {fs : List Finding} (answers : Answers spec fs) :
    ∀ v ∈ fs.flatMap (·.violations), ∀ v' ∈ fs.flatMap (·.violations), v.code = v'.code →
      v.ShownAlike v' := by
  have charged : ∀ v ∈ fs.flatMap (·.violations), ∃ fault, Charges spec fault v := by
    intro v here
    obtain ⟨n, bound, rfl⟩ := List.getElem_of_mem here
    exact ⟨_, answers.charges.get (answers.charges.length_eq ▸ bound) bound⟩
  intro v here v' here' code
  obtain ⟨fault, charges⟩ := charged v here
  obtain ⟨fault', charges'⟩ := charged v' here'
  exact charges.shownAlike charges' code

/-- Violations with one sort key show the same, so their order does not matter. -/
theorem writtenViolations_of_charges {spec : Spec} {fs : List Finding} (answers : Answers spec fs)
    {violations : List Violation} (perm : (reportOf spec fs).violations.Perm violations) :
    writtenViolations { reportOf spec fs with violations } = (reportOf spec fs).writtenViolations := by
  refine (writtenViolations_perm_iff _).mpr (fun a ha b hb tied => ?_) violations perm
  rw [answers.violations_eq] at ha hb
  exact answers.shownAlike a ha b hb (congrArg Prod.fst tied)

/-! ## Reports can be written -/

/-- Violations refer to artifacts by name. -/
theorem Rule.Charges.writable_refs {spec : Spec} {fault : Fault} {v : Violation}
    (charges : Charges spec fault v) : (Json.object v.refs).Writable := by
  rw [Json.writable_object_iff]
  cases charges <;> simp only [List.forall_mem_cons, List.not_mem_nil, false_imp_iff, implies_true,
    and_true] <;> simp only [Json.Writable, Json.Throughout.text, and_self]

/-- **The report on a specification has a text.** -/
theorem writable_of_validate {spec : Spec} {r : Report} (validated : validate spec = .ok r) :
    r.Writable := by
  by_cases supported : spec.version ∈ supportedVersions
  · obtain ⟨fs, found, answers⟩ := findings_answer spec
    obtain rfl := Except.ok.inj ((validate_of_findings supported found).symm.trans validated)
    refine ⟨fun v here => ?_, fun members given => absurd given (by simp [reportOf])⟩
    rw [answers.violations_eq] at here
    obtain ⟨n, bound, rfl⟩ := List.getElem_of_mem here
    exact (answers.charges.get (answers.charges.length_eq ▸ bound) bound).writable_refs
  · obtain rfl := Except.ok.inj ((validate_of_unsupported supported).symm.trans validated)
    refine ⟨fun v here => ?_, fun members given => absurd given (by simp [unsupportedReport])⟩
    obtain rfl := List.mem_singleton.mp here
    rw [Json.writable_object_iff, unsupportedVersion]
    exact List.forall_mem_cons.mpr ⟨.text _, List.forall_mem_singleton.mpr (Json.writable_texts _)⟩

/-- So has the report that a document could not be read. -/
theorem writable_readFailure (location hint : String) : (readFailure location hint).Writable := by
  refine ⟨fun v here => ?_, fun members given => absurd given (by simp [readFailure])⟩
  obtain rfl := List.mem_singleton.mp here
  rw [Json.writable_object_iff]
  exact List.forall_mem_cons.mpr ⟨.text _, List.forall_mem_singleton.mpr (.text _)⟩

namespace Redeclared

variable {spec spec' : Spec} (same : Redeclared spec spec')

include same

/-- **The reports differ in the order of their parts.** -/
theorem reportOf_rearranged {fs fs' : List Finding}
    (rearranged : List.Forall₂ Finding.Rearranged fs fs') :
    (reportOf spec fs).Rearranged (reportOf spec' fs') where
  specVersion := same.version
  systemId := same.system
  verdict := verdictOf_rearranged rearranged
  outcomes := ⟨_, .refl _, outcomes_rearranged rearranged⟩
  violations := by
    refine ⟨_, ?_, List.forall₂_same.mpr fun v _ => Violation.Rearranged.refl v⟩
    unfold reportOf
    dsimp only
    rw [verdictOf_rearranged rearranged]
    split
    · exact .refl _
    · exact violations_perm rearranged
  notes := rfl
  extensions := .none

end Redeclared

/-- **The order in which artifacts are declared makes no difference to the report as it is written**,
nor to the exit status.  There is such a text in every case. -/
theorem canonicalText_of_redeclared {spec spec' : Spec} (same : Redeclared spec spec') :
    ∃ r r' text, validate spec = .ok r ∧ validate spec' = .ok r' ∧
      r.canonicalText = .ok text ∧ r'.canonicalText = .ok text ∧ r'.exitCode = r.exitCode := by
  by_cases supported : spec.version ∈ supportedVersions
  · obtain ⟨fs, fs', found, found', rearranged⟩ := same.findings_rearranged
    obtain ⟨answered, found'', answers⟩ := findings_answer spec
    obtain rfl : fs = answered := Except.ok.inj (found.symm.trans found'')
    have reports := same.reportOf_rearranged rearranged
    have validated := validate_of_findings supported found
    have validated' := validate_of_findings (same.version ▸ supported) found'
    have spelled : (reportOf spec' fs').tree.spelling .lined = (reportOf spec fs).tree.spelling .lined := by
      refine reports.spelling_eq_iff.mpr
        ⟨writtenOutcomes_eq_of_forall₂ (outcomes_rearranged rearranged), ?_⟩
      obtain ⟨violations, perm, related⟩ := reports.violations
      rw [← writtenViolations_of_charges answers perm]
      exact writtenViolations_eq_of_forall₂ (r := { reportOf spec fs with violations }) related
    exact ⟨_, _, _, validated, validated', (gives_canonicalText _).ok (writable_of_validate validated),
      spelled ▸ (gives_canonicalText _).ok (writable_of_validate validated'),
      congrArg Verdict.exitCode reports.verdict⟩
  · have equal : validate spec' = validate spec := by
      unfold validate
      rw [same.version, same.system, if_neg (by simpa using supported),
        if_neg (by simpa using supported)]
    have validated := validate_of_unsupported supported
    have written := (gives_canonicalText _).ok (writable_of_validate validated)
    exact ⟨_, _, _, validated, equal.trans validated, written, written, rfl⟩

/-- The entries of a table from the last to the first. -/
def Document.Table.reversed {α : Type} [Named α] (t : Table α) : Table α where
  entries := t.entries.reverse
  nodup := by
    rw [List.map_reverse, List.nodup_reverse]
    exact t.nodup

/-- A specification with its intents, constraints and decisions from the last to the first. -/
def Document.Spec.reversed (spec : Spec) : Spec :=
  { spec with
    intents := spec.intents.reversed
    constraints := spec.constraints.reversed
    decisions := spec.decisions.reversed }

theorem redeclared_reversed (spec : Spec) : Redeclared spec spec.reversed where
  text := rfl
  version := rfl
  system := rfl
  sections := rfl
  capabilities := rfl
  validations := rfl
  intents := (List.reverse_perm _).symm
  constraints := (List.reverse_perm _).symm
  decisions := (List.reverse_perm _).symm

/-- Two intents that nothing verifies, two constraints, and two decisions that cannot be traced. -/
def pairedSpec : Spec where
  text := ""
  version := "DIL:spec v0"
  intents := ⟨[⟨"I1"⟩, ⟨"I2"⟩], by decide⟩
  constraints := ⟨[{ id := "C1" }, { id := "C2" }], by decide⟩
  decisions := ⟨[{ id := "D1", supports := ["I1"], respects := ["C3"] }, { id := "D2" }], by decide⟩

theorem canonicalText_of_redeclared_pairedSpec :
    Redeclared pairedSpec pairedSpec.reversed ∧
      pairedSpec.reversed.intents.entries ≠ pairedSpec.intents.entries ∧
      ∃ r r' text, validate pairedSpec = .ok r ∧ validate pairedSpec.reversed = .ok r' ∧
        r.canonicalText = .ok text ∧ r'.canonicalText = .ok text ∧ r'.exitCode = r.exitCode :=
  ⟨redeclared_reversed pairedSpec, by decide,
    canonicalText_of_redeclared (redeclared_reversed pairedSpec)⟩

end IntentSpec
