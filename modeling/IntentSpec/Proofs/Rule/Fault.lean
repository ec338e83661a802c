import IntentSpec.Proofs.Rule.Association
import IntentSpec.Rule.Basic
import Mathlib.Data.List.Nodup

/-!
# Faults of a specification

What the mandatory rules object to, said on the artifact table and without reference to how the
rules look for it.  An intent is at fault when it is not `Associated` with validations, a decision
when it is `Untraceable`, and the whole text when it gives away an implementation.  `faults` lists
what is at fault, in the order in which it is declared, and `Charges` says which violation reports
which fault.

A specification without faults may still be `Undecided`: some validation requires a capability
that is not declared.
-/

namespace IntentSpec.Rule

open Document Report

/-! ## The conditions -/

/-- Some validation requires a capability. -/
def Requires (spec : Spec) : Prop :=
  ∃ v ∈ spec.validations.entries, ∃ capability ∈ v.requires, capability ≠ ""

/-- The lines of the section of intents, without comments and without the blanks at their ends. -/
def intentLines (spec : Spec) : List (List Char) :=
  (Text.paragraphs (spec.sectionText "intents").toList).map fun line =>
    Text.trim (stripComment line)

/-- An intent is associated with validations: by an attribute of its block, or because a decision
supports it while some validation requires a capability. The second way asks for no connection
between the decision and that validation. -/
def Associated (spec : Spec) (id : String) : Prop :=
  Association.Associates id (intentLines spec) ∨
    (Requires spec ∧ ∃ d ∈ spec.decisions.entries, id ∈ d.supports)

/-- Something that a decision refers to is not declared. -/
def Broken (spec : Spec) (d : Decision) : Prop :=
  (∃ id ∈ d.supports, id ∉ spec.intents.names) ∨ ∃ id ∈ d.respects, id ∉ spec.constraints.names

/-- A decision supports nothing, or refers to something that is not declared. -/
def Untraceable (spec : Spec) (d : Decision) : Prop := d.supports = [] ∨ Broken spec d

/-- Some intent is not associated, some decision cannot be traced, or the text gives away an
implementation. These are the three ways in which a specification of a supported version is invalid.
-/
def Violated (spec : Spec) : Prop :=
  (∃ i ∈ spec.intents.entries, ¬ Associated spec i.id) ∨
    (∃ d ∈ spec.decisions.entries, Untraceable spec d) ∨ Leak.found spec.text = true

/-- Some validation requires a capability that is not declared. This is no violation: the
specification may be right, but nothing can be found out about it. -/
def Undecided (spec : Spec) : Prop :=
  ∃ v ∈ spec.validations.entries, ∃ capability ∈ v.requires,
    capability ≠ "" ∧ capability ∉ spec.capabilities

/-! ## What is at fault -/

/-- Something that the rules object to. -/
inductive Fault where
  /-- An intent that cannot be verified. -/
  | intent (i : Intent)
  /-- A decision that cannot be traced. -/
  | decision (d : Decision)
  /-- The text, which gives away an implementation. -/
  | leak
deriving DecidableEq

/-- The text that an identifier list shows in a violation: its first identifier that is not
declared, or a placeholder if all are. -/
def FirstUndeclared (ids declared : List String) (placeholder shown : String) : Prop :=
  (∃ before after, ids = before ++ shown :: after ∧ (∀ id ∈ before, id ∈ declared) ∧
    shown ∉ declared) ∨
  ((∀ id ∈ ids, id ∈ declared) ∧ shown = placeholder)

/-- The violation that reports a fault. -/
inductive Charges (spec : Spec) : Fault → Violation → Prop
  /-- An intent is named together with the rule. -/
  | intent (i : Intent) : Charges spec (.intent i)
      { code := "INTENT_NOT_VERIFIABLE"
        message := "Intent lacks explicit validation; verifiability is required."
        refs := [("intent", .text ("intents." ++ i.id)), ("validation", .text "V-M1")] }
  /-- A decision that supports nothing is named. -/
  | untraced (d : Decision) (nothing : d.supports = []) : Charges spec (.decision d)
      { code := "UNTRACED_DECISION"
        message := "Decision missing traceability links to intents/constraints."
        refs := [("constraint", .text "constraints.C2"),
          ("decision", .text ("decisions." ++ d.id))] }
  /-- A decision with broken references is named together with the first of each kind. -/
  | broken (d : Decision) (intent constraint : String) (something : d.supports ≠ [])
      (firstIntent : FirstUndeclared d.supports spec.intents.names "I_DO_NOT_EXIST" intent)
      (firstConstraint :
        FirstUndeclared d.respects spec.constraints.names "C_DO_NOT_EXIST" constraint) :
      Charges spec (.decision d)
      { code := "BROKEN_REFERENCE"
        message := "Decision references non-existent intent or constraint."
        refs := [("decision", .text ("decisions." ++ d.id)), ("intent", .text intent),
          ("constraint", .text constraint)] }
  /-- A prescribed implementation is charged to the constraint that forbids it. -/
  | leak : Charges spec .leak
      { code := "IMPLEMENTATION_LEAK"
        message := "Specification prescribes implementation; violates No Implementation."
        refs := [("constraint", .text "constraints.C1"), ("validation", .text "V-M5")] }

/-! ## The conditions are computable -/

theorem requirement?_eq_some_iff (v : Validation) (capability : String) :
    requirement? v = some capability ↔ capability ∈ v.requires ∧ capability ≠ "" := by
  simp [requirement?, Option.filter_eq_some_iff]

theorem isSome_capabilityValidation?_iff (spec : Spec) :
    (capabilityValidation? spec).isSome = true ↔ Requires spec := by
  rw [capabilityValidation?, List.find?_isSome]
  simp only [Option.isSome_iff_exists, requirement?_eq_some_iff]
  rfl

theorem explicit_or_implied_iff (spec : Spec) (id : String) :
    (explicit spec id || implied spec id) = true ↔ Associated spec id := by
  simp [explicit, implied, supported, Associated, intentLines, isSome_capabilityValidation?_iff,
    Association.explicit_iff]

instance (spec : Spec) (id : String) : Decidable (Associated spec id) :=
  decidable_of_iff _ (explicit_or_implied_iff spec id)

instance (spec : Spec) (d : Decision) : Decidable (Broken spec d) :=
  inferInstanceAs (Decidable (_ ∨ _))

instance (spec : Spec) (d : Decision) : Decidable (Untraceable spec d) :=
  inferInstanceAs (Decidable (_ ∨ _))

/-- What is at fault: intents, then decisions, each in the order of their declarations, then the
text. -/
def faults (spec : Spec) : List Fault :=
  (spec.intents.entries.filter fun i => ¬ Associated spec i.id).map Fault.intent ++
    ((spec.decisions.entries.filter fun d => Untraceable spec d).map Fault.decision ++
      if Leak.found spec.text = true then [Fault.leak] else [])

theorem faults_eq_nil_iff (spec : Spec) : faults spec = [] ↔ ¬ Violated spec := by
  have intents : (spec.intents.entries.filter fun i => ¬ Associated spec i.id) = [] ↔
      ¬ ∃ i ∈ spec.intents.entries, ¬ Associated spec i.id := by
    simp [List.filter_eq_nil_iff]
  have decisions : (spec.decisions.entries.filter fun d => Untraceable spec d) = [] ↔
      ¬ ∃ d ∈ spec.decisions.entries, Untraceable spec d := by
    simp [List.filter_eq_nil_iff]
  have leak : (if Leak.found spec.text = true then [Fault.leak] else []) = [] ↔
      ¬ Leak.found spec.text = true := by
    split <;> simp_all
  unfold faults Violated
  rw [List.append_eq_nil_iff, List.append_eq_nil_iff, List.map_eq_nil_iff, List.map_eq_nil_iff,
    intents, decisions, leak, ← not_or, ← not_or]

/-- Nothing is at fault twice. -/
theorem faults_nodup (spec : Spec) : (faults spec).Nodup := by
  have intents : spec.intents.entries.Nodup := List.Nodup.of_map _ spec.intents.nodup
  have decisions : spec.decisions.entries.Nodup := List.Nodup.of_map _ spec.decisions.nodup
  unfold faults
  rw [List.nodup_append, List.nodup_append]
  refine ⟨?_, ⟨?_, ?_, ?_⟩, ?_⟩
  · exact (intents.filter _).map fun _ _ h => Fault.intent.inj h
  · exact (decisions.filter _).map fun _ _ h => Fault.decision.inj h
  · split <;> simp
  · intro x hx y hy
    obtain ⟨d, -, rfl⟩ := List.mem_map.mp hx
    split at hy <;> simp_all
  · intro x hx y hy
    obtain ⟨i, -, rfl⟩ := List.mem_map.mp hx
    rcases List.mem_append.mp hy with hy | hy
    · obtain ⟨d, -, rfl⟩ := List.mem_map.mp hy
      simp
    · split at hy <;> simp_all

end IntentSpec.Rule
