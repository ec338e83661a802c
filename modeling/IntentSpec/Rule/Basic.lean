import IntentSpec.Document.Artifact
import IntentSpec.Document.Line
import IntentSpec.Report.Basic
import IntentSpec.Rule.Leak

/-!
# The mandatory rules

Five rules are applied to every specification.  Each reads the artifact table and answers with a
finding: the outcome of the rule and the violations that it adds to the report.

* V-M1: every intent can be verified, because its block names validations, or because some decision
  supports it while some validation requires a capability.
* V-M2: the constraints that are declared exist.
* V-M3: every decision supports an intent, and what it refers to is declared.
* V-M4: every capability that a validation requires is declared.  Otherwise the rule is undecided.
* V-M5: the text prescribes no implementation.

An intent is associated explicitly when its block in the raw text of the section of intents has an
attribute that names validations.  The text is cut at every line boundary, comments are left out, and
the block of an intent reaches up to the next line that begins an intent.

## Main definitions

* `Association.namesValidations` — the attribute that names validations.
* `Association.explicit` — whether the text associates an intent.
* `Finding` — the answer of a rule.
* `Rule.all` — the rules with their names, in the order in which they are applied.
-/

namespace IntentSpec.Association

open Text Document

/-! ## Explicit association of intents with validations -/

/-- Whether a trimmed line begins with the attribute that names validations. What it names is not
looked at: any value, and none, associates the intent. -/
def namesValidations (trimmed : List Char) : Bool :=
  ["validations", "validation"].any fun label =>
    match dropWord? label.toList trimmed with
    | some rest => (skipAsciiBlanks rest).head? == some ':'
    | none => false

/-- Whether some line of the block of an intent names validations; `inBlock` says whether the first
line is in that block. -/
def inLines (id : String) (inBlock : Bool) : List (List Char) → Bool
  | [] => false
  | line :: rest =>
    match heading? "intent" line with
    | some found => inLines id (found == id) rest
    | none => (inBlock && namesValidations line) || inLines id inBlock rest

/-- Whether a text associates an intent with validations. -/
def explicit (text id : String) : Bool :=
  inLines id false ((paragraphs text.toList).map fun line => trim (stripComment line))

end IntentSpec.Association

namespace IntentSpec

open Document Report

/-- The answer of a rule: its outcome, and the violations it adds to the report. The two are checked
together as they are made. -/
structure Finding where
  outcome : Outcome
  violations : List Violation := []

namespace Rule

/-- The code of an intent that cannot be verified. -/
def intentNotVerifiable : String := "INTENT_NOT_VERIFIABLE"

/-- The code of a decision that supports nothing. -/
def untracedDecision : String := "UNTRACED_DECISION"

/-- The code of a decision that refers to something undeclared. -/
def brokenReference : String := "BROKEN_REFERENCE"

/-- The code of a prescribed implementation. -/
def implementationLeak : String := "IMPLEMENTATION_LEAK"

/-- The reference to an artifact of a kind. -/
def reference (kind id : String) : String := kind ++ "." ++ id

/-- A finding whose outcome and violations are admitted. -/
def accept (outcome : Outcome) (violations : List Violation) : Except Rejection Finding := do
  let violations ← violations.mapM Violation.accept
  let outcome ← outcome.accept
  return { outcome, violations }

/-- The capability that a validation requires, unless it is empty. -/
def requirement? (v : Validation) : Option String := v.requires.filter (· != "")

/-- The first validation that requires a capability. -/
def capabilityValidation? (spec : Spec) : Option Validation :=
  spec.validations.entries.find? fun v => (requirement? v).isSome

/-- Whether some decision supports the intent. -/
def supported (spec : Spec) (id : String) : Bool :=
  spec.decisions.entries.any fun d => d.supports.contains id

/-- Whether the intent is associated because a decision supports it while some validation requires a
capability. -/
def implied (spec : Spec) (id : String) : Bool :=
  (capabilityValidation? spec).isSome && supported spec id

/-- Whether the block of the intent names validations. -/
def explicit (spec : Spec) (id : String) : Bool :=
  Association.explicit (spec.sectionText "intents") id

/-- The intents that are associated in neither way. -/
def unassociated (spec : Spec) : List Intent :=
  spec.intents.entries.filter fun i => !(explicit spec i.id || implied spec i.id)

/-- The violation by an intent that cannot be verified. -/
def notVerifiable (i : Intent) : Violation where
  code := intentNotVerifiable
  message := "Intent lacks explicit validation; verifiability is required."
  refs := [("intent", .text (reference "intents" i.id)), ("validation", .text "V-M1")]

/-- The note on a specification whose intents are all associated. -/
def associationNote (spec : Spec) : String :=
  match spec.intents.entries, capabilityValidation? spec with
  | [], _ => "No intents declared."
  | [i], some v =>
    if supported spec i.id then
      "Intent " ++ reference "intents" i.id ++ " is associated with validation " ++
        reference "validations" v.id ++ "."
    else "All intents are considered verifiable under core association rules."
  | _, _ => "All intents are considered verifiable under core association rules."

/-- V-M1: every intent can be verified. -/
def intentVerifiability (spec : Spec) : Except Rejection Finding :=
  match unassociated spec with
  | [] =>
    accept
      { validation := "V-M1"
        status := .satisfied
        targets := spec.intents.entries.map fun i => reference "intents" i.id
        notes := some [associationNote spec] } []
  | missing =>
    accept
      { validation := "V-M1"
        status := .unsatisfied
        targets := missing.map fun i => reference "intents" i.id }
      (missing.map notVerifiable)

/-- V-M2: the constraints that are declared exist.  Their predicates are not evaluated. -/
def constraintIntegrity (spec : Spec) : Except Rejection Finding :=
  let names := sortTexts (spec.constraints.entries.map fun c => reference "constraints" c.id)
  let (targets, note) := match names with
    | [] => ([], "No constraints declared.")
    | [name] => ([name], "Constraint " ++ name ++ " exists and is evaluable.")
    | _ =>
      ([], "All declared constraints (" ++ ", ".intercalate names ++
        ") exist and are syntactically evaluable.")
  accept { validation := "V-M2", status := .satisfied, targets, notes := some [note] } []

/-- The intents that a decision supports and that are not declared. -/
def brokenIntents (spec : Spec) (d : Decision) : List String :=
  d.supports.filter fun id => !spec.intents.contains id

/-- The constraints that a decision respects and that are not declared. -/
def brokenConstraints (spec : Spec) (d : Decision) : List String :=
  d.respects.filter fun id => !spec.constraints.contains id

/-- The violation by a decision, if it fails.  Several broken references make one violation, which
names the first of each kind or a placeholder. -/
def decisionViolation? (spec : Spec) (d : Decision) : Option Violation :=
  let self := reference "decisions" d.id
  if d.supports.isEmpty then
    some
      { code := untracedDecision
        message := "Decision missing traceability links to intents/constraints."
        refs := [("constraint", .text "constraints.C2"), ("decision", .text self)] }
  else
    match brokenIntents spec d, brokenConstraints spec d with
    | [], [] => none
    | intents, constraints =>
      some
        { code := brokenReference
          message := "Decision references non-existent intent or constraint."
          refs :=
            [("decision", .text self),
             ("intent", .text (intents.headD "I_DO_NOT_EXIST")),
             ("constraint", .text (constraints.headD "C_DO_NOT_EXIST"))] }

/-- The decisions that fail. -/
def failingDecisions (spec : Spec) : List Decision :=
  spec.decisions.entries.filter fun d => (decisionViolation? spec d).isSome

/-- V-M3: every decision supports an intent, and what it refers to is declared. -/
def decisionTraceability (spec : Spec) : Except Rejection Finding :=
  match failingDecisions spec with
  | [] =>
    let (targets, note) := match spec.decisions.entries with
      | [] => ([], "No decisions declared.")
      | [d] =>
        ([reference "decisions" d.id],
          "Decision " ++ reference "decisions" d.id ++ " supports " ++
            ", ".intercalate (d.supports.map (reference "intents")) ++ " and respects " ++
            ", ".intercalate (d.respects.map (reference "constraints")) ++ ".")
      | decisions =>
        (decisions.map fun d => reference "decisions" d.id,
          "All decisions meet core traceability requirements.")
    accept { validation := "V-M3", status := .satisfied, targets, notes := some [note] } []
  | failing =>
    accept
      { validation := "V-M3"
        status := .unsatisfied
        targets := sortTexts (failing.map fun d => reference "decisions" d.id) }
      (failing.filterMap (decisionViolation? spec))

/-- The validations whose required capability is not declared, with the capability. -/
def uncovered (spec : Spec) : List (Validation × String) :=
  spec.validations.entries.filterMap fun v =>
    match requirement? v with
    | some capability => if spec.capabilities.contains capability then none else some (v, capability)
    | none => none

/-- V-M4: every capability that a validation requires is declared. -/
def capabilityCoverage (spec : Spec) : Except Rejection Finding :=
  match uncovered spec with
  | [] =>
    let emitters := spec.capabilities.filter (·.startsWith "emit_structured_")
    accept
      { validation := "V-M4"
        status := .satisfied
        notes := some ["Validations are executable using declared capabilities (" ++
          ", ".intercalate emitters ++ ")."] } []
  | (v, capability) :: rest =>
    accept
      { validation := "V-M4"
        status := .unknown
        targets := ((v, capability) :: rest).map fun missing => reference "validations" missing.1.id
        reason := some ("Validation " ++ reference "validations" v.id ++
          " requires undeclared capability '" ++ capability ++ "'.") } []

/-- The violation by a text that prescribes an implementation. -/
def leakViolation : Violation where
  code := implementationLeak
  message := "Specification prescribes implementation; violates No Implementation."
  refs := [("constraint", .text "constraints.C1"), ("validation", .text "V-M5")]

/-- V-M5: the text prescribes no implementation. -/
def implementationLeakage (spec : Spec) : Except Rejection Finding :=
  if Leak.found spec.text then
    accept
      { validation := "V-M5"
        status := .unsatisfied
        targets := ["system"]
        evidence := some [⟨.excerpt,
          "implementation_notes contains algorithmic and procedural directives " ++
            "(B-Tree, LRU, Big-O, scheduled job)."⟩] }
      [leakViolation]
  else accept { validation := "V-M5", status := .satisfied, targets := ["system"] } []

/-- The rules with their names, in the order in which they are applied. A report has their outcomes
in this order, and their violations too. -/
def all : List (String × (Spec → Except Rejection Finding)) :=
  [("V-M1", intentVerifiability), ("V-M2", constraintIntegrity), ("V-M3", decisionTraceability),
   ("V-M4", capabilityCoverage), ("V-M5", implementationLeakage)]

end Rule

/-- Whether a finding has a violation by a prescribed implementation. -/
def Finding.leaked (f : Finding) : Bool := f.violations.any (·.code == Rule.implementationLeak)

end IntentSpec
