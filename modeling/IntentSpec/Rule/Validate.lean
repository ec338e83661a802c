import IntentSpec.Document.Scan
import IntentSpec.Report.Basic
import IntentSpec.Rule.Basic

/-!
# Validating a specification

A specification of an unsupported version is invalid and is looked at no further.  Otherwise all rules
are applied and the verdict is read off their outcomes: a violated rule makes the specification
invalid, and failing that an undecided rule makes it undecidable.

Every outcome, every violation and the report itself are checked as they are made, by the same checks that
a report from outside has to pass (`Report.accept`).  So validation could be rejected, and its type says so;
that it never is, whatever the specification, is proved and not assumed.

A document that cannot be read has a report as well, with one violation that says where and why.  It is made
without a specification and says `unknown` where its header would be.

## Main definitions

* `verdictOf` — the verdict on a list of outcomes.
* `validate` — the report on a specification.
* `validateText` — the report on a document.
* `readFailure` — the report on a document that could not be read.
-/

namespace IntentSpec

open Document Report

/-- The versions of the language that are supported. -/
def supportedVersions : List String := ["DIL:spec v0"]

/-- The verdict on a list of outcomes, where `leaked` says that an implementation is prescribed. The
flag is looked at besides the outcomes, though a rule that sets it is always violated. -/
def verdictOf (outcomes : List Outcome) (leaked : Bool) : Verdict :=
  if leaked || outcomes.any (·.status == .unsatisfied) then .invalid
  else if outcomes.any (·.status == .unknown) then .undecidable
  else .valid

/-- The violation by a specification of an unsupported version. -/
def unsupportedVersion (version : String) : Violation where
  code := "UNSUPPORTED_SPEC_VERSION"
  message := "Validator does not support the declared spec version."
  refs := [("spec", .text version), ("supported", .texts supportedVersions)]

/-- The findings of all rules, in the order of the rules. -/
def findings (spec : Spec) : Except Rejection (List Finding) :=
  Rule.all.mapM fun (_, rule) => rule spec

/-- The report on a specification. Violations are left out of a valid report, which has none to
leave out; this is proved, and the program does not rely on it. -/
def validate (spec : Spec) : Except Rejection Report :=
  if supportedVersions.contains spec.version then do
    let findings ← findings spec
    let outcomes := findings.map (·.outcome)
    let verdict := verdictOf outcomes (findings.any Finding.leaked)
    Report.accept
      { specVersion := spec.version
        systemId := spec.system
        verdict
        outcomes
        violations := if verdict = .valid then [] else findings.flatMap (·.violations) }
  else do
    let violation ← (unsupportedVersion spec.version).accept
    Report.accept
      { specVersion := spec.version
        systemId := spec.system
        verdict := .invalid
        violations := [violation] }

/-- The report on a document. Whatever the text, it is parsed into a specification first, and
problems of structure do not keep the rules from being applied. -/
def validateText (text : String) : Except Rejection Report := validate (Spec.parse text)

/-- The report on a document that could not be read. It is the only one whose violation comes from
no rule and from no version. -/
def readFailure (location hint : String) : Report where
  specVersion := unknown
  systemId := unknown
  verdict := .invalid
  violations :=
    [{ code := "PARSE_ERROR"
       message := "Unable to read input file."
       refs := [("location", .text location), ("hint", .text hint)] }]

end IntentSpec
