import IntentSpec.Document.Table
import IntentSpec.Json.Basic

/-!
# The artifacts of a specification

A specification declares capabilities, intents, constraints, decisions and validations, and keeps the
raw text of each of its sections.  Problems of structure are part of the result and never an error.

The raw texts are kept because a rule rescans the section of intents for attributes that the pass does not
record.  They hold the lines as they were, with their comments.

What a document does not say is told apart from what it says wherever it matters: a severity or a required
capability may be absent, while the header has the word `unknown` in place of a version or a name, which a
document could also give.  References between artifacts are plain names and may lead nowhere; whether they do
is for the rules to find out.

## Main definitions

* `Intent`, `Constraint`, `Decision`, `Validation`, `Section` — the artifacts.
* `Issue` — a problem found while reading.
* `Spec` — the artifact table of one document.
-/

namespace IntentSpec.Document

/-- A declared intent. -/
structure Intent where
  id : String
deriving DecidableEq, Repr

instance : Named Intent := ⟨Intent.id⟩

/-- A declared constraint. -/
structure Constraint where
  id : String
  /-- The severity, if one is given. -/
  severity : Option String := none
deriving DecidableEq, Repr

instance : Named Constraint := ⟨Constraint.id⟩

/-- A declared decision, with the identifiers that it refers to. An attribute that is given again
replaces the list that was there. -/
structure Decision where
  id : String
  /-- The intents that the decision supports. -/
  supports : List String := []
  /-- The constraints that the decision respects. -/
  respects : List String := []
deriving DecidableEq, Repr

instance : Named Decision := ⟨Decision.id⟩

/-- A declared validation. -/
structure Validation where
  id : String
  /-- The capability that carrying out the validation needs. -/
  requires : Option String := none
deriving DecidableEq, Repr

instance : Named Validation := ⟨Validation.id⟩

/-- A section with its raw text. A document that opens it again begins the text anew. -/
structure Section where
  name : String
  /-- The raw lines, each with a line feed after it. -/
  text : String
deriving DecidableEq, Repr

instance : Named Section := ⟨Section.name⟩

/-- A problem found while reading a document. It has a position only where there is a line to point
to, and reading goes on behind it. -/
structure Issue where
  message : String
  line : Option Int := none
  column : Option Int := none
  code : String := "PARSE_ERROR"
  /-- Whether reading could not go on. -/
  fatal : Bool := false
deriving DecidableEq, Repr

/-- The export of an issue.  A location without line and column is left out. -/
def Issue.toJson (issue : Issue) : Json :=
  let location := (issue.line.map fun n => ("line", Json.int n)).toList ++
    (issue.column.map fun n => ("column", Json.int n)).toList
  .object <|
    [("code", .text issue.code), ("message", .text issue.message), ("fatal", .bool issue.fatal)] ++
      (if location.isEmpty then [] else [("location", .object location)])

/-- What stands in place of a header field that the document does not give. -/
def unknown : String := "unknown"

/-- The artifact table of one document, together with the document. Names are distinct in every
table by its type, so no later proof has to show it. -/
structure Spec where
  text : String
  version : String := unknown
  system : String := unknown
  /-- The raw text of each section. -/
  sections : Table Section := .empty
  capabilities : List String := []
  intents : Table Intent := .empty
  constraints : Table Constraint := .empty
  decisions : Table Decision := .empty
  validations : Table Validation := .empty
  issues : List Issue := []

/-- The raw text of a section, empty if the document has none of the name. -/
def Spec.sectionText (spec : Spec) (name : String) : String :=
  ((spec.sections.find? name).map (·.text)).getD ""

end IntentSpec.Document
