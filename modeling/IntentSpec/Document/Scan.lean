import IntentSpec.Document.Artifact
import IntentSpec.Document.Line

/-!
# Reading a document

The sections are read in one pass over the lines.  The state of the pass holds the depth of braces, the
section that is open and the block inside it, next to the artifact table that is being filled.  A
section can open only directly inside the system block, and the pass is over once a line behind the one that
opened the system takes the depth back to zero.

A line is first given the chance to open a section, then it is read by the section that is open, and only
then do its braces count.  So the opening line of a section belongs to its text, and so does the line that
closes it, on which the section is still open.  Comments are taken off a line before its braces are counted;
the text of the section keeps them.

The name of the system and the version are looked for before the pass and by themselves, and the pass finds
the opening of the system again.  What is missing is an issue and stops nothing.

## Main definitions

* `OpenSection`, `Phase`, `Scan` — the state of the pass.
* `Scan.step` — the effect of one line.
* `Spec.parse` — the artifact table of a document.
-/

namespace IntentSpec.Document

open Text

/-- The section that is being read. -/
structure OpenSection where
  kind : SectionKind
  /-- The least depth at which the section is still open. -/
  floor : Int
  /-- The decision whose block was entered last. -/
  decision : Option String := none
  /-- The validation whose block was entered last. -/
  validation : Option String := none
deriving DecidableEq, Repr

/-- Where the pass stands. -/
inductive Phase where
  /-- No system block has been opened. -/
  | before
  /-- The system block is open at a depth of braces. -/
  | inside (depth : Int) (current : Option OpenSection)
  | closed
deriving DecidableEq, Repr

/-- The state of the pass. -/
structure Scan where
  phase : Phase := .before
  spec : Spec

/-- Declares a capability, once. -/
def Spec.addCapability (spec : Spec) (name : String) : Spec :=
  if spec.capabilities.contains name then spec
  else { spec with capabilities := spec.capabilities ++ [name] }

/-- Appends a raw line to the text of a section. -/
def Spec.appendRaw (spec : Spec) (name : String) (raw : List Char) : Spec :=
  { spec with
    sections := spec.sections.adjust name
      (fun s => { s with text := s.text ++ String.ofList raw ++ "\n" }) fun _ => rfl }

/-- The effect of a line in the section of intents. -/
def Spec.readIntent (spec : Spec) (trimmed : List Char) : Spec :=
  match heading? "intent" trimmed with
  | some id => { spec with intents := spec.intents.register ⟨id⟩ }
  | none => spec

/-- The effect of a line in the section of constraints.  A severity belongs to the constraint that was
declared last, wherever it stands. -/
def Spec.readConstraint (spec : Spec) (trimmed : List Char) : Spec :=
  let spec := match heading? "constraint" trimmed with
    | some id => { spec with constraints := spec.constraints.register { id } }
    | none => spec
  match severity? trimmed, spec.constraints.entries.getLast? with
  | some severity, some latest =>
    { spec with
      constraints := spec.constraints.adjust latest.id
        (fun c => { c with severity := some severity }) fun _ => rfl }
  | _, _ => spec

/-- A decision with the references that a line gives. -/
def Decision.refer (decision : Decision) (trimmed : List Char) : Decision :=
  { decision with
    supports := ((labelled? "supports" trimmed).map bracketList).getD decision.supports
    respects := ((labelled? "respects" trimmed).map bracketList).getD decision.respects }

/-- The effect of a line in the section of decisions, inside the block of `current`. -/
def Spec.readDecision (spec : Spec) (current : Option String) (trimmed : List Char) :
    Option String × Spec :=
  let (current, spec) := match heading? "decision" trimmed with
    | some id => (some id, { spec with decisions := spec.decisions.register { id } })
    | none => (current, spec)
  match current with
  | some id =>
    (current, { spec with decisions := spec.decisions.adjust id (·.refer trimmed) fun _ => rfl })
  | none => (none, spec)

/-- A validation with the capability that a line gives. -/
def Validation.require (validation : Validation) (trimmed : List Char) : Validation :=
  { validation with
    requires := ((labelled? "requires_capability" trimmed).map quotedOrBare).getD
      validation.requires }

/-- The effect of a line in the section of validations, inside the block of `current`. -/
def Spec.readValidation (spec : Spec) (current : Option String) (trimmed : List Char) :
    Option String × Spec :=
  let (current, spec) := match validationHeading? trimmed with
    | some id => (some id, { spec with validations := spec.validations.register { id } })
    | none => (current, spec)
  match current with
  | some id =>
    (current,
      { spec with validations := spec.validations.adjust id (·.require trimmed) fun _ => rfl })
  | none => (none, spec)

/-- The effect of a line on the artifacts and on the block that is being read. -/
def OpenSection.classify (current : OpenSection) (spec : Spec) (trimmed : List Char) :
    OpenSection × Spec :=
  match current.kind with
  | .capabilities =>
    match wholeIdentifier? trimmed with
    | some name => (current, spec.addCapability name)
    | none => (current, spec)
  | .intents => (current, spec.readIntent trimmed)
  | .constraints => (current, spec.readConstraint trimmed)
  | .decisions =>
    let (decision, spec) := spec.readDecision current.decision trimmed
    ({ current with decision }, spec)
  | .validations =>
    let (validation, spec) := spec.readValidation current.validation trimmed
    ({ current with validation }, spec)
  | .about | .change | .implementationNotes => (current, spec)

/-- Opens a section.  Its text starts anew, also when the document opens the section again. -/
def enter (kind : SectionKind) (depth : Int) (spec : Spec) : OpenSection × Spec :=
  ({ kind, floor := depth + 1 }, { spec with sections := spec.sections.put ⟨kind.name, ""⟩ })

/-- The section that is open at a line, after the line has had the chance to open one. -/
def sectionAt (depth : Int) (current : Option OpenSection) (spec : Spec) (trimmed : List Char) :
    Option OpenSection × Spec :=
  match if depth = 1 then sectionOpening? trimmed else none with
  | some kind =>
    let (opened, spec) := enter kind depth spec
    (some opened, spec)
  | none => (current, spec)

/-- The effect of a line inside the system block. -/
def stepInside (depth : Int) (current : Option OpenSection) (spec : Spec) (raw : List Char) : Scan :=
  let line := stripComment raw
  let trimmed := trim line
  let (current, spec) := sectionAt depth current spec trimmed
  let (current, spec) := match current with
    | some entered =>
      let (next, spec) := entered.classify (spec.appendRaw entered.kind.name raw) trimmed
      (some next, spec)
    | none => (none, spec)
  let depth := depth + balance line
  { phase := if depth ≤ 0 then .closed else .inside depth (current.filter (·.floor ≤ depth)), spec }

/-- The effect of one line. The line that opens the system counts its braces and is looked at no
further, so the pass goes on behind it even if it closes the block again. -/
def Scan.step (scan : Scan) (raw : List Char) : Scan :=
  match scan.phase with
  | .before =>
    let line := stripComment raw
    if (systemName? false line).isSome then { scan with phase := .inside (balance line) none }
    else scan
  | .inside depth current => stepInside depth current scan.spec raw
  | .closed => scan

/-- A line as the header sees it: without comment, blanks and leading byte-order marks. -/
def significant (raw : List Char) : List Char :=
  trim ((trim (stripComment raw)).dropWhile (· == '\ufeff'))

/-- The first significant line with its number, where `number` is that of the first line. -/
def headerLine? (number : Nat) : List (List Char) → Option (Nat × List Char)
  | [] => none
  | raw :: rest =>
    let text := significant raw
    if text.isEmpty then headerLine? (number + 1) rest else some (number, text)

/-- Reads the version from the first significant line. -/
def Spec.readHeader (spec : Spec) (lines : List (List Char)) : Spec :=
  match headerLine? 1 lines with
  | none => spec
  | some (number, text) =>
    if (dropWord? "DIL:spec".toList text).isSome then { spec with version := String.ofList text }
    else
      { spec with
        issues := spec.issues ++
          [{ message := "Missing or invalid spec header. Expected 'DIL:spec v<MAJOR>' but got '" ++
               String.ofList text ++ "'."
             line := some number
             column := some 1 }] }

/-- Reads the system identifier from the first line that opens a system block. -/
def Spec.readSystem (spec : Spec) (lines : List (List Char)) : Spec :=
  let name := (lines.findSome? fun raw => systemName? false (stripComment raw)).map trim
  let system := match name with
    | some (c :: rest) => String.ofList (c :: rest)
    | _ => unknown
  if system = unknown then
    { spec with
      system
      issues := spec.issues ++
        [{ message := "Missing system declaration. Expected: system \"ID\" \x7b ... \x7d"
           line := some 1 }] }
  else { spec with system }

/-- The pass over the lines of a document. -/
def Spec.scan (spec : Spec) (lines : List (List Char)) : Scan := lines.foldl Scan.step { spec }

/-- The artifact table of a document. Every text has one; what could not be found is among its
issues. -/
def Spec.parse (text : String) : Spec :=
  let lines := lines text.toList
  let scan := (({ text : Spec }.readHeader lines).readSystem lines).scan lines
  match scan.phase with
  | .before =>
    { scan.spec with
      issues := scan.spec.issues ++
        [{ message := "System block was not detected; validation may be unreliable."
           line := some 1 }] }
  | _ => scan.spec

end IntentSpec.Document
