import IntentSpec.Text.Character
import IntentSpec.Text.Pieces

/-!
# The lines of a document

A document is read line by line, and each kind of declaration is recognised on a single line.  What
follows a number sign is a comment.  Recognition works on the line without its comment and, but for the
opening of the system block, without the blanks at its ends.

## Main definitions

* `stripComment` — a line without its comment.
* `balance` — opening braces less closing braces.
* `systemName?` — the opening of the system block.
* `SectionKind`, `sectionOpening?` — the opening of a section.
* `heading?`, `validationHeading?` — the first line of a block.
* `labelled?` — an attribute with its value.
* `bracketList`, `quotedOrBare` — the two forms of values.
-/

namespace IntentSpec.Document

open Text

/-- A line up to its first number sign. Quotes do not protect a number sign, so no quoted text can
have one. -/
def stripComment (line : List Char) : List Char := line.takeWhile (· != '#')

/-- The opening braces of a line less its closing braces. It is negative for a line that closes more
than it opens. -/
def balance (line : List Char) : Int := (line.count '\x7b' : Int) - line.count '\x7d'

/-- The rest of a text after a word and at least one ASCII blank. -/
def afterKeyword? (word : String) (s : List Char) : Option (List Char) :=
  match dropWord? word.toList s with
  | some (c :: rest) => if isAsciiBlank c then some (skipAsciiBlanks rest) else none
  | _ => none

/-- A text between double quotes at the front of a text, and what follows it.  Nothing stands for an
empty text. -/
def quotedFront? : List Char → Option (List Char × List Char)
  | '"' :: s =>
    match cutFirst? '"' s with
    | some (inner, rest) => if inner.isEmpty then none else some (inner, rest)
    | none => none
  | _ => none

/-- The name in an opening of the system block at the front of a text. -/
def systemOpening? (s : List Char) : Option (List Char) := do
  let (name, rest) ← quotedFront? (← afterKeyword? "system" s)
  if (skipAsciiBlanks rest).head? = some '\x7b' then some name else none

/-- The name in the first opening of the system block on a line.  The keyword must not continue a
word; `inWord` says whether the character before the text does. -/
def systemName? (inWord : Bool) : List Char → Option (List Char)
  | [] => none
  | c :: s =>
    match if inWord then none else systemOpening? (c :: s) with
    | some name => some name
    | none => systemName? (isAsciiWord c) s

/-- The sections that a system block may have. -/
inductive SectionKind where
  | about
  /-- The capabilities that validations may require. -/
  | capabilities
  | intents
  | constraints
  | decisions
  | validations
  | change
  | implementationNotes
deriving DecidableEq, Repr

/-- All sections. -/
def SectionKind.all : List SectionKind :=
  [.about, .capabilities, .intents, .constraints, .decisions, .validations, .change,
    .implementationNotes]

/-- The word that opens a section. -/
def SectionKind.name : SectionKind → String
  | about => "about"
  | capabilities => "capabilities"
  | intents => "intents"
  | constraints => "constraints"
  | decisions => "decisions"
  | validations => "validations"
  | change => "change"
  | implementationNotes => "implementation_notes"

/-- The section that a trimmed line opens: its name, blanks and an opening brace, and nothing behind
it. -/
def sectionOpening? (trimmed : List Char) : Option SectionKind :=
  SectionKind.all.find? fun kind =>
    match dropWord? kind.name.toList trimmed with
    | some rest => skipAsciiBlanks rest == ['\x7b']
    | none => false

/-- The identifier in the first line of a block of the given kind. -/
def heading? (word : String) (trimmed : List Char) : Option String := do
  let (id, _) ← identifier? (← afterKeyword? word trimmed)
  some (String.ofList id)

/-- The identifier in the first line of a validation. -/
def validationHeading? (trimmed : List Char) : Option String := do
  some (String.ofList (← hyphenated? (← afterKeyword? "validate" trimmed)))

/-- The value of an attribute; a value is not empty. -/
def labelled? (label : String) (trimmed : List Char) : Option (List Char) := do
  match skipAsciiBlanks (← dropWord? label.toList trimmed) with
  | ':' :: rest =>
    let value := skipAsciiBlanks rest
    if value.isEmpty then none else some value
  | _ => none

/-- A line that is an identifier and nothing else. -/
def wholeIdentifier? (trimmed : List Char) : Option String :=
  match identifier? trimmed with
  | some (id, []) => some (String.ofList id)
  | _ => none

/-- The severity that a line gives. -/
def severity? (trimmed : List Char) : Option String := labelled? "severity" trimmed >>= wholeIdentifier?

/-- What stands between the first opening bracket that is closed on its line and the last closing
bracket of that line. -/
def bracketed? : List Char → Option (List Char)
  | [] => none
  | c :: s =>
    if c = '[' then
      match cutLast? ']' (s.takeWhile (· != '\n')) with
      | some (inner, _) => some inner
      | none => bracketed? s
    else bracketed? s

/-- A text without the given mark at both ends.  At least one character must remain. -/
def unwrap (mark : Char) (s : List Char) : List Char :=
  match s with
  | c :: d :: rest =>
    if c = mark ∧ (d :: rest).getLast? = some mark ∧ !rest.isEmpty then (d :: rest).dropLast else s
  | _ => s

/-- The items of a bracketed list.  Empty items are dropped, and of each item one layer of double
quotes and then one of single quotes. -/
def bracketList (value : List Char) : List String :=
  match bracketed? value with
  | none => []
  | some inner =>
    (splitAt ',' (trim inner)).filterMap fun piece =>
      let item := trim piece
      if item.isEmpty then none else some (String.ofList (unwrap '\'' (unwrap '"' item)))

/-- A text without its quotes, if it is one quoted text and holds no further quote of the kind. -/
def unquote (mark : Char) (s : List Char) : Option (List Char) :=
  match s with
  | c :: rest =>
    if c = mark then
      match cutFirst? mark rest with
      | some (inner, []) => if inner.isEmpty then none else some inner
      | _ => none
    else none
  | [] => none

/-- A scalar, with or without quotes; nothing if it is blank. -/
def quotedOrBare (value : List Char) : Option String :=
  let s := trim value
  let inner := trim (((unquote '"' s).orElse fun _ => unquote '\'' s).getD s)
  if inner.isEmpty then none else some (String.ofList inner)

end IntentSpec.Document
