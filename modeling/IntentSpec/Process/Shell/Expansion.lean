import IntentSpec.Process.Calculation
import IntentSpec.Process.Pattern
import IntentSpec.Process.Run
import IntentSpec.Text.Character

/-!
# What words become

In a word, values take the place of parameters, of the outputs of scripts and of calculations.  A value
that is not in quotes is then cut into fields, so that a word may become several or none.

## Main definitions

* `Shell.Part` — a part of what a word becomes.
* `Shell.parameter?` — the value of a parameter.
* `Shell.expand` — the parts that a word becomes.
* `Shell.fieldsOf` — the fields that parts are cut into.
* `Shell.fields`, `Shell.text`, `Shell.pattern` — words as fields, as one text and as a pattern.
-/

namespace IntentSpec.Shell

open Text Script

/-- A part of what a word becomes. -/
inductive Part where
  /-- A character, which may be in quotes, and which may separate fields. -/
  | char (c : Char) (quoted splits : Bool)
  /-- Quotes, perhaps with nothing between them. -/
  | quotes
  | gap
deriving DecidableEq, Repr

/-- A process and what words have become in it. -/
abbrev Expanded := Run × List Part

/-- Characters of which none separates fields. -/
def solid (quoted : Bool) (s : List Char) : List Part := s.map fun c => .char c quoted false

/-- The parts that a value becomes. -/
def valueParts (quoted : Bool) (s : List Char) : List Part :=
  if quoted then .quotes :: solid true s else s.map fun c => .char c false true

/-- The text of parts. -/
def textOf (parts : List Part) : List Char :=
  parts.flatMap fun
    | .char c _ _ => [c]
    | .quotes => []
    | .gap => [' ']

/-! ## Parameters -/

/-- What stands for the number of the process itself. -/
def self : List Char := ['$', '$']

/-- The value of a parameter, if it is set. -/
def parameter? (r : Run) (name : List Char) : Option (List Char) :=
  match name with
  | ['?'] => some (toString r.status).toList
  | ['$'] => some self
  | ['#'] => some (toString r.arguments.length).toList
  | ['-'] => some r.options
  | ['!'] => none
  | ['@'] | ['*'] =>
    if r.arguments.isEmpty then none else some (" ".intercalate r.arguments).toList
  | c :: _ =>
    if isAsciiDigit c then
      match (String.ofList name).toNat? with
      | some 0 => some r.name.toList
      | some n => (r.arguments[n - 1]?).map String.toList
      | none => none
    else (r.value? (String.ofList name)).map String.toList
  | [] => none

/-- The parts that all arguments become. -/
def argumentParts (r : Run) (joined quoted : Bool) : List Part :=
  let arguments := r.arguments.map String.toList
  if joined && quoted then
    let separator := r.separators.head?.toList
    .quotes :: solid true (separator.intercalate arguments)
  else [Part.gap].intercalate (arguments.map (valueParts quoted))

/-- The parts that a parameter becomes as it is; one that is not set may be a fault. -/
def plainParts (r : Run) (name : List Char) (quoted : Bool) : Expanded :=
  if name = ['@'] ∨ name = ['*'] then (r, argumentParts r (name == ['*']) quoted)
  else
    match parameter? r name with
    | some value => (r, valueParts quoted value)
    | none =>
      if r.options.contains 'u' then (r.abort (String.ofList name ++ ": parameter not set"), [])
      else (r, valueParts quoted [])

/-- The word that a text is, in quotes or outside them. -/
def readWord (quoted : Bool) (text : List Char) : Word :=
  ((if quoted then quotedWord escapable text else wholeWord text).toOption).getD []

/-- The pattern that parts are. -/
def patternOf (parts : List Part) : Pattern :=
  Pattern.read <| parts.filterMap fun
    | .char c quoted _ => some (c, quoted)
    | .quotes | .gap => none

/-- The parts that a parameter becomes, given how words are expanded. -/
def parameterParts (expand : Word → Run → Expanded) (name : List Char) (use : Use) (word : List Char)
    (quoted : Bool) (r : Run) : Expanded :=
  let value := parameter? r name
  let isSet (alsoEmpty : Bool) : Bool := value.any fun s => !(alsoEmpty && s.isEmpty)
  let instead (r : Run) : Expanded := expand (readWord quoted word) r
  match use with
  | .value => plainParts r name quoted
  | .size =>
    let n := if name = ['@'] ∨ name = ['*'] then r.arguments.length else (value.getD []).length
    (r, valueParts quoted (toString n).toList)
  | .fallback alsoEmpty => if isSet alsoEmpty then plainParts r name quoted else instead r
  | .assign alsoEmpty =>
    if isSet alsoEmpty then plainParts r name quoted
    else
      let (r, parts) := instead r
      (r.assign (String.ofList name) (String.ofList (textOf parts)), valueParts quoted (textOf parts))
  | .demand alsoEmpty =>
    if isSet alsoEmpty then plainParts r name quoted
    else
      let (r, parts) := instead r
      let message := if word.isEmpty then
          "parameter not set" ++ (if alsoEmpty then " or null" else "")
        else String.ofList (textOf parts)
      (r.abort (String.ofList name ++ ": " ++ message), [])
  | .replace alsoEmpty => if isSet alsoEmpty then instead r else (r, valueParts quoted [])
  | .withoutFront longest =>
    let (r, parts) := expand (readWord false word) r
    (r, valueParts quoted ((patternOf parts).withoutFront longest (value.getD [])))
  | .withoutBack longest =>
    let (r, parts) := expand (readWord false word) r
    (r, valueParts quoted ((patternOf parts).withoutBack longest (value.getD [])))

/-! ## Words -/

/-- The parts that a calculation becomes, given how words are expanded. -/
def calculationParts (expand : Word → Run → Expanded) (text : List Char) (quoted : Bool) (r : Run) :
    Expanded :=
  let (r, parts) := expand (readWord true text) r
  let text := textOf parts
  let look (name : String) : List Char := ((r.value? name).getD "").toList
  match (Calculation.read text).bind (Calculation.value look []) with
  | .error fault => (r.abort (fault.message (String.ofList text)), [])
  | .ok (n, set) =>
    (set.reverse.foldl (fun r (name, n) => r.assign name (toString n)) r,
      valueParts quoted (toString n).toList)

/-- The parts that a piece becomes, given how words are expanded and how the output of a script is
found. -/
def pieceParts (expand : Word → Run → Expanded) (output : List Char → Run → Run × List Char)
    (piece : Piece) (r : Run) : Expanded :=
  match piece with
  | .literal s quoted => (r, if quoted then .quotes :: solid true s else solid false s)
  | .parameter name use word quoted => parameterParts expand name use word quoted r
  | .output script quoted =>
    let (r, text) := output script r
    (r, valueParts quoted text)
  | .calculation text quoted => calculationParts expand text quoted r
  | .nameless => (r.abort "Bad substitution", [])

/-- The parts that a word becomes, with words inside words up to a given depth. -/
def expandUpTo (output : List Char → Run → Run × List Char) : Nat → Word → Run → Expanded
  | 0, _, r => (r, [])
  | depth + 1, w, r =>
    w.foldl (fun (r, parts) piece =>
      if r.jump.isSome then (r, parts)
      else
        let (r, more) := pieceParts (expandUpTo output depth) output piece r
        (r, parts ++ more)) (r, [])

/-- How deep words stand in words at most. -/
def depth : Nat := 64

/-- The parts that a word becomes, given how the output of a script is found. -/
def expand (output : List Char → Run → Run × List Char) (w : Word) (r : Run) : Expanded :=
  expandUpTo output depth w r

/-- The word with the home directory in the place of a tilde in front. -/
def withHome (r : Run) (w : Word) : Word :=
  match w, r.value? "HOME" with
  | .literal ('~' :: s) false :: rest, some home =>
    if s.head? = some '/' ∨ (s.isEmpty ∧ rest.isEmpty) then
      .literal home.toList true :: .literal s false :: rest
    else w
  | _, _ => w

/-! ## Fields -/

/-- The fields that are cut, last first, and the one that has begun. -/
structure Cut where
  done : List (List Char) := []
  /-- The characters of the field that has begun, last first. -/
  begun : Option (List Char) := none
  /-- Whether a field has just been ended by a blank. -/
  blank : Bool := false

/-- Ends the field that has begun. -/
def Cut.close (cut : Cut) : Cut :=
  match cut.begun with
  | some s => { done := s.reverse :: cut.done }
  | none => { cut with blank := false }

/-- Takes over a part. -/
def Cut.take (separators : List Char) (cut : Cut) : Part → Cut
  | .char c _ splits =>
    if splits && separators.contains c then
      if c = ' ' ∨ c = '\t' ∨ c = '\n' then
        if cut.begun.isSome then { cut.close with blank := true } else cut
      else if cut.begun.isSome then cut.close
      else if cut.blank then { cut with blank := false }
      else { cut with done := [] :: cut.done }
    else { cut with begun := some (c :: cut.begun.getD []), blank := false }
  | .quotes => { cut with begun := some (cut.begun.getD []), blank := false }
  | .gap => cut.close

/-- The fields that parts are cut into. -/
def fieldsOf (separators : List Char) (parts : List Part) : List (List Char) :=
  (parts.foldl (Cut.take separators) {}).close.done.reverse

/-- The fields that words become. -/
def fields (output : List Char → Run → Run × List Char) (words : List Word) (r : Run) :
    Run × List (List Char) :=
  words.foldl (fun (r, found) w =>
    if r.jump.isSome then (r, found)
    else
      let (r, parts) := expand output (withHome r w) r
      (r, found ++ fieldsOf r.separators parts)) (r, [])

/-- The text that a word becomes without being cut. -/
def text (output : List Char → Run → Run × List Char) (w : Word) (r : Run) : Run × List Char :=
  let (r, parts) := expand output (withHome r w) r
  (r, textOf parts)

/-- The pattern that a word becomes. -/
def pattern (output : List Char → Run → Run × List Char) (w : Word) (r : Run) : Run × Pattern :=
  let (r, parts) := expand output (withHome r w) r
  (r, patternOf parts)

end IntentSpec.Shell
