import IntentSpec.Hostname.Composed
import IntentSpec.Hostname.Direction
import IntentSpec.Hostname.Joining
import IntentSpec.Hostname.Lowered
import IntentSpec.Hostname.Punycode
import IntentSpec.Hostname.Valid
import IntentSpec.Text.Pieces
import IntentSpec.Text.Printable

/-!
# Names of hosts

A name is cut into labels at its dots, of which there are four kinds.  It may end in a dot.  A label is
composed text without hyphens at its ends or at the place of a mark for encoded labels, does not begin with
a mark, and has only characters that names may have, each in its context and all in one direction.  Nothing
is known about the direction of a code point that is not assigned, so a label with such a code point has
none.

## Main definitions

* `Hostname.Fault` — why a name is rejected.
* `Hostname.labelFault?` — what is wrong with a label.
* `Hostname.encodeLabel`, `Hostname.decodeLabel` — a label in ASCII, and read from ASCII.
* `Hostname.labels?` — the labels of a name, and whether it ends in a dot.
* `Hostname.toAscii?` — a name in ASCII.
* `Hostname.toUnicode` — a name with encoded labels decoded.
-/

namespace IntentSpec.Hostname

/-! ## Labels -/

/-- Why a name is rejected. -/
inductive Fault where
  /-- The name or a label of it is malformed. -/
  | malformed
  /-- A label has a character that no name may have. -/
  | codePoint
  /-- A label has a character in a place where it may not stand. -/
  | context
  /-- A label mixes directions of writing. -/
  | direction
deriving DecidableEq, Repr

/-- The length of a name with a dot at its end, at most. -/
def maxName : Nat := 254

/-- The length of a label, at most. -/
def maxLabel : Nat := 63

/-- The hyphen. -/
def hyphen : Nat := 0x2d

/-- What is wrong with a character of a label, given what stands before it, nearest first, and what stands
after it. -/
def pointFault? (before : List Nat) (n : Nat) (after : List Nat) : Option Fault :=
  if isValid n then none
  else if isJoiner n then
    if fitsJoiner n before after then none
    else if hidesJoiner before then some .malformed else some .context
  else if needsContext n then if fitsContext n before after then none else some .context
  else some .codePoint

/-- What is wrong with the characters of a label, the first fault first. -/
def pointsFault? (before : List Nat) : List Nat → Option Fault
  | [] => none
  | n :: after => (pointFault? before n after).or (pointsFault? (n :: before) after)

/-- Whether hyphens stand where none may stand. -/
def misplacesHyphen (label : List Nat) : Bool :=
  (label.drop 2).take 2 == [hyphen, hyphen] || label.head? == some hyphen ||
    label.getLast? == some hyphen

/-- What is wrong with a label. -/
def labelFault? (label : List Nat) : Option Fault :=
  if label.isEmpty || maxName < label.length || !isComposed label || misplacesHyphen label ||
      label.head?.any isMark then
    some .malformed
  else if !label.all Text.isAssigned then some .direction
  else (pointsFault? [] label).or (if keepsDirection label then none else some .direction)

/-- A label with nothing wrong. -/
def checkedLabel (label : List Nat) : Except Fault (List Nat) :=
  match labelFault? label with
  | some fault => .error fault
  | none => .ok label

/-- What marks an encoded label. -/
def encodedMark : List Char := "xn--".toList

/-- A label that digits stand for, which have to be those that encoding it gives. -/
def fromDigits (digits : List Char) : Except Fault (List Nat) := do
  match Punycode.decode? digits with
  | none => throw .malformed
  | some points =>
    let label ← checkedLabel points
    if Punycode.encode label == digits then return label else throw .malformed

/-- Reads a label from ASCII in small letters. -/
def decodeLabel (label : List Char) : Except Fault (List Nat) :=
  if encodedMark.isPrefixOf label then
    let digits := label.drop encodedMark.length
    if digits.isEmpty || digits.getLast? == some '-' then .error .malformed else fromDigits digits
  else checkedLabel (label.map Char.toNat)

/-- A label in ASCII. -/
def encodeLabel (label : List Char) : Except Fault (List Char) := do
  let ascii ←
    if label.all fun c => c.toNat < Punycode.firstBeyond then do
      let _ ← decodeLabel label
      pure label
    else do
      let points ← checkedLabel (label.map Char.toNat)
      pure (encodedMark ++ Punycode.encode points)
  if maxLabel < ascii.length then throw .malformed else return ascii

open Text

/-! ## Names -/

/-- The dots. -/
def dots : List Char := ['.', '\u3002', '\uff0e', '\uff61']

/-- The labels of a name, and whether it ends in a dot; there are none in an empty or an overlong name. -/
def labels? (name : List Char) : Option (List (List Char) × Bool) :=
  if name.isEmpty || maxName < name.length then none
  else
    let labels := splitAt '.' (name.map fun c => if dots.contains c then '.' else c)
    if labels.getLast? = some [] then some (labels.dropLast, true) else some (labels, false)

/-- The name of labels. -/
def join (labels : List (List Char)) (finalDot : Bool) : List Char :=
  ['.'].intercalate (if finalDot then labels ++ [[]] else labels)

/-- A name in ASCII, if it is a name. -/
def toAscii? (name : List Char) : Option (List Char) := do
  let (labels, finalDot) ← labels? name
  let ascii := join (← (labels.mapM encodeLabel).toOption) finalDot
  if (if finalDot then maxName else maxName - 1) < ascii.length then none else some ascii

/-- A name in ASCII with encoded labels decoded. -/
def toUnicode (name : List Char) : Except Fault (List Char) := do
  match labels? name with
  | none => throw .malformed
  | some (labels, finalDot) =>
    let decoded ← labels.mapM decodeLabel
    return join (decoded.map fun label => label.map Char.ofNat) finalDot

end IntentSpec.Hostname
