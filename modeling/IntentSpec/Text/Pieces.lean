import IntentSpec.Text.Character

/-!
# Lines, words and pieces

The ways in which a text is cut.  A document is cut into lines at each line feed, a carriage return
right before it going with it; everything else that ends a line elsewhere is an ordinary character of
such a line.  The raw text of one section is read again more generously, at every line boundary of
Unicode.

## Main definitions

* `Text.lines` — the lines of a document.
* `Text.paragraphs` — the lines of a text under every line boundary.
* `Text.words` — the maximal runs without blanks.
* `Text.splitAt` — the pieces between separators.
* `Text.cutFirst?`, `Text.cutLast?` — cutting at the first or the last occurrence of a character.
* `Text.occurs` — whether a text stands somewhere in another.
-/

namespace IntentSpec.Text

/-- Puts a character in front of the first piece. -/
def prepend (c : Char) : List (List Char) → List (List Char)
  | [] => [[c]]
  | piece :: pieces => (c :: piece) :: pieces

/-- The lines of a document.  There is always one more line than there are line feeds. -/
def lines : List Char → List (List Char)
  | [] => [[]]
  | c :: s =>
    if c = '\n' then [] :: lines s
    else if c = '\r' ∧ s.head? = some '\n' then lines s
    else prepend c (lines s)

/-- The pieces between the occurrences of a separator, empty ones included. -/
def splitAt (separator : Char) : List Char → List (List Char)
  | [] => [[]]
  | c :: s => if c = separator then [] :: splitAt separator s else prepend c (splitAt separator s)

/-- The maximal runs of characters that are not blank. -/
def words : List Char → List (List Char)
  | [] => []
  | c :: s =>
    if isBlank c then words s
    else if s.head?.all isBlank then [c] :: words s
    else prepend c (words s)

/-- Whether the character ends a line when every line boundary counts. -/
def isLineBoundary (c : Char) : Bool :=
  inIntervals c.toNat [(0x0a, 0x0d), (0x1c, 0x1e), (0x85, 0x85), (0x2028, 0x2029)]

/-- The lines of a text under every line boundary.  A boundary ends a line and does not open one, and
a carriage return followed by a line feed is one boundary. -/
def paragraphs : List Char → List (List Char)
  | [] => []
  | c :: s =>
    if c = '\r' ∧ s.head? = some '\n' then paragraphs s
    else if isLineBoundary c then [] :: paragraphs s
    else prepend c (paragraphs s)

/-- What stands before the first occurrence of a character, and what stands after it. -/
def cutFirst? (mark : Char) : List Char → Option (List Char × List Char)
  | [] => none
  | c :: s =>
    if c = mark then some ([], s)
    else (cutFirst? mark s).map fun (front, back) => (c :: front, back)

/-- What stands before the last occurrence of a character, and what stands after it. -/
def cutLast? (mark : Char) : List Char → Option (List Char × List Char)
  | [] => none
  | c :: s =>
    match cutLast? mark s with
    | some (front, back) => some (c :: front, back)
    | none => if c = mark then some ([], s) else none

/-! ## Occurrences -/

/-- Whether a text stands somewhere in another. -/
def occurs (needle : List Char) : List Char → Bool
  | [] => needle.isEmpty
  | c :: s => needle.isPrefixOf (c :: s) || occurs needle s

end IntentSpec.Text
