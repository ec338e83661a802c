import IntentSpec.Text.Character

/-!
# The words of a script

A word is read into pieces: characters that stand for themselves, and what is put in the place of a
parameter, of the output of a command or of a calculation.  A piece knows whether it stands in quotes.
What stands between braces or parentheses is only marked off, and is read when its value is needed.

## Main definitions

* `Script.Use`, `Script.Piece`, `Script.Word` — the parts of a word.
* `Script.Fault`, `Script.Fault.message` — why a script cannot be read.
* `Script.enclosed?` — the text up to the end of an enclosure, whatever is nested in it.
* `Script.quotedWord`, `Script.wholeWord`, `Script.wordFrom` — words between quotes and outside them.
-/

namespace IntentSpec.Script

open Text

/-- How the value of a parameter is used. -/
inductive Use where
  | value
  | size
  /-- A word takes its place if it is not set, or perhaps if it is empty. -/
  | fallback (alsoEmpty : Bool)
  /-- A word takes its place, and becomes its value. -/
  | assign (alsoEmpty : Bool)
  | demand (alsoEmpty : Bool)
  /-- A word takes its place if it is set. -/
  | replace (alsoEmpty : Bool)
  /-- What a pattern matches in front is left out. -/
  | withoutFront (longest : Bool)
  /-- What a pattern matches at the end is left out. -/
  | withoutBack (longest : Bool)
deriving DecidableEq, Repr

/-- A part of a word. -/
inductive Piece where
  | literal (s : List Char) (quoted : Bool)
  /-- A parameter and its use, with the word that goes with it. -/
  | parameter (name : List Char) (use : Use) (word : List Char) (quoted : Bool)
  | output (script : List Char) (quoted : Bool)
  | calculation (text : List Char) (quoted : Bool)
  /-- Braces in which no parameter is named. -/
  | nameless
deriving DecidableEq, Repr

/-- A word. -/
abbrev Word := List Piece

/-- Why a script cannot be read. -/
inductive Fault where
  | quote
  /-- An output between grave accents does not end. -/
  | accent
  | brace
  | calculation
  /-- What is found is not what may stand there. -/
  | unexpected (found : String) (expected : Option String)
  /-- A function cannot have that name. -/
  | functionName
  /-- A loop cannot go over a variable of that name. -/
  | loopVariable
deriving DecidableEq, Repr

/-- The wording of a fault. -/
def Fault.message : Fault → String
  | quote => "Unterminated quoted string"
  | accent => "EOF in backquote substitution"
  | brace => "Missing '\x7d'"
  | calculation => "Missing '))'"
  | unexpected found expected => found ++ " unexpected" ++
      (match expected with
        | some word => " (expecting " ++ word ++ ")"
        | none => "")
  | functionName => "Bad function name"
  | loopVariable => "Bad for loop variable"

/-! ## Enclosures -/

/-- What encloses a text. -/
inductive Enclosure where
  | escape
  /-- A dollar sign, after which an enclosure may begin. -/
  | dollar
  | single
  | double
  | accents
  | parentheses
  | braces (quoted : Bool)
deriving DecidableEq, Repr

namespace Enclosure

/-- The enclosures after a character that ends the innermost one or begins another. -/
def next : List Enclosure → Char → List Enclosure
  | [], _ => []
  | escape :: outer, _ => outer
  | dollar :: outer, _ => outer
  | single :: outer, c => if c = '\'' then outer else single :: outer
  | accents :: outer, c =>
    if c = '\x60' then outer else if c = '\\' then escape :: accents :: outer else accents :: outer
  | inner :: outer, c =>
    let stack := inner :: outer
    let quotes : Bool := inner = double ∨ inner = braces true
    if c = (match inner with
      | double => '"'
      | parentheses => ')'
      | _ => '\x7d') then outer
    else if c = '\\' then escape :: stack
    else if c = '$' then dollar :: stack
    else if c = '\x60' then accents :: stack
    else if c = '"' then double :: stack
    else if c = '\'' ∧ !quotes then single :: stack
    else if c = '(' ∧ inner = parentheses then parentheses :: stack
    else stack

/-- The enclosures after a character, which may belong to a dollar sign before it. -/
def after : List Enclosure → Char → List Enclosure
  | dollar :: outer, c =>
    if c = '(' then parentheses :: outer
    else if c = '\x7b' then
      braces (outer.head? == some double || outer.head? == some (braces true)) :: outer
    else next outer c
  | stack, c => next stack c

end Enclosure

/-- The text up to the end of enclosures, and what follows; `front` has been read, last first. -/
def enclosed? (stack : List Enclosure) (front : List Char) :
    List Char → Option (List Char × List Char)
  | [] => none
  | c :: s =>
    match Enclosure.after stack c with
    | [] => some (front.reverse, s)
    | stack => enclosed? stack (c :: front) s

/-! ## Parameters -/

/-- Whether the character is a parameter of its own. -/
def isSpecial (c : Char) : Bool := ['@', '*', '#', '?', '$', '!', '-'].contains c

/-- Whether the text is the name of a variable. -/
def isName : List Char → Bool
  | [] => false
  | c :: s => (isAsciiLetter c || c == '_') && s.all isAsciiWord

/-- The name of a parameter at the front of a text, and the rest. -/
def nameFrom? : List Char → Option (List Char × List Char)
  | [] => none
  | c :: s =>
    if isAsciiLetter c || c == '_' then some (c :: s.takeWhile isAsciiWord, s.dropWhile isAsciiWord)
    else if isAsciiDigit c then some (c :: s.takeWhile isAsciiDigit, s.dropWhile isAsciiDigit)
    else if isSpecial c then some ([c], s)
    else none

/-- The use of a parameter and the word that goes with it, given what follows the name. -/
def useOf? : List Char → Option (Use × List Char)
  | [] => some (.value, [])
  | ':' :: '-' :: w => some (.fallback true, w)
  | '-' :: w => some (.fallback false, w)
  | ':' :: '=' :: w => some (.assign true, w)
  | '=' :: w => some (.assign false, w)
  | ':' :: '?' :: w => some (.demand true, w)
  | '?' :: w => some (.demand false, w)
  | ':' :: '+' :: w => some (.replace true, w)
  | '+' :: w => some (.replace false, w)
  | '#' :: '#' :: w => some (.withoutFront true, w)
  | '#' :: w => some (.withoutFront false, w)
  | '%' :: '%' :: w => some (.withoutBack true, w)
  | '%' :: w => some (.withoutBack false, w)
  | _ => none

/-- The parameter that stands between braces. -/
def braced (quoted : Bool) (text : List Char) : Piece :=
  let used (name rest : List Char) : Piece :=
    match useOf? rest with
    | some (use, word) => .parameter name use word quoted
    | none => .nameless
  match text with
  | '#' :: c :: rest =>
    match nameFrom? (c :: rest) with
    | some (name, []) => .parameter name .size [] quoted
    | _ => used ['#'] (c :: rest)
  | _ =>
    match nameFrom? text with
    | some (name, rest) => used name rest
    | none => .nameless

/-- The calculation between two pairs of parentheses, if the text between the outer ones is one. -/
def calculationText? : List Char → Option (List Char)
  | '(' :: s =>
    match enclosed? [.parentheses] [] s with
    | some (text, []) => some text
    | _ => none
  | _ => none

/-- The piece that a dollar sign begins, given what follows the sign, and the rest. -/
def afterDollar (quoted : Bool) (s : List Char) : Except Fault (Piece × List Char) :=
  match s with
  | '(' :: s =>
    match enclosed? [.parentheses] [] s with
    | none =>
      .error (if s.head? = some '(' then .calculation else .unexpected "end of file" (some "\")\""))
    | some (text, rest) =>
      match calculationText? text with
      | some text => .ok (.calculation text quoted, rest)
      | none => .ok (.output text quoted, rest)
  | '\x7b' :: s =>
    match enclosed? [.braces quoted] [] s with
    | none => .error .brace
    | some (text, rest) => .ok (braced quoted text, rest)
  | c :: rest =>
    if isAsciiLetter c || c == '_' then
      .ok (.parameter (s.takeWhile isAsciiWord) .value [] quoted, s.dropWhile isAsciiWord)
    else if isAsciiDigit c || isSpecial c then .ok (.parameter [c] .value [] quoted, rest)
    else .ok (.literal ['$'] quoted, s)
  | [] => .ok (.literal ['$'] quoted, [])

/-- The script between grave accents, in which a backslash may stand before a few characters. -/
def unaccented (quoted : Bool) : List Char → List Char
  | '\\' :: c :: s =>
    if ['\x60', '\\', '$'].contains c || (quoted && c == '"') then c :: unaccented quoted s
    else '\\' :: c :: unaccented quoted s
  | c :: s => c :: unaccented quoted s
  | [] => []

/-- The output between grave accents, given what follows the first one, and the rest. -/
def afterAccent (quoted : Bool) (s : List Char) : Except Fault (Piece × List Char) :=
  match enclosed? [.accents] [] s with
  | some (text, rest) => .ok (.output (unaccented quoted text) quoted, rest)
  | none => .error .accent

/-! ## Words -/

/-- Puts characters in front of a word. -/
def literally (s : List Char) (quoted : Bool) : Word → Word
  | .literal t q :: w =>
    if q = quoted then .literal (s ++ t) q :: w else .literal s quoted :: .literal t q :: w
  | w => .literal s quoted :: w

/-- The characters that a backslash escapes between double quotes. -/
def escapable : List Char := ['$', '\x60', '"', '\\']

/-- A word between quotes, given the characters that a backslash escapes and how many steps are made at
most.  Where double quotes can be escaped, those that are not have no meaning any more. -/
def quotedUpTo (escapable : List Char) : Nat → List Char → Except Fault Word
  | 0, _ => .ok []
  | _, [] => .ok []
  | fuel + 1, c :: s =>
    match c, s with
    | '\\', d :: rest => do
      let w ← quotedUpTo escapable fuel rest
      return if d = '\n' then w
        else if escapable.contains d then literally [d] true w else literally ['\\', d] true w
    | '$', _ => do
      let (piece, rest) ← afterDollar true s
      let w ← quotedUpTo escapable fuel rest
      return match piece with
        | .literal t q => literally t q w
        | piece => piece :: w
    | '\x60', _ => do
      let (piece, rest) ← afterAccent true s
      return piece :: (← quotedUpTo escapable fuel rest)
    | '"', _ => do
      let w ← quotedUpTo escapable fuel s
      return if escapable.contains '"' then w else literally ['"'] true w
    | c, _ => do return literally [c] true (← quotedUpTo escapable fuel s)

/-- The word that a text between quotes is. -/
def quotedWord (escapable s : List Char) : Except Fault Word := quotedUpTo escapable (s.length + 1) s

/-- A word up to a character that ends it, and the rest, given how many steps are made at most. -/
def wordUpTo (ends : Char → Bool) : Nat → List Char → Except Fault (Word × List Char)
  | 0, s => .ok ([], s)
  | _, [] => .ok ([], [])
  | fuel + 1, c :: s =>
    let go (front : Word → Word) (rest : List Char) : Except Fault (Word × List Char) := do
      let (w, rest) ← wordUpTo ends fuel rest
      return (front w, rest)
    match c, s with
    | '\\', d :: rest => go (if d = '\n' then id else literally [d] true) rest
    | '\'', _ =>
      match enclosed? [.single] [] s with
      | some (text, rest) => go (literally text true) rest
      | none => .error .quote
    | '"', _ =>
      match enclosed? [.double] [] s with
      | some ([], rest) => go (literally [] true) rest
      | some (text, rest) => do
        let inner ← quotedWord escapable text
        go (inner ++ ·) rest
      | none => .error .quote
    | '$', _ => do
      match ← afterDollar false s with
      | (.literal t q, rest) => go (literally t q) rest
      | (piece, rest) => go (piece :: ·) rest
    | '\x60', _ => do
      let (piece, rest) ← afterAccent false s
      go (piece :: ·) rest
    | c, _ => if ends c then .ok ([], c :: s) else go (literally [c] false) s

/-- Whether the character ends a word. -/
def endsWord (c : Char) : Bool := [' ', '\t', '\n', ';', '&', '|', '<', '>', '(', ')'].contains c

/-- The word at the front of a text, and the rest. -/
def wordFrom (s : List Char) : Except Fault (Word × List Char) := wordUpTo endsWord (s.length + 1) s

/-- The word that a whole text outside quotes is. -/
def wholeWord (s : List Char) : Except Fault Word := do
  return (← wordUpTo (fun _ => false) (s.length + 1) s).1

/-- The characters of a word without the values that are put into it. -/
def plainText (w : Word) : List Char :=
  w.flatMap fun
    | .literal s _ => s
    | _ => []

/-- The text of a word that is a single piece outside quotes. -/
def bareText? : Word → Option String
  | [.literal s false] => some (String.ofList s)
  | _ => none

end IntentSpec.Script
