import IntentSpec.Process.Script.Word

/-!
# The tokens of a script

A script is cut into words, marks and redirections, each with the number of its line.  The lines that a
command reads from the script itself stand after the line of the command; they become part of the token
that asks for them.

## Main definitions

* `Script.Mark`, `Script.Direction`, `Script.Token` — what a script consists of.
* `Script.tokens` — the tokens of a script.
* `Redirection` — where a descriptor of a command leads.
* `Script` — commands and how they are put together.
-/

namespace IntentSpec.Script

open Text

/-- A mark between commands. -/
inductive Mark where
  | newline
  | semicolon
  | doubleSemicolon
  | ampersand
  | doubleAmpersand
  | bar
  | doubleBar
  | opening
  | closing
deriving DecidableEq, Repr

/-- How a mark is shown in a message. -/
def Mark.shown : Mark → String
  | newline => "newline"
  | semicolon => "\";\""
  | doubleSemicolon => "\";;\""
  | ampersand => "\"&\""
  | doubleAmpersand => "\"&&\""
  | bar => "\"|\""
  | doubleBar => "\"||\""
  | opening => "\"(\""
  | closing => "\")\""

/-- What a redirection does with a file or another descriptor. -/
inductive Direction where
  | read
  | write
  /-- It is written at its end. -/
  | append
  | duplicate
deriving DecidableEq, Repr

/-- A token of a script. -/
inductive Token where
  | word (w : Word)
  | mark (m : Mark)
  /-- A redirection of a descriptor, whose target is the next word. -/
  | redirect (descriptor : Nat) (direction : Direction)
  /-- Lines that are read from a descriptor, in which parameters may be replaced. -/
  | here (descriptor : Nat) (body : List Char) (replaced : Bool)
  /-- The script cannot be read any further. -/
  | broken (fault : Fault)
  | finish
deriving DecidableEq, Repr

/-- The lines that are asked for in a line. -/
structure Requested where
  last : List Char
  /-- Whether tabulators in front of lines are left out. -/
  stripped : Bool
deriving DecidableEq, Repr

/-- The line at the front of a text, its end, and the rest. -/
def cutLine (s : List Char) : List Char × List Char × List Char :=
  let after := s.dropWhile (· != '\n')
  (s.takeWhile (· != '\n'), after.take 1, after.drop 1)

/-- The lines that are asked for, and the rest of the text, given how many lines are read at most. -/
def Requested.bodyUpTo (wanted : Requested) : Nat → List Char → List Char × List Char
  | 0, s => ([], s)
  | fuel + 1, s =>
    if s.isEmpty then ([], [])
    else
      let (line, ending, rest) := cutLine s
      let line := if wanted.stripped then line.dropWhile (· == '\t') else line
      if line = wanted.last then ([], rest)
      else
        let (body, rest) := wanted.bodyUpTo fuel rest
        (line ++ ending ++ body, rest)

/-- The lines that are asked for one after the other, and the rest of the text. -/
def bodies : List Requested → List Char → List (List Char) × List Char
  | [], s => ([], s)
  | wanted :: more, s =>
    let (body, rest) := wanted.bodyUpTo (s.length + 1) s
    let (others, rest) := bodies more rest
    (body :: others, rest)

/-- What an operator is. -/
inductive Operator where
  | mark (m : Mark)
  | direction (d : Direction)
  | lines (stripped : Bool)

/-- The operators with their standard descriptors, longer ones first. -/
def operators : List (String × Operator × Nat) :=
  [("<<-", .lines true, 0), ("<<", .lines false, 0), ("<&", .direction .duplicate, 0),
   ("<>", .direction .read, 0), ("<", .direction .read, 0), (">>", .direction .append, 1),
   (">&", .direction .duplicate, 1), (">|", .direction .write, 1), (">", .direction .write, 1),
   ("&&", .mark .doubleAmpersand, 0), ("&", .mark .ampersand, 0), ("||", .mark .doubleBar, 0),
   ("|", .mark .bar, 0), (";;", .mark .doubleSemicolon, 0), (";", .mark .semicolon, 0),
   ("(", .mark .opening, 0), (")", .mark .closing, 0)]

/-- The operator at the front of a text with its standard descriptor, and the rest. -/
def operator? (s : List Char) : Option (Operator × Nat × List Char) :=
  operators.findSome? fun (text, operator, descriptor) =>
    (dropWord? text.toList s).map fun rest => (operator, descriptor, rest)

/-- The descriptor that a word right before a redirection names. -/
def descriptor? (w : Word) (rest : List Char) : Option Nat :=
  match w, rest with
  | [.literal [c] false], next :: _ =>
    if isAsciiDigit c && (next == '<' || next == '>') then some (c.toNat - 48) else none
  | _, _ => none

/-- Puts the lines that were asked for into the tokens that ask for them. -/
def fill : List (Nat × Token) → List (List Char) → List (Nat × Token)
  | (line, .here descriptor _ replaced) :: tokens, body :: more =>
    (line, .here descriptor body replaced) :: fill tokens more
  | token :: tokens, more => token :: fill tokens more
  | [], _ => []

/-- The tokens of a text and the lines that they ask for, given how many tokens are read at most, the
number of the line, the lines asked for in this line so far, and the descriptor that has been named for
the next redirection. -/
def tokensUpTo : Nat → Nat → List Requested → Option Nat → List Char →
    List (Nat × Token) × List (List Char)
  | 0, line, _, _, _ => ([(line, .finish)], [])
  | _, line, wanted, _, [] => ([(line, .finish)], wanted.map fun _ => [])
  | fuel + 1, line, wanted, named, c :: s =>
    let add (token : Token) (tokens : List (Nat × Token) × List (List Char)) :=
      ((line, token) :: tokens.1, tokens.2)
    if c = ' ' ∨ c = '\t' then tokensUpTo fuel line wanted none s
    else if c = '\\' ∧ s.head? = some '\n' then tokensUpTo fuel (line + 1) wanted none s.tail
    else if c = '#' then tokensUpTo fuel line wanted none (s.dropWhile (· != '\n'))
    else if c = '\n' then
      let (read, rest) := bodies wanted s
      let passed := (s.take (s.length - rest.length)).count '\n'
      let (tokens, more) := tokensUpTo fuel (line + 1 + passed) [] none rest
      ((line, .mark .newline) :: tokens, read ++ more)
    else
      match operator? (c :: s) with
      | some (.mark m, _, rest) => add (.mark m) (tokensUpTo fuel line wanted none rest)
      | some (.direction d, standard, rest) =>
        add (.redirect (named.getD standard) d) (tokensUpTo fuel line wanted none rest)
      | some (.lines stripped, standard, rest) =>
        match wordFrom (rest.dropWhile fun c => c == ' ' || c == '\t') with
        | .error fault => ([(line, .broken fault)], [])
        | .ok ([], rest) => add (.redirect standard .read) (tokensUpTo fuel line wanted none rest)
        | .ok (w, rest) =>
          let replaced := w.all fun
            | .literal _ quoted => !quoted
            | _ => true
          let tokens := tokensUpTo fuel line (wanted ++ [⟨plainText w, stripped⟩]) none rest
          add (.here (named.getD standard) [] replaced) tokens
      | none =>
        match wordFrom (c :: s) with
        | .error fault => ([(line + s.count '\n', .broken fault)], [])
        | .ok (w, rest) =>
          match descriptor? w rest with
          | some descriptor => tokensUpTo fuel line wanted (some descriptor) rest
          | none =>
            let passed := ((c :: s).take (s.length + 1 - rest.length)).count '\n'
            let (tokens, more) := tokensUpTo fuel (line + passed) wanted none rest
            ((line, .word w) :: tokens, more)

/-- The tokens of a script. -/
def tokens (script : List Char) : List (Nat × Token) :=
  let (tokens, bodies) := tokensUpTo (script.length + 1) 1 [] none script
  fill tokens bodies

end IntentSpec.Script

namespace IntentSpec

/-! ## Scripts -/

open Script in
/-- Where a descriptor of a command leads. -/
inductive Redirection where
  /-- To a file, or to where another descriptor leads. -/
  | target (descriptor : Nat) (direction : Direction) (target : Word)
  /-- To lines of the script, in which parameters may be replaced. -/
  | lines (descriptor : Nat) (body : List Char) (replaced : Bool)
deriving DecidableEq, Repr

open Script in
/-- Commands and how they are put together. -/
inductive Script where
  | nothing
  /-- A command in a line, with the variables that are set for it. -/
  | simple (line : Nat) (assignments : List (String × Word)) (words : List Word)
      (redirections : List Redirection)
  | redirected (body : Script) (redirections : List Redirection)
  /-- Commands, the second of which reads what the first one writes. -/
  | pipe (first second : Script)
  /-- A command whose success counts as a failure, and the other way round. -/
  | not (body : Script)
  /-- A command, and another one if it succeeds. -/
  | both (first second : Script)
  /-- A command, and another one if it fails. -/
  | either (first second : Script)
  | sequence (first second : Script)
  /-- A command that is not waited for. -/
  | background (body : Script)
  /-- Commands in a process of their own. -/
  | apart (body : Script)
  /-- Commands on a condition, and others if it does not hold. -/
  | branch (condition positive negative : Script)
  /-- Commands as long as a condition holds, or until it holds. -/
  | loop (untilHeld : Bool) (condition body : Script)
  /-- Commands for each of several words in the place of a variable; without words, for each argument. -/
  | each (line : Nat) (name : String) (words : Option (List Word)) (body : Script)
  /-- The commands of the first case that a word matches. -/
  | choice (line : Nat) (word : Word) (cases : List (List Word × Script))
  /-- A function is given a name. -/
  | define (name : String) (body : Script)
deriving Repr

end IntentSpec
