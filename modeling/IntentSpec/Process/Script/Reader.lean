import IntentSpec.Process.Script.Token
import IntentSpec.Text.Pieces

/-!
# Reading scripts

A script is read line by line, so that what stands in front of a fault is carried out before the fault is
noticed.  Some words have a meaning where a command may begin; anywhere else they are words like others.

## Main definitions

* `Script.keyword?` — the word with a meaning that a token is.
* `Script.command`, `Script.list` — one command and several.
* `Script.Reading`, `Script.read` — the lines of a script up to a fault.
-/

namespace IntentSpec.Script

open Text

/-- What is left to read. -/
abbrev Tokens := List (Nat × Token)

/-- What comes of reading, or a fault and the line that it is in. -/
abbrev Attempt := Except (Nat × Fault)

/-! ## Tokens -/

/-- The words with a meaning. -/
def keywords : List String :=
  ["!", "case", "do", "done", "elif", "else", "esac", "fi", "for", "if", "in", "then", "until", "while",
   "\x7b", "\x7d"]

/-- The words that end several commands. -/
def closers : List String := ["do", "done", "elif", "else", "esac", "fi", "then", "\x7d"]

/-- The word with a meaning that the first token is. -/
def keyword? : Tokens → Option String
  | (_, .word w) :: _ => (bareText? w).filter keywords.contains
  | _ => none

/-- How the first token is shown in a message. -/
def shown (tokens : Tokens) : String :=
  match tokens with
  | (_, .word _) :: _ =>
    match keyword? tokens with
    | some word => "\"" ++ word ++ "\""
    | none => "word"
  | (_, .mark m) :: _ => m.shown
  | (_, .redirect ..) :: _ | (_, .here ..) :: _ => "redirection"
  | _ => "end of file"

/-- The first token is not what may stand there. -/
def fail {α : Type} (tokens : Tokens) (expected : Option String := none) : Attempt α :=
  match tokens with
  | (line, .broken fault) :: _ => .error (line, fault)
  | (line, _) :: _ => .error (line, .unexpected (shown tokens) expected)
  | [] => .error (1, .unexpected (shown []) expected)

/-- Skips the ends of lines. -/
def skipLines : Tokens → Tokens
  | (_, .mark .newline) :: tokens => skipLines tokens
  | tokens => tokens

/-- Skips a word with a meaning. -/
def expect (word : String) (tokens : Tokens) : Attempt Tokens :=
  if keyword? tokens = some word then .ok tokens.tail else fail tokens (some ("\"" ++ word ++ "\""))

/-- Skips a mark. -/
def expectMark (m : Mark) (tokens : Tokens) : Attempt Tokens :=
  if (tokens.head?.map (·.2)) = some (.mark m) then .ok tokens.tail else fail tokens (some m.shown)

/-- Whether the first token ends several commands. -/
def endsList (tokens : Tokens) : Bool :=
  match tokens with
  | (_, .mark .doubleSemicolon) :: _ | (_, .mark .closing) :: _ => true
  | _ => (keyword? tokens).any closers.contains

/-- The redirection at the front of tokens, if there is one. -/
def redirection? : Tokens → Option (Attempt (Redirection × Tokens))
  | (_, .redirect descriptor direction) :: (_, .word w) :: rest =>
    some (.ok (.target descriptor direction w, rest))
  | (_, .redirect ..) :: rest => some (fail rest)
  | (_, .here descriptor body replaced) :: rest => some (.ok (.lines descriptor body replaced, rest))
  | _ => none

/-- The redirections at the front of tokens, given how many are read at most. -/
def redirectionsUpTo : Nat → Tokens → Attempt (List Redirection × Tokens)
  | 0, tokens => .ok ([], tokens)
  | fuel + 1, tokens =>
    match redirection? tokens with
    | none => .ok ([], tokens)
    | some (.error fault) => .error fault
    | some (.ok (first, tokens)) => do
      let (more, tokens) ← redirectionsUpTo fuel tokens
      return (first :: more, tokens)

/-- The words at the front of tokens, and the rest. -/
def wordsFrom : Tokens → List Word × Tokens
  | (_, .word w) :: tokens =>
    let (words, rest) := wordsFrom tokens
    (w :: words, rest)
  | tokens => ([], tokens)

/-- The variable and the value that a word sets. -/
def assignment? : Word → Option (String × Word)
  | .literal s false :: w => do
    let (name, value) ← cutFirst? '=' s
    if isName name then some (String.ofList name, if value.isEmpty then w else .literal value false :: w)
    else none
  | _ => none

/-! ## Commands -/

/-- Commands whose descriptors lead elsewhere, if any of them does. -/
def directed (body : Script) (redirections : List Redirection) : Script :=
  if redirections.isEmpty then body else .redirected body redirections

/-- One command after another, if there is another. -/
def followedBy (first : Script) : Script → Script
  | .nothing => first
  | second => .sequence first second

/-- The commands that end the shell if they fail; no function has the name of one. -/
def special : List String :=
  [".", ":", "break", "continue", "eval", "exec", "exit", "export", "readonly", "return", "set", "shift",
   "times", "trap", "unset"]

/-- A command of words and redirections, given what has been read of it. -/
def simpleUpTo : Nat → Nat → List (String × Word) → List Word → List Redirection → Tokens →
    Attempt (Script × Tokens)
  | 0, line, assignments, words, redirections, tokens =>
    .ok (.simple line assignments words redirections, tokens)
  | fuel + 1, line, assignments, words, redirections, tokens =>
    match redirection? tokens with
    | some (.error fault) => .error fault
    | some (.ok (r, tokens)) =>
      simpleUpTo fuel line assignments words (redirections ++ [r]) tokens
    | none =>
      match tokens with
      | (_, .word w) :: rest =>
        match words, assignment? w with
        | [], some a => simpleUpTo fuel line (assignments ++ [a]) [] redirections rest
        | _, _ => simpleUpTo fuel line assignments (words ++ [w]) redirections rest
      | _ => .ok (.simple line assignments words redirections, tokens)

/-- The name of the function that tokens begin to define, and the tokens after the parentheses. -/
def functionName? : Tokens → Option (Attempt (String × Tokens))
  | (line, .word w) :: (_, .mark .opening) :: rest => some <|
    match rest with
    | (_, .mark .closing) :: rest =>
      match bareText? w with
      | some name =>
        if isName name.toList && !special.contains name then .ok (name, rest)
        else .error (line, .functionName)
      | none => .error (line, .functionName)
    | (line, .word _) :: _ => .error (line, .unexpected "word" (some Mark.closing.shown))
    | _ => fail rest (some Mark.closing.shown)
  | _ => none

/-- The words that a loop goes over, if it names any, and the tokens after them. -/
def loopWords (tokens : Tokens) : Attempt (Option (List Word) × Tokens) :=
  if keyword? (skipLines tokens) = some "in" then
    match wordsFrom (skipLines tokens).tail with
    | (words, (_, .mark .newline) :: rest) | (words, (_, .mark .semicolon) :: rest) =>
      .ok (some words, rest)
    | (_, rest) => fail rest
  else
    match tokens with
    | (_, .mark .semicolon) :: rest => .ok (none, rest)
    | _ => .ok (none, tokens)

/-- Skips the parenthesis after a pattern, in whose place no word has a meaning of its own. -/
def closePattern (tokens : Tokens) : Attempt Tokens :=
  match tokens with
  | (line, .word _) :: _ => .error (line, .unexpected "word" (some Mark.closing.shown))
  | _ => expectMark .closing tokens

/-- The patterns of a case and the tokens after the parenthesis, given how many are read at most.  What
stands in the place of a pattern is passed over before the parenthesis is missed. -/
def patternsUpTo : Nat → Tokens → Attempt (List Word × Tokens)
  | fuel + 1, (_, .word w) :: (_, .mark .bar) :: rest => do
    let (words, rest) ← patternsUpTo fuel rest
    return (w :: words, rest)
  | _, (_, .word w) :: rest => do
    let rest ← closePattern rest
    return ([w], rest)
  | _, [last] => fail [last] (some Mark.closing.shown)
  | _, tokens => do
    let _ ← closePattern tokens.tail
    fail tokens (some Mark.closing.shown)

mutual

/-- Several commands up to a token that ends them; `first` says whether there has to be one. -/
def list : Nat → Bool → Tokens → Attempt (Script × Tokens)
  | 0, _, tokens => .ok (.nothing, tokens)
  | fuel + 1, first, tokens =>
    match skipLines tokens with
    | [] => .ok (.nothing, [])
    | (line, .finish) :: rest => .ok (.nothing, (line, .finish) :: rest)
    | token :: rest =>
      if !first && endsList (token :: rest) then .ok (.nothing, token :: rest)
      else do
        let (command, rest) ← conditional fuel (token :: rest)
        match rest with
        | (_, .mark .semicolon) :: rest | (_, .mark .newline) :: rest =>
          let (more, rest) ← list fuel false rest
          return (followedBy command more, rest)
        | (_, .mark .ampersand) :: rest =>
          let (more, rest) ← list fuel false rest
          return (followedBy (.background command) more, rest)
        | rest => return (command, rest)

/-- Pipelines of which each is carried out depending on the success of those before it. -/
def conditional : Nat → Tokens → Attempt (Script × Tokens)
  | 0, tokens => .ok (.nothing, tokens)
  | fuel + 1, tokens => do
    let (first, tokens) ← pipeline fuel tokens
    conditionalFrom fuel first tokens

/-- The pipelines after others that have been read. -/
def conditionalFrom : Nat → Script → Tokens → Attempt (Script × Tokens)
  | 0, first, tokens => .ok (first, tokens)
  | fuel + 1, first, tokens =>
    match tokens with
    | (_, .mark .doubleAmpersand) :: rest => do
      let (second, rest) ← pipeline fuel (skipLines rest)
      conditionalFrom fuel (.both first second) rest
    | (_, .mark .doubleBar) :: rest => do
      let (second, rest) ← pipeline fuel (skipLines rest)
      conditionalFrom fuel (.either first second) rest
    | tokens => .ok (first, tokens)

/-- Commands of which each reads what the one before it writes. -/
def pipeline : Nat → Tokens → Attempt (Script × Tokens)
  | 0, tokens => .ok (.nothing, tokens)
  | fuel + 1, tokens =>
    if keyword? tokens = some "!" then do
      let (body, rest) ← stages fuel tokens.tail
      return (.not body, rest)
    else stages fuel tokens

/-- A command and those that what it writes passes through. -/
def stages : Nat → Tokens → Attempt (Script × Tokens)
  | 0, tokens => .ok (.nothing, tokens)
  | fuel + 1, tokens => do
    let (first, rest) ← command fuel tokens
    match rest with
    | (_, .mark .bar) :: rest =>
      let (more, rest) ← stages fuel (skipLines rest)
      return (.pipe first more, rest)
    | rest => return (first, rest)

/-- A command. -/
def command : Nat → Tokens → Attempt (Script × Tokens)
  | 0, tokens => .ok (.nothing, tokens)
  | fuel + 1, tokens =>
    match tokens with
    | [] => fail []
    | (line, .word w) :: rest =>
      match keyword? tokens with
      | some "if" => do
        let (body, rest) ← branches fuel rest
        let (redirections, rest) ← redirectionsUpTo fuel rest
        return (directed body redirections, rest)
      | some "\x7b" => do
        let (body, rest) ← list fuel true rest
        let rest ← expect "\x7d" rest
        let (redirections, rest) ← redirectionsUpTo fuel rest
        return (directed body redirections, rest)
      | some "for" =>
        match rest with
        | (_, .word w) :: rest =>
          match (bareText? w).filter fun name => isName name.toList with
          | none => .error (line, .loopVariable)
          | some name => do
            let (words, rest) ← loopWords rest
            let (body, rest) ← loopBody fuel rest
            let (redirections, rest) ← redirectionsUpTo fuel rest
            return (directed (.each line name words body) redirections, rest)
        | _ => .error (line, .loopVariable)
      | some "case" =>
        match rest with
        | (_, .word w) :: rest => do
          let rest ← expect "in" (skipLines rest)
          let (found, rest) ← cases fuel rest
          let (redirections, rest) ← redirectionsUpTo fuel rest
          return (directed (.choice line w found) redirections, rest)
        | _ => fail rest (some "word")
      | some word =>
        if word = "while" ∨ word = "until" then do
          let (condition, rest) ← list fuel true rest
          let (body, rest) ← loopBody fuel rest
          let (redirections, rest) ← redirectionsUpTo fuel rest
          return (directed (.loop (word == "until") condition body) redirections, rest)
        else fail tokens
      | none =>
        match functionName? ((line, .word w) :: rest) with
        | some (.error fault) => .error fault
        | some (.ok (name, rest)) => do
          let (body, rest) ← command fuel (skipLines rest)
          return (.define name body, rest)
        | none => simpleUpTo fuel line [] [] [] tokens
    | (_, .mark .opening) :: rest => do
      let (body, rest) ← list fuel true rest
      let rest ← expectMark .closing rest
      let (redirections, rest) ← redirectionsUpTo fuel rest
      return (directed (.apart body) redirections, rest)
    | (line, .redirect ..) :: _ | (line, .here ..) :: _ => simpleUpTo fuel line [] [] [] tokens
    | _ => fail tokens

/-- What is carried out on a condition, after the word that begins it, up to the word that ends it. -/
def branches : Nat → Tokens → Attempt (Script × Tokens)
  | 0, tokens => .ok (.nothing, tokens)
  | fuel + 1, tokens => do
    let (condition, rest) ← list fuel true tokens
    let rest ← expect "then" rest
    let (positive, rest) ← list fuel true rest
    match keyword? rest with
    | some "elif" =>
      let (negative, rest) ← branches fuel rest.tail
      return (.branch condition positive negative, rest)
    | some "else" =>
      let (negative, rest) ← list fuel true rest.tail
      let rest ← expect "fi" rest
      return (.branch condition positive negative, rest)
    | _ =>
      let rest ← expect "fi" rest
      return (.branch condition positive .nothing, rest)

/-- The commands that a loop repeats. -/
def loopBody : Nat → Tokens → Attempt (Script × Tokens)
  | 0, tokens => .ok (.nothing, tokens)
  | fuel + 1, tokens => do
    let rest ← expect "do" (skipLines tokens)
    let (body, rest) ← list fuel true rest
    let rest ← expect "done" rest
    return (body, rest)

/-- Cases up to the word that ends them. -/
def cases : Nat → Tokens → Attempt (List (List Word × Script) × Tokens)
  | 0, tokens => .ok ([], tokens)
  | fuel + 1, tokens =>
    let tokens := skipLines tokens
    if keyword? tokens = some "esac" then .ok ([], tokens.tail)
    else do
      let opened := match tokens with
        | (_, .mark .opening) :: rest => rest
        | _ => tokens
      let (patterns, rest) ← patternsUpTo fuel opened
      let (body, rest) ← list fuel false rest
      let rest := skipLines rest
      if keyword? rest = some "esac" then return ([(patterns, body)], rest.tail)
      else
        let rest ← expectMark .doubleSemicolon rest
        let (more, rest) ← cases fuel rest
        return ((patterns, body) :: more, rest)

end

/-! ## Scripts -/

/-- The commands of a line, given how many there are at most. -/
def lineUpTo : Nat → Tokens → Attempt (Script × Tokens)
  | 0, tokens => .ok (.nothing, tokens)
  | fuel + 1, tokens =>
    match tokens with
    | [] => .ok (.nothing, [])
    | (_, .finish) :: _ => .ok (.nothing, [])
    | (_, .mark .newline) :: rest => .ok (.nothing, rest)
    | tokens => do
      let (first, rest) ← conditional (8 * tokens.length + 8) tokens
      match rest with
      | (_, .mark .semicolon) :: rest =>
        let (more, rest) ← lineUpTo fuel rest
        return (followedBy first more, rest)
      | (_, .mark .ampersand) :: rest =>
        let (more, rest) ← lineUpTo fuel rest
        return (followedBy (.background first) more, rest)
      | (_, .mark .newline) :: rest => return (first, rest)
      | [] | (_, .finish) :: _ => return (first, [])
      | rest => fail rest

/-- What has been read of a script. -/
structure Reading where
  /-- The lines in front of a fault. -/
  lines : List Script
  fault : Option (Nat × Fault) := none
deriving Repr

/-- The lines that tokens make up, given how many there are at most. -/
def linesUpTo : Nat → Tokens → Reading
  | 0, _ => ⟨[], none⟩
  | fuel + 1, tokens =>
    match lineUpTo (tokens.length + 1) tokens with
    | .error fault => ⟨[], some fault⟩
    | .ok (line, []) => ⟨[line], none⟩
    | .ok (line, rest) =>
      let more := linesUpTo fuel rest
      { more with lines := line :: more.lines }

/-- Reads a script. -/
def read (text : List Char) : Reading :=
  let all := tokens text
  linesUpTo (all.length + 1) all

end IntentSpec.Script
