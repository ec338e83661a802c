import IntentSpec.Process.Filter
import IntentSpec.Process.Run

/-!
# Conditions on texts, numbers and files

## Main definitions

* `Condition.Operator`, `Condition.operator?` — what the words of a condition are.
* `Condition.Fault`, `Condition.Fault.message` — why a condition has no value.
* `Condition.holds` — whether a condition holds.
-/

namespace IntentSpec.Condition

open Text

/-- What a word of a condition is. -/
inductive Operator where
  /-- It is about the next word. -/
  | unary
  /-- It is about the words on both of its sides. -/
  | binary
  /-- What follows is not to hold. -/
  | not
  | and
  /-- One of the sides is to hold. -/
  | or
  | opening
  | closing
deriving DecidableEq, Repr

/-- The words that are about the next word. -/
def unaryWords : List String :=
  ["-b", "-c", "-d", "-e", "-f", "-g", "-h", "-k", "-n", "-p", "-r", "-s", "-t", "-u", "-w", "-x", "-z",
   "-G", "-L", "-O", "-S"]

/-- The words that compare. -/
def binaryWords : List String :=
  ["=", "!=", "<", ">", "-eq", "-ne", "-ge", "-gt", "-le", "-lt", "-nt", "-ot", "-ef"]

/-- What a word is when it stands alone. -/
def operator? (word : String) : Option Operator :=
  match word with
  | "!" => some .not
  | "-a" => some .and
  | "-o" => some .or
  | "(" => some .opening
  | ")" => some .closing
  | _ =>
    if unaryWords.contains word then some .unary
    else if binaryWords.contains word then some .binary
    else none

/-- Why a condition has no value. -/
inductive Fault where
  /-- There is a word too much. -/
  | operator (word : String)
  /-- A word is missing after another. -/
  | argument (word : String)
  | parenthesis
  | number (word : String)
  | bracket
deriving DecidableEq, Repr

/-- The wording of a fault. -/
def Fault.message : Fault → String
  | operator word => if word.isEmpty then "unexpected operator" else word ++ ": unexpected operator"
  | argument word => word ++ ": argument expected"
  | parenthesis => "closing paren expected"
  | number word => "Illegal number: " ++ word
  | bracket => "missing ]"

/-- What the first word is where it stands: a word about the next one is a text if nothing follows, or if
it is compared itself. -/
def first? (words : List String) : Option Operator :=
  match words with
  | [] => none
  | word :: rest =>
    match operator? word with
    | some .unary =>
      match rest with
      | [] => none
      | [_] => some .unary
      | next :: _ => if operator? next = some .binary then none else some .unary
    | some .opening => if rest.isEmpty then none else some .opening
    | other => other

/-- The number that a word is. -/
def number (word : String) : Except Fault Int :=
  let s := trim word.toList
  let s := if s.head? = some '+' then s.drop 1 else s
  match Filter.integer? s with
  | some n => .ok n
  | none => .error (.number word)

/-- Whether a comparison holds. -/
def compare (operator a b : String) : Except Fault Bool := do
  match operator with
  | "=" => return a = b
  | "!=" => return a ≠ b
  | "<" => return a < b
  | ">" => return b < a
  | "-eq" => return (← number a) = (← number b)
  | "-ne" => return (← number a) ≠ (← number b)
  | "-ge" => return (← number a) ≥ (← number b)
  | "-gt" => return (← number a) > (← number b)
  | "-le" => return (← number a) ≤ (← number b)
  | "-lt" => return (← number a) < (← number b)
  | _ => return false

/-- Whether something about a word holds. -/
def check (r : Run) (operator word : String) : Bool :=
  match operator with
  | "-n" => !word.isEmpty
  | "-z" => word.isEmpty
  | "-d" => r.kind? word == some .directory
  | "-f" => match r.kind? word with
    | some .plain | some (.program _) => true
    | _ => false
  | "-c" => r.kind? word == some .device
  | "-s" => match r.kind? word with
    | some .plain => (r.content? word).all (!·.isEmpty)
    | some .directory | some (.program _) => true
    | _ => false
  | "-x" => match r.kind? word with
    | some .directory | some (.program _) => true
    | _ => false
  | "-e" | "-r" | "-w" | "-O" | "-G" => (r.kind? word).isSome
  | _ => false

mutual

/-- Whether one of several conditions holds, and the words from the last one that was used on. -/
def any (r : Run) : Nat → List String → Except Fault (Bool × List String)
  | 0, words => .ok (false, words)
  | fuel + 1, words => do
    let (a, words) ← all r fuel words
    if first? words.tail = some .or then
      let (b, words) ← any r fuel (words.drop 2)
      return (a || b, words)
    else return (a, words)

/-- Whether all of several conditions hold. -/
def all (r : Run) : Nat → List String → Except Fault (Bool × List String)
  | 0, words => .ok (false, words)
  | fuel + 1, words => do
    let (a, words) ← one r fuel words
    if first? words.tail = some .and then
      let (b, words) ← all r fuel (words.drop 2)
      return (a && b, words)
    else return (a, words)

/-- Whether a condition holds. -/
def one (r : Run) : Nat → List String → Except Fault (Bool × List String)
  | 0, words => .ok (false, words)
  | fuel + 1, words =>
    match first? words, words with
    | some .not, _ :: rest => do
      let (a, words) ← one r fuel (if rest.isEmpty then words else rest)
      return (!(if rest.isEmpty then false else a), words)
    | some .opening, _ :: rest =>
      if first? rest = some .closing then .ok (false, rest)
      else do
        let (a, words) ← any r fuel rest
        if first? words.tail = some .closing then return (a, words.tail) else .error .parenthesis
    | some .unary, operator :: rest =>
      match rest with
      | [] => .error (.argument operator)
      | word :: _ => .ok (check r operator word, rest)
    | _, a :: rest =>
      if first? rest = some .binary then
        match rest with
        | operator :: b :: more => do return (← compare operator a b, b :: more)
        | operator :: [] => .error (.argument operator)
        | [] => .ok (!a.isEmpty, words)
      else .ok (!a.isEmpty, words)
    | _, [] => .ok (false, [])

end

/-- Whether a condition of at least one word holds; with three or four words, negation and parentheses
around the others come first. -/
def wholeUpTo (r : Run) : Nat → List String → Except Fault Bool
  | 0, _ => .ok false
  | fuel + 1, words =>
    let general : Except Fault Bool := do
      let (a, rest) ← any r (4 * words.length + 4) words
      match rest with
      | word :: _ :: _ => .error (.operator word)
      | _ => return a
    match words with
    | [] => .ok false
    | [a, operator, b] =>
      if operator? operator = some .binary then compare operator a b
      else if a = "(" ∧ b = ")" then wholeUpTo r fuel [operator]
      else if a = "!" then do return !(← wholeUpTo r fuel [operator, b])
      else general
    | [a, b, c, d] =>
      if a = "(" ∧ d = ")" then wholeUpTo r fuel [b, c]
      else if a = "!" then do return !(← wholeUpTo r fuel [b, c, d])
      else general
    | _ => general

/-- Whether a condition holds. -/
def holds (r : Run) (words : List String) : Except Fault Bool := wholeUpTo r (words.length + 1) words

/-- Whether the condition between a name and, if the name is a bracket, the closing one holds. -/
def ofCommand (r : Run) (name : String) (words : List String) : Except Fault Bool :=
  if name = "[" then
    if words.getLast? = some "]" then holds r words.dropLast else .error .bracket
  else holds r words

end IntentSpec.Condition
