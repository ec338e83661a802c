import IntentSpec.Process.Script.Word

/-!
# Calculations

A calculation is an expression over integers of 64 bits and variables.  It may set variables, and what a
condition leaves out has no effect.

## Main definitions

* `Calculation`, `Calculation.read` — an expression, and how it is read.
* `Calculation.Fault`, `Calculation.Fault.message` — why a calculation has no value.
* `Calculation.value` — the value of an expression, and the variables that it sets.
-/

namespace IntentSpec

open Text

/-- An operation on two integers. -/
inductive Calculation.Operation where
  | times
  | divide
  /-- What is left by the division. -/
  | remainder
  | plus
  | minus
  | shiftUp
  | shiftDown
  | less
  | atMost
  | greater
  | atLeast
  | equal
  | different
  | bitAnd
  /-- The bits of one of them. -/
  | bitXor
  /-- The bits of any of them. -/
  | bitOr
  | and
  | or
deriving DecidableEq, Repr

/-- An expression over integers and variables. -/
inductive Calculation where
  | number (n : Int)
  | named (name : String)
  | negative (a : Calculation)
  | complement (a : Calculation)
  | not (a : Calculation)
  | apply (operation : Calculation.Operation) (a b : Calculation)
  /-- The first if a condition holds, and otherwise the second. -/
  | choose (condition a b : Calculation)
  /-- A variable is set, perhaps by an operation on its value. -/
  | assign (name : String) (operation : Option Calculation.Operation) (a : Calculation)
deriving DecidableEq, Repr

namespace Calculation

/-- Why a calculation has no value. -/
inductive Fault where
  | expecting (what : String)
  | zeroDivision
  /-- The value of a variable is no number. -/
  | number (text : String)
deriving DecidableEq, Repr

/-- The wording of a fault in an expression. -/
def Fault.message (text : String) : Fault → String
  | expecting what => "arithmetic expression: expecting " ++ what ++ ": \"" ++ text ++ "\""
  | zeroDivision => "arithmetic expression: division by zero: \"" ++ text ++ "\""
  | number given => "Illegal number: " ++ given

/-! ## Numbers -/

/-- An integer within 64 bits. -/
def wrap (n : Int) : Int := n.bmod 18446744073709551616

/-- The value of a digit, if it is one to the base. -/
def digit? (base : Nat) (c : Char) : Option Nat :=
  let n :=
    if isAsciiDigit c then c.toNat - 48
    else if isAsciiLetter c then (foldAscii c).toNat - 87 else base
  if n < base then some n else none

/-- The number that digits are to a base. -/
def digits? (base : Nat) (s : List Char) : Option Nat :=
  if s.isEmpty then none
  else s.foldl (fun n c => do return base * (← n) + (← digit? base c)) (some 0)

/-- The number that a text without sign is: hexadecimal after 0x, octal after 0, and else decimal. -/
def natural? : List Char → Option Nat
  | '0' :: 'x' :: s | '0' :: 'X' :: s => digits? 16 s
  | '0' :: c :: s => digits? 8 (c :: s)
  | s => digits? 10 s

/-- The integer that the value of a variable is. -/
def integer? (text : List Char) : Option Int :=
  match text.dropWhile isBlank with
  | [] => some 0
  | '-' :: s => (natural? s).map fun n => -n
  | '+' :: s => (natural? s).map fun n => n
  | s => (natural? s).map fun n => n

/-! ## Reading -/

/-- The operations by their texts, longer ones first, with how tightly they bind. -/
def operations : List (String × Operation × Nat) :=
  [("||", .or, 1), ("&&", .and, 2), ("==", .equal, 6), ("!=", .different, 6), ("<<", .shiftUp, 8),
   (">>", .shiftDown, 8), ("<=", .atMost, 7), (">=", .atLeast, 7), ("|", .bitOr, 3), ("^", .bitXor, 4),
   ("&", .bitAnd, 5), ("<", .less, 7), (">", .greater, 7), ("+", .plus, 9), ("-", .minus, 9),
   ("*", .times, 10), ("/", .divide, 10), ("%", .remainder, 10)]

/-- The operations that can be combined with setting a variable. -/
def combined : List Operation :=
  [.shiftUp, .shiftDown, .bitOr, .bitXor, .bitAnd, .plus, .minus, .times, .divide, .remainder]

/-- Skips blanks. -/
def skip (s : List Char) : List Char := s.dropWhile isBlank

/-- The operation at the front of a text, how tightly it binds, and the rest. -/
def operation? (s : List Char) : Option (Operation × Nat × List Char) :=
  operations.findSome? fun (text, operation, rank) =>
    (dropWord? text.toList s).map fun rest => (operation, rank, rest)

/-- The rest of a text after what sets a variable, and the operation that is combined with it. -/
def assignment? (s : List Char) : Option (Option Operation × List Char) :=
  match s with
  | '=' :: rest => if rest.head? = some '=' then none else some (none, rest)
  | _ =>
    match operation? s with
    | some (operation, _, '=' :: rest) =>
      if combined.contains operation then some (some operation, rest) else none
    | _ => none

mutual

/-- An expression at the front of a text, and the rest. -/
def whole : Nat → List Char → Except Fault (Calculation × List Char)
  | 0, _ => .error (.expecting "primary")
  | fuel + 1, s => do
    let (condition, rest) ← operand fuel s
    let (condition, rest) ← chain fuel 1 condition rest
    match skip rest with
    | '?' :: rest =>
      let (a, rest) ← whole fuel rest
      match skip rest with
      | ':' :: rest =>
        let (b, rest) ← whole fuel rest
        return (.choose condition a b, rest)
      | _ => .error (.expecting "':'")
    | rest => return (condition, rest)

/-- The operations that bind at least as tightly as a rank, after a first operand. -/
def chain : Nat → Nat → Calculation → List Char → Except Fault (Calculation × List Char)
  | 0, _, a, s => .ok (a, s)
  | fuel + 1, rank, a, s =>
    match operation? (skip s) with
    | some (operation, own, rest) =>
      if own < rank then .ok (a, s)
      else do
        let (b, rest) ← operand fuel rest
        let (b, rest) ← chain fuel (own + 1) b rest
        chain fuel rank (.apply operation a b) rest
    | none => .ok (a, s)

/-- An operand at the front of a text, and the rest. -/
def operand : Nat → List Char → Except Fault (Calculation × List Char)
  | 0, _ => .error (.expecting "primary")
  | fuel + 1, s =>
    match skip s with
    | '-' :: rest => do
      let (a, rest) ← operand fuel rest
      return (.negative a, rest)
    | '+' :: rest => operand fuel rest
    | '~' :: rest => do
      let (a, rest) ← operand fuel rest
      return (.complement a, rest)
    | '!' :: rest => do
      let (a, rest) ← operand fuel rest
      return (.not a, rest)
    | '(' :: rest => do
      let (a, rest) ← whole fuel rest
      match skip rest with
      | ')' :: rest => return (a, rest)
      | _ => .error (.expecting "')'")
    | c :: rest =>
      if isAsciiDigit c then
        let text := (c :: rest).takeWhile isAsciiWord
        match natural? text with
        | some n => .ok (.number (min n 9223372036854775807), (c :: rest).drop text.length)
        | none => .error (.expecting "EOF")
      else if isAsciiWord c then
        let name := (c :: rest).takeWhile isAsciiWord
        let rest := (c :: rest).drop name.length
        match assignment? (skip rest) with
        | some (operation, rest) => do
          let (a, rest) ← whole fuel rest
          return (.assign (String.ofList name) operation a, rest)
        | none => .ok (.named (String.ofList name), rest)
      else .error (.expecting "primary")
    | [] => .error (.expecting "primary")

end

/-- Reads an expression; nothing but blanks is zero. -/
def read (text : List Char) : Except Fault Calculation :=
  if (skip text).isEmpty then .ok (.number 0)
  else do
    let (found, rest) ← whole (4 * text.length + 4) text
    if (skip rest).isEmpty then return found else .error (.expecting "EOF")

/-! ## Values -/

/-- The number for whether something holds. -/
def truth (b : Bool) : Int := if b then 1 else 0

/-- The natural number whose bits are those of an integer. -/
def bits (n : Int) : Nat := (n.emod 18446744073709551616).toNat

/-- The value of an operation on two integers. -/
def Operation.apply (a b : Int) : Operation → Except Fault Int
  | times => .ok (wrap (a * b))
  | divide => if b = 0 then .error .zeroDivision else .ok (wrap (a.tdiv b))
  | remainder => if b = 0 then .error .zeroDivision else .ok (a.tmod b)
  | plus => .ok (wrap (a + b))
  | minus => .ok (wrap (a - b))
  | shiftUp => .ok (wrap (bits a <<< (bits b % 64)))
  | shiftDown => .ok (a >>> (bits b % 64))
  | less => .ok (truth (a < b))
  | atMost => .ok (truth (a ≤ b))
  | greater => .ok (truth (a > b))
  | atLeast => .ok (truth (a ≥ b))
  | equal => .ok (truth (a = b))
  | different => .ok (truth (a ≠ b))
  | bitAnd => .ok (wrap (bits a &&& bits b))
  | bitXor => .ok (wrap (bits a ^^^ bits b))
  | bitOr => .ok (wrap (bits a ||| bits b))
  | and => .ok (truth (a ≠ 0 ∧ b ≠ 0))
  | or => .ok (truth (a ≠ 0 ∨ b ≠ 0))

/-- The variables that have been set, the last one first. -/
abbrev Settings := List (String × Int)

/-- The value of a variable, given the texts of the variables and those that have been set. -/
def lookUp (textOf : String → List Char) (set : Settings) (name : String) : Except Fault Int :=
  match set.lookup name with
  | some n => .ok n
  | none =>
    match integer? (textOf name) with
    | some n => .ok n
    | none => .error (.number (String.ofList (textOf name)))

/-- The value of an expression and the variables that have been set, given the texts of the variables and
those that have been set before. -/
def value (textOf : String → List Char) (set : Settings) : Calculation → Except Fault (Int × Settings)
  | number n => .ok (n, set)
  | named name => do return (← lookUp textOf set name, set)
  | negative a => do
    let (n, set) ← value textOf set a
    return (wrap (-n), set)
  | complement a => do
    let (n, set) ← value textOf set a
    return (-n - 1, set)
  | not a => do
    let (n, set) ← value textOf set a
    return (truth (n = 0), set)
  | apply operation a b => do
    let (m, set) ← value textOf set a
    if operation = .and ∧ m = 0 then return (0, set)
    else if operation = .or ∧ m ≠ 0 then return (1, set)
    else
      let (n, set) ← value textOf set b
      return (← operation.apply m n, set)
  | choose condition a b => do
    let (n, set) ← value textOf set condition
    if n ≠ 0 then value textOf set a else value textOf set b
  | assign name operation a => do
    let (n, set) ← value textOf set a
    match operation with
    | none => return (n, (name, n) :: set)
    | some operation =>
      let n ← operation.apply (← lookUp textOf set name) n
      return (n, (name, n) :: set)

end Calculation

end IntentSpec
