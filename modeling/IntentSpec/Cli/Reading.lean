import IntentSpec.Cli.Grammar
import IntentSpec.Text.Numeral

/-!
# Reading a call

The words of a call are read from left to right.  Each option is read with its value when it is met, and
operands are read as soon as there is a word for the first of them.  What nothing takes is left over.

## Main definitions

* `Cli.Reading` — what has been read.
* `Cli.Stop` — why a call is not carried out.
* `Cli.Operand.takeAll` — the operands at the front of a call.
* `Cli.OptionRule.take` — an option at the front of a call.
* `Cli.Grammar.read` — reading a call.
-/

namespace IntentSpec.Cli

open Text

/-- A value that has been read. -/
inductive Given where
  | mark
  | text (s : String)
  | integer (n : Int)
  | words (l : List String)
deriving DecidableEq, Repr

/-- What has been read. -/
structure Reading where
  /-- The values, each with the name of its option or operand, in the order of the call. -/
  values : List (String × Given) := []
  /-- The words that are left over. -/
  surplus : List String := []
deriving DecidableEq, Repr

/-- Why a call is not carried out. -/
inductive Stop where
  | help
  /-- The call of a program is not understood. -/
  | usage (program : String) (fault : UsageFault)
deriving DecidableEq, Repr

namespace Reading

/-- All values of a name. -/
def all (r : Reading) (name : String) : List Given :=
  (r.values.filter (·.1 == name)).map (·.2)

/-- The text that was given last under a name. -/
def text? (r : Reading) (name : String) : Option String :=
  ((r.all name).filterMap fun
    | .text s => some s
    | _ => none).getLast?

/-- The texts that were given under a name. -/
def texts (r : Reading) (name : String) : List String :=
  (r.all name).filterMap fun
    | .text s => some s
    | _ => none

/-- The integer that was given last under a name. -/
def integer? (r : Reading) (name : String) : Option Int :=
  ((r.all name).filterMap fun
    | .integer n => some n
    | _ => none).getLast?

/-- The words that were given under a name. -/
def words (r : Reading) (name : String) : List String :=
  (r.all name).flatMap fun
    | .words l => l
    | _ => []

/-- Whether a mark was given. -/
def has (r : Reading) (name : String) : Bool := (r.all name).contains .mark

/-- Adds values. -/
def add (r : Reading) (values : List (String × Given)) : Reading :=
  { r with values := r.values ++ values }

/-- Leaves words over. -/
def leave (r : Reading) (words : List String) : Reading := { r with surplus := r.surplus ++ words }

end Reading

/-- Skips the separator at the front of a call. -/
def skipSeparator : List Token → List Token
  | .separator :: tokens => tokens
  | tokens => tokens

namespace Operand

/-- The value of an operand at the front of a call, and what follows it. -/
def take? (operand : Operand) (tokens : List Token) : Option (Given × List Token) :=
  match operand.extent with
  | .rest => some (.words (tokens.map Token.word), [])
  | .one =>
    match skipSeparator tokens with
    | .plain word :: tokens => some (.text word, skipSeparator tokens)
    | _ => none
  | .subcommand =>
    match skipSeparator tokens with
    | .plain _ :: _ => some (.words (tokens.map Token.word), [])
    | _ => none

/-- The values of as many operands as there are words for, the operands that are left, and what
follows. -/
def takeAll : List Operand → List Token → List (String × Given) × List Operand × List Token
  | [], tokens => ([], [], tokens)
  | operand :: operands, tokens =>
    match operand.take? tokens with
    | none => ([], operand :: operands, tokens)
    | some (value, tokens) =>
      let (values, operands, tokens) := takeAll operands tokens
      ((operand.name, value) :: values, operands, tokens)

end Operand

namespace OptionRule

/-- The value that a word gives for an option. -/
def value (rule : OptionRule) (word : String) : Except UsageFault Given :=
  match rule.takes with
  | .integer =>
    match readInteger word with
    | .ok n => .ok (.integer n)
    | .error _ => .error (.notInteger rule.shown word)
  | .choice words =>
    if words.contains word then .ok (.text word) else .error (.notChoice rule.shown word words)
  | .help | .nothing | .text => .ok (.text word)

/-- Looks at the letters after the letter of an option that takes nothing, which are options themselves as
long as they are known; answers what is wrong with them. -/
def joinedFault? (g : Grammar) (rule : OptionRule) : List Char → Option UsageFault
  | [] => none
  | '-' :: s => some (.needless rule.shown (String.ofList ('-' :: s)))
  | c :: s =>
    match g.named.lookup (String.ofList ['-', c]), s with
    | none, _ => none
    | some rule, '=' :: s => some (.needless rule.shown (String.ofList s))
    | some rule, s => joinedFault? g rule s

/-- Reads an option: its value, and what follows it. -/
def take (g : Grammar) (rule : OptionRule) (attached : Attached) (tokens : List Token) :
    Except Stop (Given × List Token) :=
  let faulty {α : Type} (f : UsageFault) : Except Stop α := .error (.usage g.program f)
  let checked (word : String) (tokens : List Token) : Except Stop (Given × List Token) :=
    match rule.value word with
    | .ok value => .ok (value, tokens)
    | .error f => faulty f
  let marked : Except Stop (Given × List Token) :=
    if rule.takes = .help then .error .help else .ok (.mark, tokens)
  match decide (rule.takes = .help ∨ rule.takes = .nothing), attached with
  | true, .none => marked
  | true, .equals value => faulty (.needless rule.shown value)
  | true, .joined value =>
    match joinedFault? g rule value.toList with
    | some f => faulty f
    | none => marked
  | false, .equals value | false, .joined value => checked value tokens
  | false, .none =>
    match tokens with
    | .plain word :: tokens => checked word tokens
    | _ => faulty (.valueMissing rule.shown)

end OptionRule

namespace Grammar

/-- Reads the end of a call, in which there are no options. -/
def readEnd (g : Grammar) (operands : List Operand) (tokens : List Token) (r : Reading) :
    Except Stop Reading :=
  let (values, operands, tokens) := Operand.takeAll operands tokens
  if operands.isEmpty then .ok ((r.add values).leave (tokens.map Token.word))
  else .error (.usage g.program (.missing (operands.map Operand.name)))

/-- Reads a call, given how many steps are made at most. -/
def readFrom (g : Grammar) : Nat → List Operand → List Token → Reading → Except Stop Reading
  | 0, operands, tokens, r => g.readEnd operands tokens r
  | fuel + 1, operands, tokens, r =>
    if tokens.any Token.isOption then
      match tokens with
      | .unknown word :: tokens => g.readFrom fuel operands tokens (r.leave [word])
      | .option _ rule attached :: tokens => do
        let (value, tokens) ← rule.take g attached tokens
        g.readFrom fuel operands tokens (r.add [(rule.key, value)])
      | _ =>
        match Operand.takeAll operands tokens with
        | ([], operands, _) =>
          g.readFrom fuel operands (tokens.dropWhile (!·.isOption))
            (r.leave ((tokens.takeWhile (!·.isOption)).map Token.word))
        | (values, operands, tokens) => g.readFrom fuel operands tokens (r.add values)
    else g.readEnd operands tokens r

/-- Reads a call.  Each step takes a word at least. -/
def read (g : Grammar) (words : List String) : Except Stop Reading :=
  match g.tokens words with
  | .error f => .error (.usage g.program f)
  | .ok tokens => g.readFrom (tokens.length + 1) g.operands tokens {}

end Grammar

end IntentSpec.Cli
