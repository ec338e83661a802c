import IntentSpec.Text.Character
import IntentSpec.Text.Pieces
import IntentSpec.Text.Printable

/-!
# Options and operands

The words of a call are options, which begin with a hyphen, and operands.  An option may be shortened as
long as only one name begins that way, and its value may stand after an equals sign or be the next word.
After a word of two hyphens there are no options.

What a word is can be told from the word and from the options that there are, before any of them is read.  So
a call is first turned into tokens, and a word that could be several options makes the call fail wherever it
stands in front of the separator.  A negative number begins with a hyphen as well, and it is an operand unless
an option begins in this way.

Why a call is not understood is data, with the words of the call and the names of options in it.  Its wording
is made from that at the end, in one place.

## Main definitions

* `Cli.OptionRule`, `Cli.Operand`, `Cli.Grammar` — what a program takes.
* `Cli.UsageFault`, `Cli.UsageFault.message` — why a call is not understood.
* `Cli.Token`, `Cli.Grammar.tokens` — what the words of a call are.
-/

namespace IntentSpec.Cli

open Text

/-- What an option takes. -/
inductive Takes where
  /-- Nothing; the option asks for help. -/
  | help
  /-- Nothing; the option is a mark. -/
  | nothing
  | text
  | integer
  | choice (words : List String)
deriving DecidableEq, Repr

/-- An option. -/
structure OptionRule where
  /-- The names, of which the last identifies the option. -/
  names : List String
  takes : Takes
deriving DecidableEq, Repr

/-- The name that identifies an option. -/
def OptionRule.key (rule : OptionRule) : String := rule.names.getLast?.getD ""

/-- The names of an option as they are shown. -/
def OptionRule.shown (rule : OptionRule) : String := "/".intercalate rule.names

/-- What an operand takes. -/
inductive Extent where
  | one
  /-- All words that are left, options among them. -/
  | rest
  /-- All words that are left, the first of which is no option. -/
  | subcommand
deriving DecidableEq, Repr

/-- An operand. -/
structure Operand where
  name : String
  extent : Extent := .one
deriving DecidableEq, Repr

/-- What a program takes. -/
structure Grammar where
  program : String
  options : List OptionRule
  operands : List Operand := []
deriving DecidableEq, Repr

/-- How a program is called, in a line. -/
def Grammar.usage (g : Grammar) : String :=
  let options := g.options.map fun rule => "[" ++ rule.key ++ "]"
  " ".intercalate (["usage:", g.program] ++ options ++ g.operands.map Operand.name)

/-- Why a call is not understood. -/
inductive UsageFault where
  /-- Several names begin as the word does. -/
  | ambiguous (word : String) (names : List String)
  /-- An option that takes nothing is given a value. -/
  | needless (option value : String)
  /-- An option is not given a value. -/
  | valueMissing (option : String)
  | notInteger (option value : String)
  /-- A value is not among those that are allowed. -/
  | notChoice (name value : String) (allowed : List String)
  | missing (names : List String)
  | unrecognized (words : List String)
deriving DecidableEq, Repr

/-- The wording of a fault. -/
def UsageFault.message : UsageFault → String
  | ambiguous word names =>
    "ambiguous option: " ++ word ++ " could match " ++ ", ".intercalate names
  | needless option value => about option ("ignored explicit argument " ++ quoted value)
  | valueMissing option => about option "expected one argument"
  | notInteger option value => about option ("invalid int value: " ++ quoted value)
  | notChoice name value allowed =>
    about name ("invalid choice: " ++ quoted value ++ " (choose from " ++
      ", ".intercalate (allowed.map quoted) ++ ")")
  | missing names => "the following arguments are required: " ++ ", ".intercalate names
  | unrecognized words => "unrecognized arguments: " ++ " ".intercalate words
where
  about (name text : String) : String := "argument " ++ name ++ ": " ++ text

/-- How a value stands in the word of its option. -/
inductive Attached where
  | none
  | equals (value : String)
  /-- Right after the letter of the option. -/
  | joined (value : String)
deriving DecidableEq, Repr

/-- What a word of a call is. -/
inductive Token where
  /-- The word after which there are no options. -/
  | separator
  /-- A word that is no option. -/
  | plain (word : String)
  /-- An option, by the name that is meant. -/
  | option (word : String) (rule : OptionRule) (attached : Attached)
  /-- An option that is not known. -/
  | unknown (word : String)
deriving DecidableEq, Repr

namespace Token

/-- The word that separates. -/
def separatorWord : String := "--"

/-- The word. -/
def word : Token → String
  | separator => separatorWord
  | plain word | option word .. | unknown word => word

/-- Whether the word is an option. -/
def isOption : Token → Bool
  | option .. | unknown _ => true
  | separator | plain _ => false

end Token

/-- Whether the word is a hyphen with a number after it, which is no option. -/
def isNegativeNumber (word : List Char) : Bool :=
  let isDigit (c : Char) : Bool := (digitValue? c).isSome
  match word with
  | '-' :: s =>
    let s := if s.getLast? = some '\n' then s.dropLast else s
    let fraction := (s.dropWhile isDigit).drop 1
    (!s.isEmpty && s.all isDigit) ||
      ((s.dropWhile isDigit).head? == some '.' && !fraction.isEmpty && fraction.all isDigit)
  | _ => false

namespace Grammar

/-- The names of the options with their rules. -/
def named (g : Grammar) : List (String × OptionRule) :=
  g.options.flatMap fun rule => rule.names.map fun name => (name, rule)

/-- The options that a word may stand for that is no name, given the part before an equals sign and the
part after it. -/
def candidates (g : Grammar) (word front : String) (back : Option String) :
    List (String × OptionRule × Attached) :=
  g.named.filterMap fun (name, rule) =>
    match word.toList with
    | '-' :: '-' :: _ =>
      if name.startsWith front then
        some (name, rule, (back.map Attached.equals).getD .none)
      else none
    | h :: letter :: value =>
      if name.toList == [h, letter] then some (name, rule, .joined (String.ofList value))
      else if name.startsWith word then some (name, rule, .none)
      else none
    | _ => none

/-- What a word that stands before the separator is. -/
def token (g : Grammar) (word : String) : Except UsageFault Token :=
  let (front, back) := match cutFirst? '=' word.toList with
    | some (front, back) => (String.ofList front, some (String.ofList back))
    | none => (word, none)
  match word.toList, g.named.lookup word, g.named.lookup front, back with
  | '-' :: _, some rule, _, _ => .ok (.option word rule .none)
  | '-' :: _ :: _, none, some rule, some value => .ok (.option word rule (.equals value))
  | '-' :: _ :: _, none, _, _ =>
    match g.candidates word front back with
    | [(_, rule, attached)] => .ok (.option word rule attached)
    | [] =>
      if isNegativeNumber word.toList || word.toList.contains ' ' then .ok (.plain word)
      else .ok (.unknown word)
    | several => .error (.ambiguous word (several.map (·.1)))
  | _, _, _, _ => .ok (.plain word)

/-- What the words of a call are. -/
def tokens (g : Grammar) : List String → Except UsageFault (List Token)
  | [] => .ok []
  | word :: words =>
    if word = Token.separatorWord then .ok (.separator :: words.map Token.plain)
    else do return (← g.token word) :: (← g.tokens words)

end Grammar

end IntentSpec.Cli
