import IntentSpec.Process.Calculation
import IntentSpec.Text.Pieces
import IntentSpec.Text.Utf8

/-!
# What commands write

Commands write bytes.  An escape in a format is a control character or a byte given by octal digits, and
a format is used again until all arguments have been written.

## Main definitions

* `Output.unescape` — characters with escapes as bytes.
* `Output.echo`, `Output.scriptEcho` — arguments separated by blanks.
* `Output.Directive` — how a format shows one argument.
* `Output.Fault`, `Output.Formatted`, `Output.formatted` — arguments under a format.
-/

namespace IntentSpec.Output

open Text

/-- The bytes of characters. -/
def bytes (s : List Char) : List UInt8 := Utf8.encode (String.ofList s)

/-- The number that digits stand for. -/
def number? (s : List Char) : Option Nat :=
  if s.isEmpty || !s.all isAsciiDigit then none
  else some (s.foldl (fun n c => 10 * n + (c.toNat - 48)) 0)

/-! ## Escapes -/

/-- The control character that a letter after a backslash names. -/
def control? : Char → Option UInt8
  | 'a' => some 7
  | 'b' => some 8
  | 'f' => some 12
  | 'n' => some 10
  | 'r' => some 13
  | 't' => some 9
  | 'v' => some 11
  | '\\' => some 92
  | '"' => some 34
  | _ => none

/-- Whether the character is an octal digit. -/
def isOctal (c : Char) : Bool := '0' ≤ c && c ≤ '7'

/-- The value of octal digits as a byte. -/
def octal (digits : List Char) : UInt8 :=
  (digits.foldl (fun (n : Nat) c => 8 * n + (c.toNat - 48)) 0).toUInt8

/-- The value of an escape, given what follows the backslash, and how many characters it takes.  Outside
formats a zero in front of the octal digits is not counted among them. -/
def escape? (inFormat : Bool) (s : List Char) : Option (UInt8 × Nat) :=
  match s with
  | [] => none
  | c :: _ =>
    if isOctal c then
      let digits := (s.takeWhile isOctal).take (if c = '0' && !inFormat then 4 else 3)
      some (octal digits, digits.length)
    else (control? c).map fun b => (b, 1)

/-- The bytes of characters with escapes up to one that ends all output, and whether there is such a one;
`skip` characters have been read. -/
def unescape : Nat → List Char → List UInt8 × Bool
  | _, [] => ([], false)
  | skip + 1, _ :: s => unescape skip s
  | 0, c :: s =>
    let front (b : List UInt8) (more : List UInt8 × Bool) := (b ++ more.1, more.2)
    if c = '\\' then
      if s.head? = some 'c' then ([], true)
      else
        match escape? false s with
        | some (b, taken) => front [b] (unescape taken s)
        | none => front [92] (unescape 0 s)
    else front (bytes [c]) (unescape 0 s)

/-- Arguments separated by blanks, and a line feed after them. -/
def joined (escapes suppressed : Bool) (arguments : List (List Char)) : List UInt8 :=
  let text := [' '].intercalate arguments
  let (b, stopped) := if escapes then unescape 0 text else (bytes text, false)
  b ++ (if suppressed || stopped then [] else [10])

/-- What an echo writes within a script: escapes are resolved, and a mark in front suppresses the line
feed. -/
def scriptEcho : List (List Char) → List UInt8
  | ['-', 'n'] :: arguments => joined true true arguments
  | arguments => joined true false arguments

/-- Whether a word holds options of the program that echoes. -/
def isEchoOption : List Char → Bool
  | '-' :: letters => !letters.isEmpty && letters.all fun c => ['n', 'e', 'E'].contains c
  | _ => false

/-- What the program that echoes writes: escapes are resolved on request only. -/
def echo (arguments : List (List Char)) : List UInt8 :=
  let options := (arguments.takeWhile isEchoOption).flatten
  let escapes := (options.filter fun c => c == 'e' || c == 'E').getLast? == some 'e'
  joined escapes (options.contains 'n') (arguments.dropWhile isEchoOption)

/-! ## Formats -/

/-- What is wrong with a format or an argument. -/
inductive Fault where
  | notNumber (argument : List Char)
  /-- Only the beginning of an argument is a number. -/
  | partly (argument : List Char)
  | form (directive : List Char)
  | noForm
deriving DecidableEq, Repr

/-- The wording of a fault. -/
def Fault.message : Fault → String
  | notNumber argument => String.ofList argument ++ ": expected numeric value"
  | partly argument => String.ofList argument ++ ": not completely converted"
  | form directive => "%" ++ String.ofList directive ++ ": invalid directive"
  | noForm => "missing format character"

/-- Whether nothing is written after a fault. -/
def Fault.isFatal : Fault → Bool
  | form _ | noForm => true
  | notNumber _ | partly _ => false

/-- How a format shows one argument. -/
structure Directive where
  /-- The marks in front of the width. -/
  marks : List Char
  /-- The least number of bytes; none if an argument says it. -/
  width : Option Nat
  /-- The greatest number of bytes of a text, or the least number of digits. -/
  precision : Option Nat
  form : Char
  /-- The characters of the directive after its percent sign. -/
  text : List Char
deriving DecidableEq, Repr

namespace Directive

/-- The directive in front of a text, which follows a percent sign. -/
def read? (s : List Char) : Option Directive :=
  let marks := s.takeWhile fun c => ['-', '0', '+', ' ', '#'].contains c
  let afterMarks := s.drop marks.length
  let width := match afterMarks with
    | '*' :: _ => ['*']
    | _ => afterMarks.takeWhile isAsciiDigit
  let afterWidth := afterMarks.drop width.length
  let precision := match afterWidth with
    | '.' :: rest => '.' :: rest.takeWhile isAsciiDigit
    | _ => []
  (afterWidth.drop precision.length).head?.map fun form =>
    { marks, form
      width := if width = ['*'] then none else some ((number? width).getD 0)
      precision := if precision.isEmpty then none else some ((number? precision.tail).getD 0)
      text := s.take (marks.length + width.length + precision.length + 1) }

/-- Brings bytes to the width of a directive. -/
def pad (d : Directive) (b : List UInt8) : List UInt8 :=
  let missing := List.replicate (d.width.getD 0 - b.length) 32
  if d.marks.contains '-' then b ++ missing else missing ++ b

/-- The bytes of a text, at most as many as the directive says. -/
def cut (d : Directive) (b : List UInt8) : List UInt8 :=
  match d.precision with
  | some n => b.take n
  | none => b

/-- The digits of a number to a base, in capitals or not. -/
def digits (capitals : Bool) (base n : Nat) : List Char :=
  (Nat.toDigits base n).map fun c =>
    if capitals && 'a' ≤ c && c ≤ 'z' then Char.ofNat (c.toNat - 32) else c

/-- The bytes of a number, given its sign and its digits. -/
def shownNumber (d : Directive) (sign : List Char) (digits : List Char) : List UInt8 :=
  let least := match d.precision with
    | some n => n
    | none =>
      if d.marks.contains '0' && !d.marks.contains '-' then d.width.getD 0 - sign.length else 0
  d.pad (bytes (sign ++ List.replicate (least - digits.length) '0' ++ digits))

/-- The longest number at the front of an argument, and what follows it. -/
def numberFrom (argument : List Char) : Int × List Char :=
  let s := argument.dropWhile isBlank
  let (negative, s) := match s with
    | '-' :: rest => (true, rest)
    | '+' :: rest => (false, rest)
    | _ => (false, s)
  let (base, skipped) := match s with
    | '0' :: 'x' :: c :: _ => if (Calculation.digit? 16 c).isSome then (16, 2) else (8, 0)
    | '0' :: _ => (8, 0)
    | _ => (10, 0)
  let shown := (s.drop skipped).takeWhile fun c => (Calculation.digit? base c).isSome
  let n := (Calculation.digits? base shown).getD 0
  (if negative then -n else n, if shown.isEmpty then argument else s.drop (skipped + shown.length))

/-- The number that an argument is, and what is wrong with it. -/
def numberOf (argument : List Char) : Int × List Fault :=
  match argument with
  | [] => (0, [])
  | '\'' :: rest | '"' :: rest => ((bytes rest).head?.elim 0 fun b => b.toNat, [])
  | _ =>
    match numberFrom argument with
    | (n, []) => (n, [])
    | (n, rest) => (n, [if rest = argument then .notNumber argument else .partly argument])

/-- An integer without sign within 64 bits. -/
def unsigned (n : Int) : Nat := Calculation.bits n

/-- What a directive writes for an argument, whether it ends all output, and what is wrong. -/
def shown (d : Directive) (argument : List Char) : List UInt8 × Bool × List Fault :=
  let numeric (sign : Int → List Char) (digits : Int → List Char) : List UInt8 × Bool × List Fault :=
    let (n, faults) := numberOf argument
    (d.shownNumber (sign n) (digits n), false, faults)
  let marked (mark : List Char) (_ : Int) : List Char := if d.marks.contains '#' then mark else []
  match d.form with
  | 's' => (d.pad (d.cut (bytes argument)), false, [])
  | 'b' =>
    let (b, stopped) := unescape 0 argument
    (d.pad (d.cut b), stopped, [])
  | 'c' => (d.pad (if argument.isEmpty then [0] else (bytes argument).take 1), false, [])
  | 'd' | 'i' =>
    numeric (fun n => if n < 0 then ['-'] else if d.marks.contains '+' then ['+']
        else if d.marks.contains ' ' then [' '] else [])
      fun n => digits false 10 n.natAbs
  | 'u' => numeric (fun _ => []) fun n => digits false 10 (unsigned n)
  | 'x' => numeric (marked ['0', 'x']) fun n => digits false 16 (unsigned n)
  | 'X' => numeric (marked ['0', 'X']) fun n => digits true 16 (unsigned n)
  | 'o' => numeric (marked ['0']) fun n => digits false 8 (unsigned n)
  | _ => ([], true, [.form d.text])

end Directive

/-- What is written under a format. -/
structure Formatted where
  bytes : List UInt8
  arguments : List (List Char) := []
  stopped : Bool := false
  faults : List Fault := []
deriving Repr

/-- What is written after something else. -/
def Formatted.after (f : Formatted) (b : List UInt8) (faults : List Fault := []) : Formatted :=
  { f with bytes := b ++ f.bytes, faults := faults ++ f.faults }

/-- One use of a format; `skip` characters have been read. -/
def format (skip : Nat) (arguments : List (List Char)) : List Char → Formatted
  | [] => { bytes := [], arguments }
  | c :: s =>
    match skip with
    | skip + 1 => format skip arguments s
    | 0 =>
      if c = '\\' then
        match escape? true s with
        | some (b, taken) => (format taken arguments s).after [b]
        | none => (format 0 arguments s).after [92]
      else if c = '%' then
        if s.head? = some '%' then (format 1 arguments s).after [37]
        else
          match Directive.read? s with
          | none => { bytes := [], stopped := true, faults := [.noForm] }
          | some d =>
            let (width, arguments) := match d.width with
              | some n => (n, arguments)
              | none => ((Directive.numberOf (arguments.headD [])).1.natAbs, arguments.tail)
            let (b, stopped, faults) := { d with width := some width }.shown (arguments.headD [])
            if stopped then { bytes := b, stopped, faults }
            else (format d.text.length arguments.tail s).after b faults
      else (format 0 arguments s).after (bytes [c])

/-- Arguments under a format, which is used at most a given number of times. -/
def formattedUpTo : Nat → List Char → List (List Char) → Formatted
  | 0, _, _ => { bytes := [] }
  | uses + 1, pattern, arguments =>
    let f := format 0 arguments pattern
    if f.stopped || f.arguments.isEmpty || f.arguments.length = arguments.length then f
    else (formattedUpTo uses pattern f.arguments).after f.bytes f.faults

/-- Arguments under a format. -/
def formatted (pattern : List Char) (arguments : List (List Char)) : Formatted :=
  formattedUpTo (arguments.length + 1) pattern arguments

end IntentSpec.Output
