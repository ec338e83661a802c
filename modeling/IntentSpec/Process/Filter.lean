import IntentSpec.Process.Output
import IntentSpec.Sorting

/-!
# Programs that turn an input into an output

A few programs read bytes and write bytes and do nothing else.  Each is a function of its arguments and
of its input; arguments that it does not know have no answer.

## Main definitions

* `Filter.Selection`, `Filter.head?`, `Filter.tail?` — the beginning and the end of an input.
* `Filter.exchange?`, `Filter.count?`, `Filter.sort?`, `Filter.unique?` — the characters exchanged, the
  size of an input, its lines in order, and those that differ from the one before.
* `Filter.sequence?` — numbers in a row.
-/

namespace IntentSpec.Filter

open Text Output

/-! ## Lines -/

/-- The lines of bytes; what follows the last line feed is a line if it is not empty. -/
def lines : List UInt8 → List (List UInt8)
  | [] => []
  | b :: rest =>
    if b = 10 then [] :: lines rest
    else
      match lines rest with
      | [] => [[b]]
      | line :: more => if rest.head? = some 10 then [b] :: (lines rest).tail else (b :: line) :: more

/-- Lines, each with its end. -/
def ofLines (l : List (List UInt8)) : List UInt8 := l.flatMap (· ++ [10])

/-- The length of the first lines of bytes. -/
def lengthOfLines : Nat → List UInt8 → Nat
  | 0, _ => 0
  | _, [] => 0
  | n + 1, b :: rest => lengthOfLines (if b = 10 then n else n + 1) rest + 1

/-! ## The beginning and the end -/

/-- How much of an input is meant. -/
structure Selection where
  /-- Whether bytes are counted, and not lines. -/
  inBytes : Bool
  count : Nat
  /-- Whether it is counted from the beginning although the end is meant. -/
  fromFront : Bool := false
deriving DecidableEq, Repr

/-- The number of a selection, which may have a plus sign. -/
def amount? (inBytes : Bool) : List Char → Option Selection
  | '+' :: s => (number? s).map fun n => ⟨inBytes, n, true⟩
  | s => (number? s).map fun n => { inBytes, count := n }

/-- The selection that arguments make, and the files that they name. -/
def selection? (arguments : List (List Char)) : Option (Selection × List (List Char)) :=
  match arguments with
  | ['-', 'c'] :: n :: files => (amount? true n).map fun s => (s, files)
  | ['-', 'n'] :: n :: files => (amount? false n).map fun s => (s, files)
  | ('-' :: 'c' :: n) :: files => (amount? true n).map fun s => (s, files)
  | ('-' :: 'n' :: n) :: files => (amount? false n).map fun s => (s, files)
  | ['-'] :: files => some ({ inBytes := false, count := 10 }, ['-'] :: files)
  | ('-' :: n) :: files => (amount? false n).map fun s => (s, files)
  | files => some ({ inBytes := false, count := 10 }, files)

/-- The length of the beginning of an input. -/
def Selection.length (s : Selection) (input : List UInt8) : Nat :=
  if s.inBytes then s.count else lengthOfLines s.count input

/-- The end of an input. -/
def Selection.ending (s : Selection) (input : List UInt8) : List UInt8 :=
  match s.fromFront, s.inBytes with
  | true, _ => input.drop ({ s with count := s.count - 1 }.length input)
  | false, true => input.drop (input.length - s.count)
  | false, false =>
    let total := (lines input).length
    input.drop (lengthOfLines (total - s.count) input)

/-! ## Characters -/

/-- The sets of characters with a name. -/
def classes : List (String × List (Nat × Nat)) :=
  [("[:lower:]", [(97, 122)]), ("[:upper:]", [(65, 90)]), ("[:digit:]", [(48, 57)]),
   ("[:alpha:]", [(65, 90), (97, 122)]), ("[:alnum:]", [(48, 57), (65, 90), (97, 122)]),
   ("[:space:]", [(9, 13), (32, 32)]), ("[:blank:]", [(9, 9), (32, 32)]),
   ("[:punct:]", [(33, 47), (58, 64), (91, 96), (123, 126)])]

/-- The bytes from one to another. -/
def range (low high : Nat) : List UInt8 := (List.range (high + 1 - low)).map fun i => (low + i).toUInt8

/-- The bytes of a set of characters; a hyphen between two of them stands for those from one to the
other. -/
def membersFrom : List UInt8 → List UInt8
  | a :: 45 :: b :: rest => range a.toNat b.toNat ++ membersFrom rest
  | a :: rest => a :: membersFrom rest
  | [] => []

/-- The bytes of a set of characters. -/
def members (set : List Char) : List UInt8 :=
  match classes.lookup (String.ofList set) with
  | some ranges => ranges.flatMap fun (low, high) => range low high
  | none => membersFrom (unescape 0 set).1

/-- The byte that takes the place of another one; the last of the new bytes stands for all that the set
is too short for. -/
def exchange : List UInt8 → List UInt8 → UInt8 → UInt8
  | a :: old, n :: new, b => if b = a then n else exchange old (if new.isEmpty then [n] else new) b
  | _, _, b => b

/-- The input with one byte in the place of several equal ones of a set. -/
def squeeze (set : List UInt8) : List UInt8 → List UInt8
  | a :: b :: rest =>
    if a = b && set.contains a then squeeze set (b :: rest) else a :: squeeze set (b :: rest)
  | rest => rest

/-- The input with some of its characters exchanged or left out. -/
def exchange? (arguments : List (List Char)) (input : List UInt8) : Option (List UInt8) :=
  let but (set : List Char) : List UInt8 := (range 0 255).filter fun b => !(members set).contains b
  match arguments with
  | ['-' :: options, old] =>
    match String.ofList options with
    | "d" => some (input.filter fun b => !(members old).contains b)
    | "s" => some (squeeze (members old) input)
    | "cd" | "dc" => some (input.filter (members old).contains)
    | _ => none
  | ['-' :: options, old, new] =>
    match String.ofList options with
    | "s" => some (squeeze (members new) (input.map (exchange (members old) (members new))))
    | "c" => some (input.map (exchange (but old) (members new)))
    | _ => none
  | [old, new] => some (input.map (exchange (members old) (members new)))
  | _ => none

/-! ## Sizes -/

/-- The number of maximal runs without blanks. -/
def wordCount (inWord : Bool) : List UInt8 → Nat
  | [] => if inWord then 1 else 0
  | b :: rest =>
    if b = 32 ∨ (9 ≤ b ∧ b ≤ 13) then (if inWord then 1 else 0) + wordCount false rest
    else wordCount true rest

/-- A number in at least seven places. -/
def inPlaces (n : Nat) : List Char :=
  let digits := (toString n).toList
  List.replicate (7 - digits.length) ' ' ++ digits

/-- The size of the input in lines, words and bytes, or in some of these. -/
def count? (arguments : List (List Char)) (input : List UInt8) : Option (List UInt8) :=
  let wanted := (arguments.flatMap (·.drop 1))
  if !arguments.all (fun a => a.head? == some '-') || !wanted.all ['c', 'l', 'w', 'm'].contains then none
  else
    let wants (c : Char) : Bool := if wanted.isEmpty then c != 'm' else wanted.contains c
    let counts := (if wants 'l' then [input.count 10] else []) ++
      (if wants 'w' then [wordCount false input] else []) ++
      (if wants 'm' then [(Utf8.decodeLenient input).length] else []) ++
      (if wants 'c' then [input.length] else [])
    let shown := match counts with
      | [n] => (toString n).toList
      | several => [' '].intercalate (several.map inPlaces)
    some (bytes shown ++ [10])

/-! ## Lines in order -/

/-- Whether bytes come before others or are equal to them. -/
def comesFirst : List UInt8 → List UInt8 → Bool
  | [], _ => true
  | _ :: _, [] => false
  | a :: s, b :: t => a < b || (a == b && comesFirst s t)

/-- The number in front of a line. -/
def leadingNumber (line : List UInt8) : Int :=
  let s := line.dropWhile fun b => b == 32 || b == 9
  let (negative, s) := match s with
    | 45 :: rest => (true, rest)
    | _ => (false, s)
  let n := (s.takeWhile fun b => 48 ≤ b && b ≤ 57).foldl (fun (n : Nat) b => 10 * n + (b.toNat - 48)) 0
  if negative then -n else n

/-- Lines without those that are equal to the one before. -/
def distinct : List (List UInt8) → List (List UInt8)
  | a :: b :: rest => if a = b then distinct (b :: rest) else a :: distinct (b :: rest)
  | rest => rest

/-- The lines of the input in order. -/
def sort? (arguments : List (List Char)) (input : List UInt8) : Option (List UInt8) :=
  let wanted := arguments.flatMap (·.drop 1)
  if !arguments.all (fun a => a.head? == some '-') || !wanted.all ['n', 'r', 'u'].contains then none
  else
    let before (a b : List UInt8) : Bool :=
      if wanted.contains 'n' && leadingNumber a != leadingNumber b then leadingNumber a < leadingNumber b
      else comesFirst a b
    let sorted := (lines input).mergeSort before
    let sorted := if wanted.contains 'r' then sorted.reverse else sorted
    some (ofLines (if wanted.contains 'u' then distinct sorted else sorted))

/-- Lines with how often each stands there in a row. -/
def runs : List (List UInt8) → List (Nat × List UInt8)
  | [] => []
  | line :: rest =>
    match runs rest with
    | (n, next) :: more => if line = next then (n + 1, next) :: more else (1, line) :: (n, next) :: more
    | [] => [(1, line)]

/-- The lines of the input that differ from the one before. -/
def unique? (arguments : List (List Char)) (input : List UInt8) : Option (List UInt8) :=
  match arguments with
  | [] => some (ofLines (distinct (lines input)))
  | [['-', 'c']] =>
    some (ofLines ((runs (lines input)).map fun (n, line) => bytes (inPlaces n ++ [' ']) ++ line))
  | _ => none

/-- Bytes with each line the other way round. -/
def reversedLines (input : List UInt8) : List UInt8 :=
  let turned := (lines input).map fun line => bytes (Utf8.decodeLenient line).reverse
  if input.getLast? = some 10 then ofLines turned else [10].intercalate turned

/-- The lines of the input from the last to the first; what follows the last line feed has none. -/
def fromLast (input : List UInt8) : List UInt8 :=
  match (lines input).reverse with
  | [] => []
  | last :: more => last ++ (if input.getLast? = some 10 then [10] else []) ++ ofLines more

/-! ## Numbers -/

/-- An integer with an optional sign. -/
def integer? : List Char → Option Int
  | '-' :: s => (number? s).map fun n => -n
  | s => (number? s).map fun n => n

/-- The numbers from one to another in equal steps, one to a line. -/
def sequence? (arguments : List (List Char)) : Option (List UInt8) := do
  let (first, step, last) ← match arguments with
    | [last] => some (1, 1, ← integer? last)
    | [first, last] => some (← integer? first, 1, ← integer? last)
    | [first, step, last] => some (← integer? first, ← integer? step, ← integer? last)
    | _ => none
  let count : Int := if step = 0 then 0 else (last - first).fdiv step + 1
  return (List.range count.toNat).flatMap fun (i : Nat) =>
    bytes (toString (first + step * i)).toList ++ [10]

end IntentSpec.Filter
