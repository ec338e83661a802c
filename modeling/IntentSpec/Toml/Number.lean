import IntentSpec.Datum.Basic
import IntentSpec.Text.Numeral
import IntentSpec.Toml.Text

/-!
# Numbers and times in TOML

A value that begins with a digit or a sign is a time, an integer or a floating-point number, and is
looked at in this order.

## Main definitions

* `Toml.Fault` — why a document is not read.
* `Toml.moment?` — days and times of day.
* `Toml.number?` — integers and floating-point numbers.
-/

namespace IntentSpec.Toml

open Text

/-- Why a document is not read. An integer with too many digits is well formed and a fault of its
own. -/
inductive Fault where
  | malformed
  /-- An integer has too many digits. -/
  | numeral (e : NumeralError)
deriving DecidableEq, Repr

/-- The value of a number of digits at the front, and the characters after them. -/
def digits? (width : Nat) (s : List Char) : Option (Nat × List Char) :=
  let run := s.take width
  if run.length = width ∧ run.all isAsciiDigit then
    some (run.foldl (fun n c => 10 * n + (c.toNat - 48)) 0, s.drop width)
  else none

/-- The characters after a mark. -/
def mark? (c : Char) : List Char → Option (List Char)
  | d :: s => if d = c then some s else none
  | [] => none

/-- The millionths of a second that digits after a point give.  Further digits are dropped. -/
def micros (digits : List Char) : Nat :=
  (digits ++ List.replicate 6 '0').take 6 |>.foldl (fun n c => 10 * n + (c.toNat - 48)) 0

/-- A time of day at the front, and the characters after it. -/
def timeOfDay? (s : List Char) : Option (TimeOfDay × List Char) := do
  let (hour, s) ← digits? 2 s
  let (minute, s) ← digits? 2 (← mark? ':' s)
  let (second, s) ← digits? 2 (← mark? ':' s)
  if 23 < hour || 59 < minute || 59 < second then none
  match s with
  | '.' :: d :: rest =>
    if isAsciiDigit d then
      return (⟨hour, minute, second, micros (d :: rest.takeWhile isAsciiDigit)⟩, rest.dropWhile isAsciiDigit)
    else return (⟨hour, minute, second, 0⟩, s)
  | _ => return (⟨hour, minute, second, 0⟩, s)

/-- The minutes by which a clock is ahead of that of Greenwich, if they are given, and the characters after
them. -/
def offset (s : List Char) : Option Int × List Char :=
  match s with
  | 'Z' :: rest | 'z' :: rest => (some 0, rest)
  | c :: rest =>
    if c = '+' || c = '-' then
      match (do
        let (hour, s) ← digits? 2 rest
        let (minute, s) ← digits? 2 (← mark? ':' s)
        if 23 < hour || 59 < minute then none
        return (hour * 60 + minute, s) : Option (Nat × List Char)) with
      | some (minutes, s) => (some (if c = '-' then -minutes else minutes), s)
      | none => (none, s)
    else (none, s)
  | [] => (none, [])

/-- The number of days of a month. -/
def daysIn (year month : Nat) : Nat :=
  if month = 2 then
    if year % 4 = 0 ∧ (year % 100 ≠ 0 ∨ year % 400 = 0) then 29 else 28
  else if [4, 6, 9, 11].contains month then 30 else 31

/-- A day or a time of day at the front, and the characters after it.  There may be none; a day that is
not in the calendar is malformed. -/
def moment? (s : List Char) : Except Fault (Option (Moment × List Char)) :=
  let day : Option (Day × List Char) := do
    let (year, s) ← digits? 4 s
    let (month, s) ← digits? 2 (← mark? '-' s)
    let (day, s) ← digits? 2 (← mark? '-' s)
    if month = 0 || 12 < month || day = 0 || 31 < day then none
    return (⟨year, month, day⟩, s)
  match day with
  | some (day, s) =>
    if day.year = 0 ∨ daysIn day.year day.month < day.day then .error .malformed
    else
      match s with
      | c :: rest =>
        if c = 'T' || c = 't' || c = ' ' then
          match timeOfDay? rest with
          | some (time, s) =>
            let (ahead, s) := offset s
            .ok (some (.datetime day time ahead, s))
          | none => .ok (some (.date day, s))
        else .ok (some (.date day, s))
      | [] => .ok (some (.date day, s))
  | none => .ok ((timeOfDay? s).map fun (time, s) => (.time time, s))

/-- The longest run of digits at the front in which single underscores may stand between digits, and the
characters after it. -/
def run (isDigit : Char → Bool) : List Char → List Char × List Char
  | [] => ([], [])
  | c :: s =>
    if isDigit c then
      let (more, rest) := run isDigit s
      (c :: more, rest)
    else if c = '_' then
      match s with
      | d :: _ => if isDigit d then run isDigit s else ([], c :: s)
      | [] => ([], c :: s)
    else ([], c :: s)

/-- A run of digits that begins with a digit. -/
def runOf? (isDigit : Char → Bool) (s : List Char) : Option (List Char × List Char) :=
  match s with
  | c :: _ => if isDigit c then some (run isDigit s) else none
  | [] => none

/-- The digits of a base that is written with a letter. -/
def baseOf? : Char → Option (Nat × (Char → Bool))
  | 'x' => some (16, fun c => (hexValue? [c]).isSome)
  | 'o' => some (8, fun c => '0' ≤ c && c ≤ '7')
  | 'b' => some (2, fun c => c == '0' || c == '1')
  | _ => none

/-- An integer in another base than ten. -/
def based? (s : List Char) : Option (Int × List Char) :=
  match s with
  | '0' :: letter :: s => do
    let (base, isDigit) ← baseOf? letter
    let (digits, rest) ← runOf? isDigit s
    return (digits.foldl (fun n c => base * n + ((hexValue? [c]).getD 0 : Nat)) (0 : Nat), rest)
  | _ => none

/-- The digits in front of the point: a zero, or digits without a zero in front. -/
def whole? (s : List Char) : Option (List Char × List Char) :=
  match s with
  | '0' :: rest => some (['0'], rest)
  | _ => runOf? isAsciiDigit s

/-- The digits after the point, if there is one with a digit after it. -/
def fraction (s : List Char) : Option (List Char) × List Char :=
  match s with
  | '.' :: rest =>
    match runOf? isAsciiDigit rest with
    | some (digits, rest) => (some digits, rest)
    | none => (none, s)
  | _ => (none, s)

/-- The exponent, if there is a whole one. -/
def exponent (s : List Char) : Option Int × List Char :=
  match s with
  | c :: rest =>
    if c = 'e' || c = 'E' then
      let (negative, digits) := sign rest
      match runOf? isAsciiDigit digits with
      | some (digits, rest) =>
        let n : Nat := digits.foldl (fun n c => 10 * n + (c.toNat - 48)) 0
        (some (if negative then -n else n), rest)
      | none => (none, s)
    else (none, s)
  | [] => (none, s)

/-- A decimal integer or floating-point number. -/
def decimal? (s : List Char) : Except Fault (Option (Datum × List Char)) :=
  let (negative, unsigned) := sign s
  match whole? unsigned with
  | none => .ok none
  | some (whole, rest) =>
    let (part, rest) := fraction rest
    let (power, rest) := exponent rest
    if part.isSome || power.isSome then
      let digits : Nat := (whole ++ part.getD []).foldl (fun n c => 10 * n + (c.toNat - 48)) 0
      let x := Binary64.ofDecimal negative digits (power.getD 0 - (part.getD []).length)
      .ok (some (.number x, rest))
    else if maxDigits < whole.length then .error (.numeral (.tooLong whole.length))
    else
      let n : Nat := whole.foldl (fun n c => 10 * n + (c.toNat - 48)) 0
      .ok (some (.int (if negative then -n else n), rest))

/-- A number that is no finite one. -/
def special? (s : List Char) : Option (Datum × List Char) :=
  let (negative, s) := sign s
  match s with
  | 'i' :: 'n' :: 'f' :: rest => some (.number (.infinity negative), rest)
  | 'n' :: 'a' :: 'n' :: rest => some (.number .nan, rest)
  | _ => none

/-- A number at the front, and the characters after it. -/
def number? (s : List Char) : Except Fault (Option (Datum × List Char)) :=
  match based? s with
  | some (n, rest) => .ok (some (.int n, rest))
  | none => do
    match ← decimal? s with
    | some found => return some found
    | none => return special? s

end IntentSpec.Toml
