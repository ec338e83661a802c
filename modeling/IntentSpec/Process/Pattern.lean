/-!
# Patterns

In a pattern an asterisk stands for any characters, a question mark for one, and brackets for one of
several; in quotes each of these stands for itself.

## Main definitions

* `Pattern.Item`, `Pattern` — what a pattern consists of.
* `Pattern.read` — the pattern that characters are, some of them in quotes.
* `Pattern.fits` — whether a pattern fits a whole text.
* `Pattern.withoutFront`, `Pattern.withoutBack` — a text without what a pattern fits at one of its ends.
-/

namespace IntentSpec

/-- A part of a pattern. -/
inductive Pattern.Item where
  | any
  | one
  | exactly (c : Char)
  /-- A character between the ends of one of several ranges, or between none. -/
  | among (outside : Bool) (ranges : List (Char × Char))
deriving DecidableEq, Repr

/-- A pattern. -/
abbrev Pattern := List Pattern.Item

namespace Pattern

/-- Whether a part stands for a character. -/
def Item.allows (c : Char) : Item → Bool
  | any | one => true
  | exactly d => c == d
  | among outside ranges => ranges.any (fun (low, high) => low ≤ c && c ≤ high) != outside

/-- The ranges that characters between brackets name. -/
def rangesOf : List Char → List (Char × Char)
  | low :: '-' :: high :: s => (low, high) :: rangesOf s
  | c :: s => (c, c) :: rangesOf s
  | [] => []

/-- The characters up to the bracket that closes a set, which is not the first character. -/
def setText? (first : Bool) : List (Char × Bool) → Option (List Char × Nat)
  | [] => none
  | (c, quoted) :: s =>
    if c = ']' && !quoted && !first then some ([], 1)
    else (setText? false s).map fun (text, n) => (c :: text, n + 1)

/-- The set that an opening bracket begins, and how many characters it takes after the bracket. -/
def set? (s : List (Char × Bool)) : Option (Item × Nat) :=
  match s with
  | (mark, false) :: rest =>
    if mark = '!' || mark = '^' then
      (setText? true rest).map fun (text, n) => (.among true (rangesOf text), n + 1)
    else (setText? true s).map fun (text, n) => (.among false (rangesOf text), n)
  | _ => (setText? true s).map fun (text, n) => (.among false (rangesOf text), n)

/-- The pattern that characters are, each of which may be in quotes; `skip` of them have been read. -/
def readFrom : Nat → List (Char × Bool) → Pattern
  | _, [] => []
  | skip + 1, _ :: s => readFrom skip s
  | 0, (c, quoted) :: s =>
    if quoted then .exactly c :: readFrom 0 s
    else
      match c with
      | '*' => .any :: readFrom 0 s
      | '?' => .one :: readFrom 0 s
      | '[' =>
        match set? s with
        | some (item, n) => item :: readFrom n s
        | none => .exactly c :: readFrom 0 s
      | _ => .exactly c :: readFrom 0 s

/-- The pattern that characters are, each of which may be in quotes. -/
def read (s : List (Char × Bool)) : Pattern := readFrom 0 s

/-- Whether a pattern fits a whole text. -/
def fits : Pattern → List Char → Bool
  | [], s => s.isEmpty
  | .any :: p, s => (List.range (s.length + 1)).any fun n => fits p (s.drop n)
  | item :: p, c :: s => item.allows c && fits p s
  | _ :: _, [] => false

/-- The numbers up to another one, beginning with the least or with the greatest. -/
def lengths (longest : Bool) (n : Nat) : List Nat :=
  let all := List.range (n + 1)
  if longest then all.reverse else all

/-- A text without the shortest or the longest beginning that a pattern fits. -/
def withoutFront (p : Pattern) (longest : Bool) (s : List Char) : List Char :=
  match (lengths longest s.length).find? fun n => p.fits (s.take n) with
  | some n => s.drop n
  | none => s

/-- A text without the shortest or the longest end that a pattern fits. -/
def withoutBack (p : Pattern) (longest : Bool) (s : List Char) : List Char :=
  match (lengths longest s.length).find? fun n => p.fits (s.drop (s.length - n)) with
  | some n => s.take (s.length - n)
  | none => s

end Pattern

end IntentSpec
