/-!
# Characters

A class of characters is a list of closed intervals of code points, or said by a few comparisons.

Two classes of blank characters are in use.  The patterns that classify the lines of a document know
the six ASCII blanks only; trimming and splitting into words know all blanks of Unicode together with
the four information separators.

The identifiers of a document are ASCII words that begin with a letter.  Validation identifiers may
also hold hyphens but do not end in one.

Every script with decimal digits encodes them as ten consecutive characters, zero first.  Reading an
integer accepts the digits of all of them.

## Main definitions

* `Text.inIntervals` — membership in one of several intervals.
* `Text.isAsciiBlank`, `Text.isBlank` — the two classes of blanks.
* `Text.trim` — a text without the blanks at its two ends.
* `Text.skipAsciiBlanks` — the rest of a text after its leading ASCII blanks.
* `Text.isAsciiLetter`, `Text.isAsciiDigit`, `Text.isAsciiWord` — the classes of words.
* `Text.foldAscii` — the lower case of an ASCII letter.
* `Text.identifier?`, `Text.hyphenated?` — an identifier at the front of a text, and the rest.
* `Text.dropWord?` — the rest of a text after a fixed word.
* `Text.digitZeros` — the zeros of Unicode 14, in increasing order.
* `Text.digitValue?` — the value of a decimal digit.
-/

namespace IntentSpec.Text

/-- Whether a code point lies in one of the closed intervals. -/
def inIntervals (n : Nat) (intervals : List (Nat × Nat)) : Bool :=
  intervals.any fun interval => interval.1 ≤ n && n ≤ interval.2

/-! ## Blanks -/

/-- Space, tab, line feed, carriage return, form feed and vertical tab. Patterns only know these as
blanks. -/
def isAsciiBlank (c : Char) : Bool :=
  c == ' ' || (9 ≤ c.toNat && c.toNat ≤ 13)

/-- The blanks of Unicode and the information separators, as closed intervals in increasing order. -/
def blankIntervals : List (Nat × Nat) :=
  [(0x09, 0x0d), (0x1c, 0x20), (0x85, 0x85), (0xa0, 0xa0), (0x1680, 0x1680), (0x2000, 0x200a),
   (0x2028, 0x2029), (0x202f, 0x202f), (0x205f, 0x205f), (0x3000, 0x3000)]

/-- Whether trimming removes the character. These are the blanks of all scripts, and the separators
of information among them. -/
def isBlank (c : Char) : Bool := inIntervals c.toNat blankIntervals

/-- A text without its leading blanks. -/
def trimStart (s : List Char) : List Char := s.dropWhile isBlank

/-- A text without its trailing blanks. -/
def trimEnd (s : List Char) : List Char := (s.reverse.dropWhile isBlank).reverse

/-- A text without the blanks at its two ends, in whatever script they are. -/
def trim (s : List Char) : List Char := trimEnd (trimStart s)

/-- Whether a text has no character but blanks. -/
def isBlankText (s : String) : Bool := s.toList.all isBlank

/-- The rest of a text after its leading ASCII blanks. -/
def skipAsciiBlanks (s : List Char) : List Char := s.dropWhile isAsciiBlank

/-! ## ASCII words and identifiers -/

/-- The unaccented Latin letters. -/
def isAsciiLetter (c : Char) : Bool := ('a' ≤ c && c ≤ 'z') || ('A' ≤ c && c ≤ 'Z')

/-- The digits zero to nine. -/
def isAsciiDigit (c : Char) : Bool := '0' ≤ c && c ≤ '9'

/-- ASCII letters, digits and the underscore. -/
def isAsciiWord (c : Char) : Bool := isAsciiLetter c || isAsciiDigit c || c == '_'

/-- The lower case of an ASCII letter; every other character is left alone. -/
def foldAscii (c : Char) : Char :=
  if 'A' ≤ c && c ≤ 'Z' then Char.ofNat (c.toNat + 32) else c

/-- The rest of a text after a fixed word at its front. -/
def dropWord? : List Char → List Char → Option (List Char)
  | [], s => some s
  | _ :: _, [] => none
  | w :: word, c :: s => if w == c then dropWord? word s else none

/-- The longest identifier at the front of a text, and the rest. -/
def identifier? : List Char → Option (List Char × List Char)
  | [] => none
  | c :: s =>
    if isAsciiLetter c then some (c :: s.takeWhile isAsciiWord, s.dropWhile isAsciiWord) else none

/-- The longest identifier with inner hyphens at the front of a text.  Hyphens at its end are not
part of it, since an identifier ends where a word ends. -/
def hyphenated? : List Char → Option (List Char)
  | [] => none
  | c :: s =>
    if isAsciiLetter c then
      let run := s.takeWhile fun d => isAsciiWord d || d == '-'
      some (c :: (run.reverse.dropWhile (· == '-')).reverse)
    else none

/-! ## Decimal digits -/

/-- The code points of the digit zero of each script, in increasing order. -/
def digitZeros : List Nat := [
  0x30, 0x660, 0x6f0, 0x7c0, 0x966, 0x9e6, 0xa66, 0xae6, 0xb66, 0xbe6,
  0xc66, 0xce6, 0xd66, 0xde6, 0xe50, 0xed0, 0xf20, 0x1040, 0x1090, 0x17e0,
  0x1810, 0x1946, 0x19d0, 0x1a80, 0x1a90, 0x1b50, 0x1bb0, 0x1c40, 0x1c50, 0xa620,
  0xa8d0, 0xa900, 0xa9d0, 0xa9f0, 0xaa50, 0xabf0, 0xff10, 0x104a0, 0x10d30, 0x11066,
  0x110f0, 0x11136, 0x111d0, 0x112f0, 0x11450, 0x114d0, 0x11650, 0x116c0, 0x11730, 0x118e0,
  0x11950, 0x11c50, 0x11d50, 0x11da0, 0x16a60, 0x16ac0, 0x16b50, 0x1d7ce, 0x1d7d8, 0x1d7e2,
  0x1d7ec, 0x1d7f6, 0x1e140, 0x1e2f0, 0x1e950, 0x1fbf0]

/-- The value of a decimal digit of any script, if the character is one. -/
def digitValue? (c : Char) : Option Nat :=
  (digitZeros.find? fun first => first ≤ c.toNat && c.toNat < first + 10).map (c.toNat - ·)

end IntentSpec.Text
