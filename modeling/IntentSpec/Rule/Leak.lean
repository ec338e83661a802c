import IntentSpec.Text.Character

/-!
# Signals of a prescribed implementation

A specification says what holds and not how it is done.  Eight signals, looked for anywhere in the text
without regard to ASCII case, give away a prescribed implementation: names of data structures and
policies, bounds on running time, and schedules.  A signal begins and ends at a boundary between a word
character and another one.

## Main definitions

* `Leak.Part`, `Leak.Signal` — patterns.
* `Leak.Signal.rests` — what may follow a signal at the front of a text.
* `Leak.signals` — the eight signals.
* `Leak.found` — whether a text has one of them.
-/

namespace IntentSpec.Leak

open Text

/-- A part of a signal. -/
inductive Part where
  /-- The letters of a text in either case. -/
  | letters (s : String)
  | gap
  | space
  | digits
  /-- The letters of a text in either case, or nothing. -/
  | optional (s : String)
deriving DecidableEq, Repr

/-- A signal is a sequence of parts. -/
abbrev Signal := List Part

/-- The rest of a text after given letters in either case. -/
def dropLetters? : List Char → List Char → Option (List Char)
  | [], s => some s
  | _ :: _, [] => none
  | l :: letters, c :: s => if foldAscii l == foldAscii c then dropLetters? letters s else none

/-- The rest of a text after the longest run of characters of a class, if there is one. -/
def dropRun? (member : Char → Bool) : List Char → Option (List Char)
  | [] => none
  | c :: s => if member c then some (s.dropWhile member) else none

/-- What may follow a part at the front of a text.  A run of blanks or digits is taken as a whole,
since no part begins the way the part before it ends. -/
def Part.rests : Part → List Char → List (List Char)
  | letters w, s => (dropLetters? w.toList s).toList
  | gap, s => [s.dropWhile isAsciiBlank]
  | space, s => (dropRun? isAsciiBlank s).toList
  | digits, s => (dropRun? isAsciiDigit s).toList
  | optional w, s => (dropLetters? w.toList s).toList ++ [s]

/-- What may follow a signal at the front of a text. -/
def Signal.rests : Signal → List Char → List (List Char)
  | [], s => [s]
  | part :: signal, s => (part.rests s).flatMap (Signal.rests signal)

/-- Whether the last character of a part is a word character. -/
def Part.endsInWord : Part → Bool
  | letters w | optional w => w.toList.getLast?.any isAsciiWord
  | gap | space => false
  | digits => true

/-- Whether the last character of a signal is a word character. -/
def Signal.endsInWord (signal : Signal) : Bool := signal.getLast?.any Part.endsInWord

/-- Whether a boundary lies between a character, given by whether it is a word character, and the text
after it. -/
def boundary (inWord : Bool) (s : List Char) : Bool := inWord != s.head?.any isAsciiWord

/-- Whether the text begins with the signal, which ends at a boundary. -/
def Signal.begins (signal : Signal) (s : List Char) : Bool :=
  (signal.rests s).any (boundary signal.endsInWord)

/-- The signals. -/
def signals : List Signal :=
  [[.letters "B-Tree"],
   [.letters "LRU"],
   [.letters "O(", .gap, .letters "log", .gap, .letters "n", .gap, .letters ")"],
   [.letters "O(", .gap, .letters "n", .gap, .letters ")"],
   [.letters "rebalance"],
   [.letters "background"],
   [.letters "compaction"],
   [.letters "every", .space, .digits, .space, .letters "minute", .optional "s"]]

/-- Whether a signal stands somewhere in a text, at a boundary; `inWord` says whether the character
before the text is a word character. -/
def foundFrom (inWord : Bool) : List Char → Bool
  | [] => false
  | c :: s =>
    (boundary inWord (c :: s) && signals.any (·.begins (c :: s))) || foundFrom (isAsciiWord c) s

/-- Whether a text has one of the signals. -/
def found (text : String) : Bool := foundFrom false text.toList

end IntentSpec.Leak
