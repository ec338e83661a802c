import IntentSpec.Proofs.Document.Ending
import IntentSpec.Proofs.Rule.Leakage

/-!
# The report on a document with other line endings

The signals of a prescribed implementation are looked for in the whole text, with its line endings and
its byte-order mark.  Neither makes a difference: a signal may run across a line ending only where
blanks are allowed, and the two characters of the longer ending are blanks as well as the shorter one.

The search asks for a word boundary on both sides of a signal.  A carriage return is no word character,
and neither is a line feed, so an ending of either kind is as good a neighbour as the other; the mark is
none either, and the front of a text counts as if no word character stood before it.

The rest of the report is that of the parse, and the parse is the same.  No rule looks at the text of a
document except in search of signals (`findings_of_found`).

* `Signal.rests_withReturns` — what a signal leaves of a text.
* `found_marked` — the same signals are found.
* `validateText_marked` — the report is the same.
-/

namespace IntentSpec

open Text Document Report Rule

namespace Leak

/-! ## Signals across line endings -/

section Class

variable {member : Char → Bool} (same : member '\r' = member '\n')

include same

theorem dropWhile_withReturns (s : List Char) :
    (withReturns s).dropWhile member = withReturns (s.dropWhile member) := by
  induction s with
  | nil => rfl
  | cons c s ih =>
      by_cases feed : c = '\n'
      · subst feed
        rw [withReturns_feed]
        by_cases inside : member '\n' = true
        · rw [List.dropWhile_cons_of_pos (same.trans inside), List.dropWhile_cons_of_pos inside, ih,
            List.dropWhile_cons_of_pos inside]
        · rw [List.dropWhile_cons_of_neg (by rwa [same]), List.dropWhile_cons_of_neg inside]
          rfl
      · rw [withReturns_cons feed]
        by_cases inside : member c = true
        · rw [List.dropWhile_cons_of_pos inside, List.dropWhile_cons_of_pos inside, ih]
        · rw [List.dropWhile_cons_of_neg inside, List.dropWhile_cons_of_neg inside,
            withReturns_cons feed]

theorem dropRun?_withReturns (s : List Char) :
    dropRun? member (withReturns s) = (dropRun? member s).map withReturns := by
  cases s with
  | nil => rfl
  | cons c s =>
      by_cases feed : c = '\n'
      · subst feed
        rw [withReturns_feed, dropRun?, dropRun?, same]
        by_cases inside : member '\n' = true
        · rw [if_pos inside, if_pos inside, List.dropWhile_cons_of_pos inside,
            dropWhile_withReturns same]
          rfl
        · rw [if_neg inside, if_neg inside]
          rfl
      · rw [withReturns_cons feed, dropRun?, dropRun?, dropWhile_withReturns same]
        split <;> rfl

end Class

/-- A letter that is no part of a line ending. -/
def apart (l : Char) : Bool := foldAscii l != foldAscii '\n' && foldAscii l != foldAscii '\r'

theorem dropLetters?_withReturns {w : List Char} (letters : w.all apart = true)
    (s : List Char) : dropLetters? w (withReturns s) = (dropLetters? w s).map withReturns := by
  induction w generalizing s with
  | nil => rfl
  | cons l w ih =>
      obtain ⟨first, letters⟩ := Bool.and_eq_true_iff.mp letters
      cases s with
      | nil => rfl
      | cons c s =>
          by_cases feed : c = '\n'
          · obtain ⟨noFeed, noReturn⟩ : foldAscii l ≠ foldAscii '\n' ∧ foldAscii l ≠ foldAscii '\r' := by
              simpa [apart] using first
            rw [feed, withReturns_feed, dropLetters?, dropLetters?, if_neg (by simpa using noReturn),
              if_neg (by simpa using noFeed)]
            rfl
          · rw [withReturns_cons feed, dropLetters?, dropLetters?]
            split
            · exact ih letters s
            · rfl

/-- The letters of a part. -/
def Part.spelling : Part → List Char
  | letters w | optional w => w.toList
  | gap | space | digits => []

/-- No signal spells out a line ending. -/
theorem apart_of_mem : ∀ signal ∈ signals, ∀ part ∈ signal, part.spelling.all apart = true := by
  decide

theorem Part.rests_withReturns {part : Part} (letters : part.spelling.all apart = true)
    (s : List Char) : part.rests (withReturns s) = (part.rests s).map withReturns := by
  cases part with
  | letters w => exact (congrArg Option.toList (dropLetters?_withReturns letters s)).trans Option.toList_map
  | gap => exact congrArg (fun rest => [rest]) (dropWhile_withReturns rfl s)
  | space => exact (congrArg Option.toList (dropRun?_withReturns rfl s)).trans Option.toList_map
  | digits => exact (congrArg Option.toList (dropRun?_withReturns rfl s)).trans Option.toList_map
  | optional w =>
      have dropped : w.toList.all apart = true := letters
      rw [Part.rests, Part.rests, dropLetters?_withReturns dropped, Option.toList_map,
        List.map_append]
      rfl

/-- **A signal leaves of a text what it leaves of the text with other line endings.** -/
theorem Signal.rests_withReturns {signal : Signal}
    (letters : ∀ part ∈ signal, part.spelling.all apart = true) (s : List Char) :
    signal.rests (withReturns s) = (signal.rests s).map withReturns := by
  induction signal generalizing s with
  | nil => rfl
  | cons part signal ih =>
      obtain ⟨first, letters⟩ := List.forall_mem_cons.mp letters
      rw [Signal.rests, Signal.rests, Part.rests_withReturns first, List.flatMap_map, List.map_flatMap]
      exact congrArg (fun f => (part.rests s).flatMap f) (funext (ih letters))

theorem boundary_withReturns (inWord : Bool) (s : List Char) :
    boundary inWord (withReturns s) = boundary inWord s := by
  cases s with
  | nil => rfl
  | cons c s =>
      by_cases feed : c = '\n'
      · subst feed
        rfl
      · rw [withReturns_cons feed]
        rfl

theorem Signal.begins_withReturns {signal : Signal} (known : signal ∈ signals) (s : List Char) :
    signal.begins (withReturns s) = signal.begins s := by
  unfold Signal.begins
  rw [Signal.rests_withReturns (apart_of_mem signal known), List.any_map]
  exact congrArg (fun f => (signal.rests s).any f) (funext (boundary_withReturns _))

/-- No signal begins at a character that is no word character. -/
theorem foundFrom_skip {c : Char} (other : isAsciiWord c = false) (inWord : Bool) (s : List Char) :
    foundFrom inWord (c :: s) = foundFrom false s := by
  rw [Bool.eq_iff_iff, foundFrom_cons, other, or_iff_right]
  rintro ⟨-, opens⟩
  obtain ⟨d, rest, split, word⟩ := opens.word
  obtain ⟨rfl, -⟩ := List.cons.inj split
  rw [other] at word
  cases word

theorem foundFrom_withReturns (inWord : Bool) (s : List Char) :
    foundFrom inWord (withReturns s) = foundFrom inWord s := by
  induction s generalizing inWord with
  | nil => rfl
  | cons c s ih =>
      by_cases feed : c = '\n'
      · subst feed
        rw [withReturns_feed, foundFrom_skip rfl, foundFrom_skip rfl, foundFrom_skip rfl, ih]
      · have begins : signals.any (·.begins (c :: withReturns s)) =
            signals.any (·.begins (c :: s)) := by
          rw [← withReturns_cons feed, Bool.eq_iff_iff, List.any_eq_true, List.any_eq_true]
          exact exists_congr fun signal => and_congr_right fun known => by
            rw [Signal.begins_withReturns known]
        have next := boundary_withReturns inWord (c :: s)
        rw [withReturns_cons feed] at next
        rw [withReturns_cons feed, foundFrom, foundFrom, next, begins, ih]

/-- **Other line endings and a byte-order mark hide no signal and make none.** -/
theorem found_marked (text : String) : found (marked text) = found text := by
  unfold found marked
  rw [String.toList_ofList, foundFrom_skip rfl, foundFrom_withReturns]

end Leak

/-! ## The report -/

/-- The rules look at the text of a document in search of signals only. -/
theorem findings_of_found {spec : Spec} {text : String} (same : Leak.found text = Leak.found spec.text) :
    findings { spec with text } = findings spec := by
  have leakage : implementationLeakage { spec with text } = implementationLeakage spec := by
    unfold implementationLeakage
    dsimp only
    rw [same]
  simp only [findings, Rule.all, List.mapM_cons, List.mapM_nil, leakage]
  rfl

theorem validate_of_found {spec : Spec} {text : String} (same : Leak.found text = Leak.found spec.text) :
    validate { spec with text } = validate spec := by
  unfold validate
  rw [findings_of_found same]

/-- **Line endings and a byte-order mark make no difference to the report.**  A document without
carriage returns and byte-order marks gets one report, whether it is written so, or with a carriage
return in front of every line feed and a byte-order mark in front of all. -/
theorem validateText_marked {text : String} (returns : '\r' ∉ text.toList)
    (mark : '\ufeff' ∉ text.toList) :
    ∃ r, validateText text = .ok r ∧ validateText (marked text) = .ok r := by
  obtain ⟨r, validated⟩ := exists_report (Spec.parse text)
  refine ⟨r, validated, ?_⟩
  have same : Leak.found (marked text) = Leak.found (Spec.parse text).text := by
    rw [parse_text, Leak.found_marked]
  unfold validateText
  rw [parse_marked returns mark, validate_of_found same, validated]

/-- A document in which a schedule is spread over two lines. -/
def scheduledText : String :=
  "DIL:spec v0\nsystem \"S\" \x7b\nabout \x7b\nCleaned up every\n15 minutes.\n\x7d\n\x7d\n"

theorem validateText_marked_scheduledText :
    '\r' ∉ scheduledText.toList ∧ '\ufeff' ∉ scheduledText.toList ∧
      ∃ r, validateText scheduledText = .ok r ∧ validateText (marked scheduledText) = .ok r ∧
        r.verdict = .invalid := by
  have returns : '\r' ∉ scheduledText.toList := by
    decide +kernel
  have mark : '\ufeff' ∉ scheduledText.toList := by
    decide +kernel
  have supported : (Spec.parse scheduledText).version ∈ supportedVersions := by
    decide +kernel
  have leaks : Leak.found scheduledText = true := by
    decide +kernel
  obtain ⟨r, validated, validated'⟩ := validateText_marked returns mark
  obtain ⟨r', same, -, invalid⟩ := Leak.validateText_leak supported
  obtain rfl : r' = r := Except.ok.inj (same.symm.trans validated)
  exact ⟨returns, mark, r', validated, validated', invalid leaks⟩

end IntentSpec
