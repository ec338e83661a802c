import IntentSpec.Proofs.Document.Phrase
import IntentSpec.Text.Numeral
import Mathlib.Data.List.TakeWhile
import Mathlib.Data.Nat.Digits.Defs

/-!
# Spellings of an integer

What the generous reading accepts, said without the reader: blanks, a sign, groups of digits of any script
with one underscore between a group and the next, and blanks.  A text is read as an integer exactly if it is
such a spelling and does not have too many digits (`readInteger_eq_ok_iff`).

The reader cuts a text at the first character that is neither a digit nor an underscore.  That this is where
the digits of a spelling end rests on one fact about the classes of characters: no digit of any script is a
blank, an underscore or a sign (`isNumeralBlank_of_digit`, `ne_of_digit`).

* `Mark`, `Spelling` — a sign as it is written, and a spelling with its parts.
* `Spelling.chars`, `Spelling.value` — what is written, and the integer that it says.
* `readInteger_of_spelling` — a spelling is read as the integer that it says, or has too many digits.
-/

namespace IntentSpec.Text

open Document (dropWhile_of_head? takeWhile_append_of_head?)

/-! ## Digits are no blanks -/

/-- A digit is one of the ten characters from a zero on. -/
theorem exists_mem_digitZeros {c : Char} (digit : (digitValue? c).isSome = true) :
    ∃ first ∈ digitZeros, first ≤ c.toNat ∧ c.toNat < first + 10 := by
  simpa [digitValue?, List.find?_isSome] using digit

theorem ne_of_digit {c d : Char} (digit : (digitValue? c).isSome = true) (other : digitValue? d = none) :
    c ≠ d := by
  rintro rfl
  rw [other] at digit
  cases digit

theorem isBlank_of_isNumeralBlank {c : Char} (blank : isNumeralBlank c = true) : isBlank c = true := by
  rcases Bool.or_eq_true_iff.mp blank with ascii | high
  · exact isBlank_of_isAsciiBlank ascii
  · exact (Bool.and_eq_true_iff.mp high).2

theorem isNumeralBlank_of_digit {c : Char} (digit : (digitValue? c).isSome = true) :
    isNumeralBlank c = false := by
  -- The ten characters from a zero on and the intervals of blanks lie apart.
  have apart : ∀ first ∈ digitZeros, ∀ interval ∈ blankIntervals,
      first + 10 ≤ interval.1 ∨ interval.2 < first := by decide
  obtain ⟨first, listed, low, high⟩ := exists_mem_digitZeros digit
  refine Bool.eq_false_iff.mpr fun blank => ?_
  obtain ⟨interval, here, inside⟩ := List.any_eq_true.mp (isBlank_of_isNumeralBlank blank)
  obtain ⟨low', high'⟩ : interval.1 ≤ c.toNat ∧ c.toNat ≤ interval.2 := by simpa using inside
  have between := apart first listed interval here
  omega

theorem isNumeralPart_iff (c : Char) :
    isNumeralPart c = true ↔ c = '_' ∨ (digitValue? c).isSome = true := by
  simp [isNumeralPart]

theorem isNumeralPart_of_isNumeralBlank {c : Char} (blank : isNumeralBlank c = true) :
    isNumeralPart c = false := by
  refine Bool.eq_false_iff.mpr fun part => ?_
  rcases (isNumeralPart_iff c).mp part with rfl | digit
  · exact absurd blank (by decide)
  · exact Bool.eq_false_iff.mp (isNumeralBlank_of_digit digit) blank

/-! ## Signs -/

/-- A sign as it is written. -/
inductive Mark where
  | bare
  | plus
  | minus
deriving DecidableEq, Repr

/-- The characters of a sign. -/
def Mark.chars : Mark → List Char
  | bare => []
  | plus => ['+']
  | minus => ['-']

/-- A sign in front of a digit is read as it is written. -/
theorem sign_append (mark : Mark) {c : Char} (digit : (digitValue? c).isSome = true) (s : List Char) :
    sign (mark.chars ++ c :: s) = (decide (mark = .minus), c :: s) := by
  cases mark with
  | plus => rfl
  | minus => rfl
  | bare =>
      have notMinus : c ≠ '-' := ne_of_digit digit (by decide)
      have notPlus : c ≠ '+' := ne_of_digit digit (by decide)
      show sign (c :: s) = (false, c :: s)
      unfold sign
      split
      next same => exact absurd (List.cons.inj same).1 notMinus
      next same => exact absurd (List.cons.inj same).1 notPlus
      next => rfl

theorem exists_mark (s : List Char) : ∃ mark : Mark, s = mark.chars ++ (sign s).2 := by
  unfold sign
  split
  · exact ⟨.minus, rfl⟩
  · exact ⟨.plus, rfl⟩
  · exact ⟨.bare, rfl⟩

/-! ## Groups of digits -/

/-- The groups with an underscore between one and the next. -/
def grouped (groups : List (List Char)) : List Char := ['_'].intercalate groups

theorem grouped_cons_cons (g h : List Char) (groups : List (List Char)) :
    grouped (g :: h :: groups) = g ++ '_' :: grouped (h :: groups) := by
  simp [grouped, List.intercalate_cons_cons]

/-- Underscores have no value. -/
theorem filterMap_grouped (groups : List (List Char)) :
    (grouped groups).filterMap digitValue? = groups.flatten.filterMap digitValue? := by
  induction groups with
  | nil => rfl
  | cons g groups ih =>
      cases groups with
      | nil => simp [grouped]
      | cons h groups =>
          have gap : digitValue? '_' = none := by decide
          rw [grouped_cons_cons, List.filterMap_append, List.filterMap_cons_none gap, ih,
            List.flatten_cons (L := h :: groups), List.filterMap_append]

theorem isNumeralPart_of_mem_grouped {groups : List (List Char)}
    (decimal : ∀ g ∈ groups, ∀ c ∈ g, (digitValue? c).isSome = true) :
    ∀ c ∈ grouped groups, isNumeralPart c = true := by
  induction groups with
  | nil => exact List.forall_mem_nil _
  | cons g groups ih =>
      obtain ⟨first, later⟩ := List.forall_mem_cons.mp decimal
      have part : ∀ c ∈ g, isNumeralPart c = true := fun c here =>
        (isNumeralPart_iff c).mpr (.inr (first c here))
      cases groups with
      | nil => simpa [grouped] using part
      | cons h groups =>
          rw [grouped_cons_cons]
          exact List.forall_mem_append.mpr ⟨part, List.forall_mem_cons.mpr ⟨by decide, ih later⟩⟩

/-! ## Spellings -/

/-- A spelling of an integer. -/
structure Spelling where
  lead : List Char
  mark : Mark
  groups : List (List Char)
  trail : List Char
  blankLead : ∀ c ∈ lead, isNumeralBlank c = true
  given : groups ≠ []
  /-- There is a digit in each group. -/
  each : ∀ g ∈ groups, g ≠ []
  decimal : ∀ g ∈ groups, ∀ c ∈ g, (digitValue? c).isSome = true
  blankTrail : ∀ c ∈ trail, isNumeralBlank c = true

namespace Spelling

/-- What is written. -/
def chars (s : Spelling) : List Char :=
  s.lead ++ (s.mark.chars ++ (grouped s.groups ++ s.trail))

/-- The digits, whatever stands between them. -/
def digits (s : Spelling) : List Char := s.groups.flatten

/-- The value of the digits, in the positional system. -/
def magnitude (s : Spelling) : Nat := Nat.ofDigits 10 (s.digits.filterMap digitValue?).reverse

/-- The integer that is spelled. -/
def value (s : Spelling) : Int := if s.mark = .minus then -s.magnitude else s.magnitude

/-- The groups begin with a digit. -/
theorem exists_grouped (s : Spelling) :
    ∃ c rest, grouped s.groups = c :: rest ∧ (digitValue? c).isSome = true := by
  obtain ⟨g, groups, split⟩ := List.exists_cons_of_ne_nil s.given
  obtain ⟨c, rest, split'⟩ := List.exists_cons_of_ne_nil (s.each g (by simp [split]))
  have digit : (digitValue? c).isSome = true :=
    s.decimal g (by simp [split]) c (by simp [split'])
  refine ⟨c, ['_'].intercalate (rest :: groups), ?_, digit⟩
  rw [split, split', grouped, List.intercalate_cons_cons_left]

/-- The blanks in front end where a sign or a digit stands. -/
theorem sign_chars (s : Spelling) : sign (s.chars.dropWhile isNumeralBlank) =
    (decide (s.mark = .minus), grouped s.groups ++ s.trail) := by
  obtain ⟨c, rest, begins, digit⟩ := s.exists_grouped
  have solid : (s.mark.chars ++ (grouped s.groups ++ s.trail)).head?.all (!isNumeralBlank ·) = true := by
    cases s.mark with
    | plus => rfl
    | minus => rfl
    | bare => simp [Mark.chars, begins, isNumeralBlank_of_digit digit]
  rw [chars, List.dropWhile_append_of_pos s.blankLead, dropWhile_of_head? solid, begins, List.cons_append,
    sign_append s.mark digit]

/-- A blank, if anything, stands behind the digits and underscores. -/
theorem isNumeralPart_of_head? (s : Spelling) (c : Char) (first : s.trail.head? = some c) :
    isNumeralPart c = false :=
  isNumeralPart_of_isNumeralBlank (s.blankTrail c (List.mem_of_mem_head? first))

theorem takeWhile_grouped (s : Spelling) :
    (grouped s.groups ++ s.trail).takeWhile isNumeralPart = grouped s.groups :=
  takeWhile_append_of_head? (isNumeralPart_of_mem_grouped s.decimal)
    ((Option.any_eq_false ..).mpr s.isNumeralPart_of_head?)

theorem dropWhile_grouped (s : Spelling) :
    (grouped s.groups ++ s.trail).dropWhile isNumeralPart = s.trail := by
  have stop : s.trail.head?.all (!isNumeralPart ·) = true := (Option.all_eq_true ..).mpr fun c first => by
    rw [s.isNumeralPart_of_head? c first]
    rfl
  rw [List.dropWhile_append_of_pos (isNumeralPart_of_mem_grouped s.decimal), dropWhile_of_head? stop]

/-- The groups are what stands between the underscores. -/
theorem splitAt_grouped (s : Spelling) : splitAt '_' (grouped s.groups) = s.groups := by
  have plain : ∀ g ∈ s.groups, '_' ∉ g := fun g listed here =>
    absurd (s.decimal g listed '_' here) (by decide)
  exact splitAt_intercalate s.given plain

/-- Every digit has a value. -/
theorem length_filterMap (s : Spelling) :
    (s.digits.filterMap digitValue?).length = s.digits.length := by
  rw [List.filterMap_length_eq_length]
  intro c here
  obtain ⟨g, listed, here⟩ := List.mem_flatten.mp here
  exact s.decimal g listed c here

end Spelling

theorem foldl_eq_ofDigits (values : List Nat) :
    values.foldl (fun n d => 10 * n + d) 0 = Nat.ofDigits 10 values.reverse := by
  rw [Nat.ofDigits_eq_foldr, List.foldr_reverse]
  simp [Nat.add_comm]

/-- **Reading a spelling.**  It gives the integer that is spelled, unless there are more digits than are
read. -/
theorem readInteger_of_spelling {text : String} {s : Spelling} (spelled : s.chars = text.toList) :
    readInteger text =
      if maxDigits < s.digits.length then .error (.tooLong s.digits.length) else .ok s.value := by
  have full : s.groups.any (·.isEmpty) = false :=
    List.any_eq_false.mpr fun g listed empty => s.each g listed (List.isEmpty_iff.mp empty)
  have values : (grouped s.groups).filterMap digitValue? = s.digits.filterMap digitValue? :=
    filterMap_grouped s.groups
  have blank : s.trail.all isNumeralBlank = true := List.all_eq_true.mpr s.blankTrail
  unfold readInteger
  simp only [← spelled, s.sign_chars, s.takeWhile_grouped, s.dropWhile_grouped, s.splitAt_grouped, full,
    values, s.length_filterMap, blank, foldl_eq_ofDigits, Bool.false_eq_true, if_false, if_true,
    decide_eq_true_eq]
  rfl

/-- The pieces of a run of digits and underscores hold digits only. -/
theorem decimal_of_mem_splitAt {run g : List Char} (parts : ∀ c ∈ run, isNumeralPart c = true)
    (listed : g ∈ splitAt '_' run) : ∀ c ∈ g, (digitValue? c).isSome = true := by
  intro c here
  obtain ⟨other, inside⟩ := ne_and_mem_of_mem_splitAt listed here
  exact ((isNumeralPart_iff c).mp (parts c inside)).resolve_left other

/-- What is read is a spelling: its parts are those at which the reader cuts. -/
theorem exists_spelling {text : String} {n : Int} (read : readInteger text = .ok n) :
    ∃ s : Spelling, s.chars = text.toList := by
  obtain ⟨mark, marked⟩ := exists_mark (text.toList.dropWhile isNumeralBlank)
  unfold readInteger at read
  generalize sign (text.toList.dropWhile isNumeralBlank) = signed at read marked
  obtain ⟨negative, rest⟩ := signed
  simp only at read marked
  -- Of the three tests each must come out well.
  split at read
  next => cases read
  next full =>
    split at read
    next => cases read
    next =>
      split at read
      next blank =>
        refine ⟨{
          lead := text.toList.takeWhile isNumeralBlank
          mark := mark
          groups := splitAt '_' (rest.takeWhile isNumeralPart)
          trail := rest.dropWhile isNumeralPart
          blankLead := fun c => List.mem_takeWhile_imp
          given := splitAt_ne_nil '_' _
          each := fun g listed empty => full (List.any_eq_true.mpr ⟨g, listed, by simp [empty]⟩)
          decimal := fun g => decimal_of_mem_splitAt fun c => List.mem_takeWhile_imp
          blankTrail := List.all_eq_true.mp blank }, ?_⟩
        show text.toList.takeWhile isNumeralBlank ++ (mark.chars ++
          (['_'].intercalate (splitAt '_' (rest.takeWhile isNumeralPart)) ++
            rest.dropWhile isNumeralPart)) = text.toList
        rw [intercalate_splitAt, List.takeWhile_append_dropWhile, ← marked,
          List.takeWhile_append_dropWhile]
      next => cases read

/-- **What is read as an integer** are the spellings of it that do not have too many digits. -/
theorem readInteger_eq_ok_iff (text : String) (n : Int) :
    readInteger text = .ok n ↔
      ∃ s : Spelling, s.chars = text.toList ∧ s.digits.length ≤ maxDigits ∧ s.value = n := by
  constructor
  · intro read
    obtain ⟨s, spelled⟩ := exists_spelling read
    rw [readInteger_of_spelling spelled] at read
    split at read
    next => cases read
    next short => exact ⟨s, spelled, Nat.not_lt.mp short, Except.ok.inj read⟩
  · rintro ⟨s, spelled, short, rfl⟩
    rw [readInteger_of_spelling spelled, if_neg (Nat.not_lt.mpr short)]

end IntentSpec.Text
