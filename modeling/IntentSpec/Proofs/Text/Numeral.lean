import IntentSpec.Number.Power
import IntentSpec.Proofs.Attempt
import IntentSpec.Proofs.Text.Spelling

/-!
# Exact integers

Every integer has one canonical numeral: `0`, or ASCII digits of which the first is not zero, behind a minus
if the integer is negative.  Printing gives this numeral (`canonical_iff_toString`), and it is one of the
spellings that are read generously, so reading what is printed gives the integer back, unless it has more
digits than are read (`readInteger_toString`).  An exact integer is a text that comes back from what is read
off it.  So the exact integers are the canonical numerals that are not too long, and none of the other
spellings is exact.

Writing has the same limit, on the number and not on its text.  The two limits are one: the texts that are
read exactly as an integer are those that the integer is written as
(`exactInteger?_eq_some_iff_writeInteger`), so that nothing can be written and then not be read again.

* `printed` — an integer as it is printed, taken for a spelling.
* `Canonical` — the canonical numeral of an integer.
* `Writable` — the integers that are written at all.
* `exactInteger?_canonical` — what the strict reading accepts, what it gives, and what the generous one accepts.
-/

namespace IntentSpec.Text

/-! ## Digits -/

theorem toNat_of_isDigit {c : Char} (digit : c.isDigit = true) : 48 ≤ c.toNat ∧ c.toNat ≤ 57 := by
  have range : 48 ≤ c.val ∧ c.val ≤ 57 := by
    simpa [Char.isDigit] using digit
  exact range

theorem digitValue?_of_isDigit {c : Char} (digit : c.isDigit = true) :
    digitValue? c = some (c.toNat - '0'.toNat) := by
  have range := toNat_of_isDigit digit
  have zeros : digitZeros = 0x30 :: digitZeros.tail := rfl
  rw [digitValue?, zeros, List.find?_cons_of_pos]
  · rfl
  · simp only [Bool.and_eq_true, decide_eq_true_eq]
    omega

/-- The value of digits is what they are read as. -/
theorem foldl_filterMap_digitValue? {digits : List Char} (decimal : ∀ c ∈ digits, c.isDigit = true)
    (n : Nat) :
    (digits.filterMap digitValue?).foldl (fun n d => 10 * n + d) n = Nat.ofDigitChars 10 digits n := by
  induction digits generalizing n with
  | nil => rfl
  | cons c digits ih =>
      obtain ⟨digit, decimal⟩ := List.forall_mem_cons.mp decimal
      rw [List.filterMap_cons_some (digitValue?_of_isDigit digit), List.foldl_cons, ih decimal,
        Nat.ofDigitChars_cons]

theorem isDigit_of_mem_toDigits (n : Nat) : ∀ c ∈ Nat.toDigits 10 n, c.isDigit = true := fun _ =>
  Nat.isDigit_of_mem_toDigits (by decide) (by decide)

theorem length_toDigits_le_iff {n k : Nat} (some : 0 < k) :
    (Nat.toDigits 10 n).length ≤ k ↔ n < tenTo k :=
  Nat.length_toDigits_le_iff (by decide) some

/-- A digit is what its value is written as. -/
theorem toDigits_of_isDigit {c : Char} (digit : c.isDigit = true) :
    Nat.toDigits 10 (c.toNat - '0'.toNat) = [c] := by
  have range := toNat_of_isDigit digit
  have zero : '0'.toNat = 48 := rfl
  have small : c.toNat - '0'.toNat < 10 := by omega
  have back : (c.toNat - '0'.toNat).digitChar = c :=
    Char.toNat_inj.mp (by rw [Nat.toNat_digitChar_of_lt_ten small]; omega)
  rw [Nat.toDigits_of_lt_base small, back]

/-- Digits that are written behind the digits of a number are the digits of the longer number. -/
theorem toDigits_ofDigitChars {digits : List Char} (decimal : ∀ c ∈ digits, c.isDigit = true) {n : Nat}
    (positive : 0 < n) : Nat.toDigits 10 (Nat.ofDigitChars 10 digits n) = Nat.toDigits 10 n ++ digits := by
  induction digits generalizing n with
  | nil => rw [Nat.ofDigitChars_nil, List.append_nil]
  | cons c digits ih =>
      obtain ⟨digit, decimal⟩ := List.forall_mem_cons.mp decimal
      have range := toNat_of_isDigit digit
      have zero : '0'.toNat = 48 := rfl
      rw [Nat.ofDigitChars_cons, ih decimal (by omega),
        ← Nat.toDigits_append_toDigits (by decide) positive (by omega), toDigits_of_isDigit digit,
        List.append_assoc, List.singleton_append]

/-- Digits of which the first is not zero are the digits of their value. -/
theorem toDigits_ofDigitChars_cons {first : Char} {rest : List Char} (nonzero : first ≠ '0')
    (decimal : ∀ c ∈ first :: rest, c.isDigit = true) :
    Nat.toDigits 10 (Nat.ofDigitChars 10 (first :: rest) 0) = first :: rest := by
  obtain ⟨digit, decimal⟩ := List.forall_mem_cons.mp decimal
  have range := toNat_of_isDigit digit
  have zero : '0'.toNat = 48 := rfl
  have other : first.toNat ≠ '0'.toNat := mt Char.toNat_inj.mp nonzero
  rw [Nat.ofDigitChars_cons, Nat.mul_zero, Nat.zero_add, toDigits_ofDigitChars decimal (by omega),
    toDigits_of_isDigit digit, List.singleton_append]

/-- The digits of a positive number do not begin with zero. -/
theorem head?_toDigits {n : Nat} (positive : 0 < n) : (Nat.toDigits 10 n).head? ≠ some '0' := by
  induction n using Nat.strongRecOn with
  | ind n ih =>
      rw [Nat.toDigits_eq_if (by decide)]
      split
      next small => simpa using Nat.ne_of_gt positive
      next large =>
        have front := ih (n / 10) (by omega) (by omega)
        cases digits : Nat.toDigits 10 (n / 10) with
        | nil => exact absurd digits Nat.toDigits_ne_nil
        | cons c rest => simpa [digits] using front

/-- A positive number has digits of which the first is not zero. -/
theorem exists_toDigits {n : Nat} (positive : 0 < n) :
    ∃ first rest, Nat.toDigits 10 n = first :: rest ∧ first ≠ '0' ∧
      (∀ c ∈ first :: rest, c.isDigit = true) ∧ Nat.ofDigitChars 10 (first :: rest) 0 = n := by
  obtain ⟨first, rest, digits⟩ := List.exists_cons_of_ne_nil (Nat.toDigits_ne_nil (n := n) (b := 10))
  have nonzero := head?_toDigits positive
  have decimal := isDigit_of_mem_toDigits n
  have value : Nat.ofDigitChars 10 (Nat.toDigits 10 n) 0 = n := Nat.ofDigitChars_ten_toDigits
  rw [digits] at nonzero decimal value
  exact ⟨first, rest, digits, by simpa using nonzero, decimal, value⟩

/-! ## Reading what is printed -/

/-- The sign of an integer as it is printed. -/
def markOf : Int → Mark
  | .ofNat _ => .bare
  | .negSucc _ => .minus

theorem toList_toString (n : Int) : (toString n).toList = (markOf n).chars ++ Nat.toDigits 10 n.natAbs := by
  cases n with
  | ofNat n => exact Nat.toList_repr
  | negSucc n =>
      show ("-" ++ (n + 1).repr).toList = '-' :: Nat.toDigits 10 (n + 1)
      rw [String.toList_append, Nat.toList_repr]
      rfl

/-- An integer as it is printed: a spelling without blanks and in one group. -/
def printed (n : Int) : Spelling where
  lead := []
  mark := markOf n
  groups := [Nat.toDigits 10 n.natAbs]
  trail := []
  blankLead := List.forall_mem_nil _
  given := List.cons_ne_nil _ _
  each := List.forall_mem_singleton.mpr Nat.toDigits_ne_nil
  decimal := List.forall_mem_singleton.mpr fun c here => by
    rw [digitValue?_of_isDigit (isDigit_of_mem_toDigits _ c here)]
    rfl
  blankTrail := List.forall_mem_nil _

theorem chars_printed (n : Int) : (printed n).chars = (toString n).toList := by
  rw [toList_toString]
  simp [printed, Spelling.chars, grouped]

theorem digits_printed (n : Int) : (printed n).digits = Nat.toDigits 10 n.natAbs := by
  simp [printed, Spelling.digits]

theorem value_printed (n : Int) : (printed n).value = n := by
  have magnitude : (printed n).magnitude = n.natAbs := by
    rw [Spelling.magnitude, digits_printed, ← foldl_eq_ofDigits,
      foldl_filterMap_digitValue? (isDigit_of_mem_toDigits _), Nat.ofDigitChars_ten_toDigits]
  rw [Spelling.value, magnitude]
  cases n <;> rfl

/-- **Reading what is printed.**  It gives the integer back, if the integer has no more digits than are
read. -/
theorem readInteger_toString (n : Int) :
    readInteger (toString n) =
      if maxDigits < (Nat.toDigits 10 n.natAbs).length then
        .error (.tooLong (Nat.toDigits 10 n.natAbs).length)
      else .ok n := by
  rw [readInteger_of_spelling (chars_printed n), digits_printed, value_printed]

/-! ## Canonical numerals -/

/-- The canonical numeral of an integer. -/
inductive Canonical : List Char → Int → Prop
  /-- Zero is the only numeral that begins with a zero. -/
  | zero : Canonical ['0'] 0
  /-- The digits of a positive integer. -/
  | positive {first : Char} {rest : List Char} (nonzero : first ≠ '0')
      (decimal : ∀ c ∈ first :: rest, c.isDigit = true) :
      Canonical (first :: rest) (Nat.ofDigitChars 10 (first :: rest) 0)
  /-- The digits of the opposite of a negative integer, behind a minus. -/
  | negative {first : Char} {rest : List Char} (nonzero : first ≠ '0')
      (decimal : ∀ c ∈ first :: rest, c.isDigit = true) :
      Canonical ('-' :: first :: rest) (-(Nat.ofDigitChars 10 (first :: rest) 0 : Int))

theorem toString_of_canonical {s : List Char} {n : Int} (canonical : Canonical s n) :
    (toString n).toList = s := by
  rw [toList_toString]
  cases canonical with
  | zero => rfl
  | positive nonzero decimal => exact toDigits_ofDigitChars_cons nonzero decimal
  | @negative first rest nonzero decimal =>
      have digits := toDigits_ofDigitChars_cons nonzero decimal
      cases value : Nat.ofDigitChars 10 (first :: rest) 0 with
      | zero =>
          -- a magnitude of zero would be written with a zero in front
          rw [value, Nat.toDigits_zero] at digits
          exact absurd (List.cons.inj digits).1.symm nonzero
      | succ m => rw [← digits, value]; rfl

theorem canonical_toString (n : Int) : Canonical (toString n).toList n := by
  rw [toList_toString]
  cases n with
  | ofNat n =>
      cases n with
      | zero => exact .zero
      | succ m =>
          obtain ⟨first, rest, digits, nonzero, decimal, value⟩ := exists_toDigits m.succ_pos
          have canonical := Canonical.positive nonzero decimal
          rw [value, ← digits] at canonical
          exact canonical
  | negSucc m =>
      obtain ⟨first, rest, digits, nonzero, decimal, value⟩ := exists_toDigits m.succ_pos
      have canonical := Canonical.negative nonzero decimal
      rw [value, ← digits] at canonical
      exact canonical

/-- **Printing** gives the canonical numeral, of which there is one: no plus, no zero in front, and
no minus in front of zero. -/
theorem canonical_iff_toString (s : List Char) (n : Int) : Canonical s n ↔ (toString n).toList = s :=
  ⟨toString_of_canonical, fun same => same ▸ canonical_toString n⟩

/-- The digits of a printed integer are those of its magnitude: the minus is none. -/
theorem countP_toString (n : Int) :
    (toString n).toList.countP Char.isDigit = (Nat.toDigits 10 n.natAbs).length := by
  have sign : (markOf n).chars.countP Char.isDigit = 0 := by
    cases markOf n <;> rfl
  rw [toList_toString, List.countP_append, sign, Nat.zero_add,
    List.countP_eq_length.mpr (isDigit_of_mem_toDigits _)]

/-! ## Exact integers -/

theorem exactInteger?_eq_some_iff (text : String) (n : Int) :
    exactInteger? text = some n ↔ readInteger text = .ok n ∧ toString n = text := by
  unfold exactInteger?
  cases readInteger text with
  | error e => simp
  | ok m =>
      by_cases exact : toString m = text
      · simp only [if_pos exact, Option.some.injEq, Except.ok.injEq]
        constructor
        · rintro rfl
          exact ⟨rfl, exact⟩
        · exact And.left
      · simp only [if_neg exact, Except.ok.injEq]
        refine iff_of_false (by simp) ?_
        rintro ⟨rfl, exact'⟩
        exact exact exact'

/-- **The exact integers** are the texts of the integers that do not have too many digits. -/
theorem exactInteger?_eq_some_iff_toString (text : String) (n : Int) :
    exactInteger? text = some n ↔ toString n = text ∧ n.natAbs < tenTo maxDigits := by
  rw [exactInteger?_eq_some_iff, and_comm]
  refine and_congr_right ?_
  rintro rfl
  rw [readInteger_toString, ← length_toDigits_le_iff (by decide), ← Nat.not_lt]
  split
  next long => exact iff_of_false (by simp) (not_not_intro long)
  next short => exact iff_of_true rfl short

theorem exactInteger?_eq_some_iff_canonical (text : String) (n : Int) :
    exactInteger? text = some n ↔
      Canonical text.toList n ∧ text.toList.countP Char.isDigit ≤ maxDigits := by
  rw [exactInteger?_eq_some_iff_toString, canonical_iff_toString, String.toList_inj]
  refine and_congr_right ?_
  rintro rfl
  rw [countP_toString, length_toDigits_le_iff (by decide)]

/-- An integer comes back from its printed text, unless it has too many digits. -/
theorem exactInteger?_toString (n : Int) :
    exactInteger? (toString n) = if n.natAbs < tenTo maxDigits then some n else none := by
  split
  next short => exact (exactInteger?_eq_some_iff_toString ..).mpr ⟨rfl, short⟩
  next long =>
    have exceeds : maxDigits < (Nat.toDigits 10 n.natAbs).length :=
      Nat.not_le.mp (mt (length_toDigits_le_iff (by decide)).mp long)
    rw [exactInteger?, readInteger_toString, if_pos exceeds]

/-- **The strict and the generous reading.**  The strict one gives an integer exactly for its canonical
numeral, if that does not have too many digits, and nothing for any other text; so every integer comes back
from its printed text, unless it has too many digits.  The generous one also accepts blanks around the
numeral, a plus, zeros in front, underscores and the digits of every script. -/
theorem exactInteger?_canonical :
    (∀ (text : String) (n : Int), exactInteger? text = some n ↔
      Canonical text.toList n ∧ text.toList.countP Char.isDigit ≤ maxDigits) ∧
    (∀ text : String, exactInteger? text = none ↔
      ¬ ∃ n, Canonical text.toList n ∧ text.toList.countP Char.isDigit ≤ maxDigits) ∧
    (∀ n : Int, exactInteger? (toString n) = if n.natAbs < tenTo maxDigits then some n else none) ∧
    ∀ (text : String) (n : Int), readInteger text = .ok n ↔
      ∃ s : Spelling, s.chars = text.toList ∧ s.digits.length ≤ maxDigits ∧ s.value = n := by
  refine ⟨exactInteger?_eq_some_iff_canonical, fun text => ?_, exactInteger?_toString,
    readInteger_eq_ok_iff⟩
  rw [Option.eq_none_iff_forall_ne_some, not_exists]
  exact forall_congr' fun n => not_congr (exactInteger?_eq_some_iff_canonical text n)

/-- Blanks, a plus, a zero in front, an underscore and a digit of another script, all at once. -/
example : readInteger "\u2003+0_\u06642\t" = .ok 42 ∧ exactInteger? "\u2003+0_\u06642\t" = none := by
  decide +kernel

/-! ## Integers that are written -/

/-- The integer has few enough digits to be written.  The condition is on the number, since its digits are what
is not to be computed; it is the condition under which everything that shows an integer succeeds. -/
def Writable (n : Int) : Prop := n.natAbs < tenTo maxDigits

instance (n : Int) : Decidable (Writable n) := inferInstanceAs (Decidable (n.natAbs < tenTo maxDigits))

theorem gives_writeInteger (n : Int) : Gives (writeInteger n) .unwritable (Writable n) (toString n) where
  ok short := if_pos short
  fails long := if_neg long

/-- The least positive integer that is not written. -/
def overlong : Int := tenTo maxDigits

theorem not_writable_overlong : ¬ Writable overlong := by
  unfold Writable overlong
  rw [Int.natAbs_natCast]
  exact lt_irrefl _

/-- **What is written is read exactly, and nothing else is.** Reading and writing have the same
bound on the number of digits. -/
theorem exactInteger?_eq_some_iff_writeInteger (text : String) (n : Int) :
    exactInteger? text = some n ↔ writeInteger n = .ok text := by
  rw [exactInteger?_eq_some_iff_toString, (gives_writeInteger n).eq_ok_iff, and_comm]
  rfl

end IntentSpec.Text
