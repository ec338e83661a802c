import IntentSpec.Text.Character

/-!
# Classes of characters

The classes of characters that the recognisers use are told apart by code points.  Letters, digits
and all other visible ASCII characters are no blanks (`isBlank_of_visible`).
-/

namespace IntentSpec.Text

theorem toNat_of_isAsciiLetter {c : Char} (letter : isAsciiLetter c = true) :
    65 ≤ c.toNat ∧ c.toNat ≤ 122 := by
  have range : ('a' ≤ c ∧ c ≤ 'z') ∨ ('A' ≤ c ∧ c ≤ 'Z') := by
    simpa [isAsciiLetter] using letter
  rcases range with ⟨low, high⟩ | ⟨low, high⟩
  · have low' : 97 ≤ c.toNat := low
    have high' : c.toNat ≤ 122 := high
    omega
  · have low' : 65 ≤ c.toNat := low
    have high' : c.toNat ≤ 90 := high
    omega

theorem toNat_of_isAsciiDigit {c : Char} (digit : isAsciiDigit c = true) :
    48 ≤ c.toNat ∧ c.toNat ≤ 57 := by
  have range : '0' ≤ c ∧ c ≤ '9' := by
    simpa [isAsciiDigit] using digit
  exact range

theorem isAsciiWord_of_isAsciiLetter {c : Char} (letter : isAsciiLetter c = true) :
    isAsciiWord c = true := by
  simp [isAsciiWord, letter]

theorem toNat_of_isAsciiWord {c : Char} (word : isAsciiWord c = true) :
    48 ≤ c.toNat ∧ c.toNat ≤ 122 := by
  have kinds : (isAsciiLetter c = true ∨ isAsciiDigit c = true) ∨ c = '_' := by
    simpa [isAsciiWord] using word
  rcases kinds with (letter | digit) | rfl
  · have range := toNat_of_isAsciiLetter letter
    omega
  · have range := toNat_of_isAsciiDigit digit
    omega
  · decide

/-- Visible ASCII characters are no blanks. -/
theorem isBlank_of_visible {c : Char} (visible : 33 ≤ c.toNat ∧ c.toNat ≤ 126) :
    isBlank c = false := by
  simp only [isBlank, inIntervals, blankIntervals, List.any_cons, List.any_nil, Bool.or_false,
    Bool.or_eq_false_iff, Bool.and_eq_false_iff, decide_eq_false_iff_not]
  omega

theorem isAsciiBlank_of_visible {c : Char} (visible : 33 ≤ c.toNat ∧ c.toNat ≤ 126) :
    isAsciiBlank c = false := by
  have other : c ≠ ' ' := by
    rintro rfl
    exact absurd visible (by decide)
  simp only [isAsciiBlank, beq_false_of_ne other, Bool.false_or, Bool.and_eq_false_iff,
    decide_eq_false_iff_not]
  omega

theorem isBlank_of_isAsciiBlank {c : Char} (blank : isAsciiBlank c = true) : isBlank c = true := by
  have range : c = ' ' ∨ 9 ≤ c.toNat ∧ c.toNat ≤ 13 := by
    simpa [isAsciiBlank] using blank
  rcases range with rfl | range
  · decide
  · simp [isBlank, blankIntervals, inIntervals, range]

end IntentSpec.Text
