/-!
# Powers of two and of ten

The two scales on which numbers are measured: binary numbers are multiples of a power of two, and
decimals multiples of a power of ten.

## Main definitions

* `twoTo` — a power of two.
* `tenTo` — a power of ten.
-/

namespace IntentSpec

/-- The power of two with an exponent. -/
def twoTo (n : Nat) : Nat := Nat.pow 2 n

/-- The power of ten with an exponent. -/
def tenTo (n : Nat) : Nat := Nat.pow 10 n

/-- One more in the exponent doubles. -/
theorem twoTo_succ (n : Nat) : twoTo (n + 1) = twoTo n * 2 := rfl

/-- No power of two vanishes. -/
theorem twoTo_pos (n : Nat) : 0 < twoTo n := Nat.pow_pos (by decide)

/-- No power of ten vanishes. -/
theorem tenTo_pos (n : Nat) : 0 < tenTo n := Nat.pow_pos (by decide)

/-- A power of ten with a greater exponent is greater. -/
theorem tenTo_lt {m n : Nat} (less : m < n) : tenTo m < tenTo n := Nat.pow_lt_pow_right (by decide) less

end IntentSpec
