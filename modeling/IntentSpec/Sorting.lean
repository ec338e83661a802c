/-!
# Stable sorting

Lists are sorted by insertion, which keeps the order of elements that compare equal and computes by
plain recursion on the list.

## Main definitions

* `insertBy`, `sortBy` — insertion into a sorted list, and sorting.
* `textLe`, `pairLe` — the orders of texts by code point and of pairs of texts.
-/

namespace IntentSpec

variable {α : Type}

/-- Inserts an element in front of the first element that it does not exceed, and so in front of its
equals, which came after it. -/
def insertBy (le : α → α → Bool) (a : α) : List α → List α
  | [] => [a]
  | b :: l => if le a b then a :: b :: l else b :: insertBy le a l

/-- The list in increasing order; elements that compare equal keep their order. Insertion is used
since its recursion is that of lists. -/
def sortBy (le : α → α → Bool) : List α → List α
  | [] => []
  | a :: l => insertBy le a (sortBy le l)

/-- The order of texts by their code points, which is that of no language and the same everywhere.
-/
def textLe (a b : String) : Bool := decide (a ≤ b)

/-- The lexicographic order of pairs of texts. -/
def pairLe (a b : String × String) : Bool :=
  decide (a.1 < b.1) || (a.1 == b.1 && textLe a.2 b.2)

/-- The texts in increasing order. -/
def sortTexts (texts : List String) : List String := sortBy textLe texts

/-- The list without later repetitions. -/
def dedup [BEq α] : List α → List α
  | [] => []
  | a :: l => a :: (dedup l).filter (· != a)

end IntentSpec
