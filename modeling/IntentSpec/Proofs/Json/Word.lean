import IntentSpec.Json.Printer

/-!
# How values are spelled

The printer fails at an integer with too many digits.  Whether two values are told apart by their texts, and
where in a text one value ends and the next begins, has nothing to do with that limit, so these questions are
asked about the spelling of a value: what the printer would write if it had no limit.  Every value has one.

What joins the two is proved once, when the condition under which a value can be written has been stated:
the printer gives the spelling of the value under that condition, and fails otherwise
(`Json.gives_chars`).

The null value, truth values and numbers are spelled as words: letters, digits, signs and points,
at least one of them.  No such character marks the end of a value, so a word that is followed by
such a mark can be told from what follows it (`IsWord.cancel`).

## Main definitions

* `Json.spelled` — the spelling of a value at a depth.
* `Json.spelling` — the spelling of a whole text.
* `IsWord` — what is spelled as a word.
-/

namespace IntentSpec

namespace Json

mutual

/-- The characters of a value at a depth, with integers of any length. -/
def spelled (style : Style) (depth : Nat) : Json → List Char
  | .null => "null".toList
  | .bool true => "true".toList
  | .bool false => "false".toList
  | .int n => (toString n).toList
  | .number x => (x.render "Infinity" "NaN").toList
  | .text s => quote style.ascii s
  | .array [] => "[]".toList
  | .array (item :: items) =>
    '[' :: style.gap (depth + 1) ++ spelled style (depth + 1) item ++
      spelledItems style (depth + 1) items ++ style.gap depth ++ [']']
  | .object [] => "\x7b\x7d".toList
  | .object ((key, value) :: members) =>
    '\x7b' :: style.gap (depth + 1) ++ quote style.ascii key ++ style.colon.toList ++
      spelled style (depth + 1) value ++ spelledMembers style (depth + 1) members ++
      style.gap depth ++ ['\x7d']

/-- The further items of an array. -/
def spelledItems (style : Style) (depth : Nat) : List Json → List Char
  | [] => []
  | item :: items =>
    style.comma.toList ++ style.gap depth ++ spelled style depth item ++ spelledItems style depth items

/-- The further members of an object. -/
def spelledMembers (style : Style) (depth : Nat) : List (String × Json) → List Char
  | [] => []
  | (key, value) :: members =>
    style.comma.toList ++ style.gap depth ++ quote style.ascii key ++ style.colon.toList ++
      spelled style depth value ++ spelledMembers style depth members

end

/-- The spelling of a value as a text of its own. -/
def spelling (style : Style) (value : Json) : String := String.ofList (value.spelled style 0)

end Json

/-! ## Words -/

/-- A character of a word. -/
def isWordChar (c : Char) : Bool := c.isAlphanum || c == '-' || c == '+' || c == '.'

/-- The characters form a word. -/
structure IsWord (l : List Char) : Prop where
  nonempty : l ≠ []
  /-- All its characters are those of words. -/
  chars : ∀ c ∈ l, isWordChar c = true

/-- A text that may follow a value: nothing, or something that starts with a character of no
word. -/
def EndsWord (rest : List Char) : Prop := ∀ c ∈ rest.head?, isWordChar c = false

/-- A word is told from what follows it. -/
theorem IsWord.cancel {l l' rest rest' : List Char} (word : IsWord l) (word' : IsWord l')
    (ends : EndsWord rest) (ends' : EndsWord rest') (h : l ++ rest = l' ++ rest') :
    l = l' ∧ rest = rest' := by
  have prefixOf : ∀ {m s : List Char}, (∀ c ∈ m, isWordChar c = true) → EndsWord s →
      (m ++ s).takeWhile isWordChar = m := by
    intro m s chars ends
    rw [List.takeWhile_append_of_pos chars]
    cases s with
    | nil => simp
    | cons c s => simp [ends c (by simp)]
  have words : l = l' := by
    rw [← prefixOf word.chars ends, h, prefixOf word'.chars ends']
  subst words
  exact ⟨rfl, List.append_cancel_left h⟩

/-! ## Numbers are words -/

theorem isWordChar_of_isDigit {c : Char} (h : c.isDigit = true) : isWordChar c = true := by
  simp [isWordChar, Char.isAlphanum, h]

/-- The digits of a natural number. -/
theorem isWord_nat (n : Nat) : IsWord (toString n).toList where
  nonempty := by
    show n.repr.toList ≠ []
    rw [Nat.toList_repr]
    exact Nat.toDigits_ne_nil
  chars := by
    intro c hc
    change c ∈ n.repr.toList at hc
    rw [Nat.toList_repr] at hc
    exact isWordChar_of_isDigit (Nat.isDigit_of_mem_toDigits (by decide) (by decide) hc)

/-- A given word is checked character by character. -/
theorem IsWord.of_all {l : List Char} (nonempty : l ≠ []) (all : l.all isWordChar = true) :
    IsWord l where
  nonempty := nonempty
  chars := List.all_eq_true.mp all

/-- A mark in front of word characters gives a word. -/
theorem IsWord.of_cons {c : Char} {l : List Char} (mark : isWordChar c = true)
    (chars : ∀ c ∈ l, isWordChar c = true) : IsWord (c :: l) where
  nonempty := List.cons_ne_nil c l
  chars := List.forall_mem_cons.mpr ⟨mark, chars⟩

/-- Word characters in front of a word give a word. -/
theorem IsWord.append {l l' : List Char} (left : ∀ c ∈ l, isWordChar c = true)
    (right : IsWord l') : IsWord (l ++ l') where
  nonempty := List.append_ne_nil_of_right_ne_nil l right.nonempty
  chars := List.forall_mem_append.mpr ⟨left, right.chars⟩

theorem isWord_int (n : Int) : IsWord (toString n).toList := by
  cases n with
  | ofNat n => exact isWord_nat n
  | negSucc n =>
      show IsWord ("-" ++ (n + 1).repr).toList
      rw [String.toList_append]
      exact IsWord.append (List.all_eq_true.mp (by decide)) (isWord_nat (n + 1))

/-- Digits that are laid out around a point, or with an exponent, are a word. -/
theorem isWord_layout {digits : List Char} (word : IsWord digits) (point : Int) :
    IsWord (Binary64.layout digits point) := by
  have digit : ∀ c ∈ digits, isWordChar c = true := word.chars
  have zeros : ∀ n, ∀ c ∈ List.replicate n '0', isWordChar c = true := by
    intro n c hc
    rw [List.eq_of_mem_replicate hc]
    rfl
  have point' : ∀ {l : List Char}, (∀ c ∈ l, isWordChar c = true) → IsWord ('.' :: l) :=
    fun chars => IsWord.of_cons rfl chars
  have exponent : ∀ mark, isWordChar mark = true → IsWord ('e' :: mark ::
      (if (toString point.natAbs).toList.length < 2 then '0' :: (toString point.natAbs).toList
        else (toString point.natAbs).toList)) := by
    intro mark sign
    refine IsWord.of_cons rfl (List.forall_mem_cons.mpr ⟨sign, ?_⟩)
    split
    · exact List.forall_mem_cons.mpr ⟨rfl, (isWord_nat point.natAbs).chars⟩
    · exact (isWord_nat point.natAbs).chars
  unfold Binary64.layout
  split
  · -- scientific notation: the exponent alone is a word, whatever stands in front of it
    refine IsWord.append ?_ (exponent _ ?_)
    · cases digits with
      | nil => exact digit
      | cons d rest =>
          obtain ⟨first, others⟩ := List.forall_mem_cons.mp digit
          cases rest with
          | nil => exact digit
          | cons e rest => exact List.forall_mem_cons.mpr ⟨first, (point' others).chars⟩
    · split <;> rfl
  · split
    · have fraction := point' (List.forall_mem_append.mpr ⟨zeros ((-point).toNat - 1), digit⟩)
      exact IsWord.of_cons rfl fraction.chars
    · dsimp only
      split
      · refine IsWord.append (List.forall_mem_append.mpr ⟨digit, zeros _⟩) ?_
        exact IsWord.of_all (by decide) (by decide)
      · refine IsWord.append (fun c hc => digit c (List.mem_of_mem_take hc)) (point' ?_)
        exact fun c hc => digit c (List.mem_of_mem_drop hc)

/-- A number is written as a word. -/
theorem isWord_render {infinityName nanName : String} (infinityWord : IsWord infinityName.toList)
    (nanWord : IsWord nanName.toList) (x : Binary64) :
    IsWord (x.render infinityName nanName).toList := by
  have signed : ∀ {text : String}, IsWord text.toList →
      IsWord ((if x.negative then "-" else "") ++ text).toList := by
    intro text word
    rw [String.toList_append]
    refine IsWord.append ?_ word
    split <;> exact List.all_eq_true.mp (by decide)
  unfold Binary64.render
  extract_lets sign
  by_cases notNumber : x.isNaN = true
  · rw [if_pos notNumber]
    exact nanWord
  · rw [if_neg notNumber]
    by_cases infinite : (!x.isFinite) = true
    · rw [if_pos infinite]
      exact signed infinityWord
    · rw [if_neg infinite]
      by_cases zero : x.isZero = true
      · rw [if_pos zero]
        exact signed (IsWord.of_all (by decide) (by decide))
      · rw [if_neg zero]
        refine signed ?_
        rw [String.toList_ofList]
        exact isWord_layout (isWord_nat _) _

/-! ## The words of values -/

namespace Json

/-- The word of a value that is neither a text nor has parts. -/
def wordOf? : Json → Option (List Char)
  | .null => some "null".toList
  | .bool true => some "true".toList
  | .bool false => some "false".toList
  | .int n => some (toString n).toList
  | .number x => some (x.render "Infinity" "NaN").toList
  | .text _ | .array _ | .object _ => none

theorem isWord_of_wordOf? {v : Json} {word : List Char} (h : v.wordOf? = some word) :
    IsWord word := by
  cases v with
  | null =>
      obtain rfl := Option.some.inj h
      exact IsWord.of_all (by decide) (by decide)
  | bool b =>
      cases b with
      | false =>
          obtain rfl := Option.some.inj h
          exact IsWord.of_all (by decide) (by decide)
      | true =>
          obtain rfl := Option.some.inj h
          exact IsWord.of_all (by decide) (by decide)
  | int n =>
      obtain rfl := Option.some.inj h
      exact isWord_int n
  | number x =>
      obtain rfl := Option.some.inj h
      exact isWord_render (IsWord.of_all (by decide) (by decide))
        (IsWord.of_all (by decide) (by decide)) x
  | text s => exact absurd h (by simp [wordOf?])
  | array items => exact absurd h (by simp [wordOf?])
  | object members => exact absurd h (by simp [wordOf?])

/-- A word is written in the same way in every style. -/
theorem spelled_of_wordOf? {v : Json} {word : List Char} (h : v.wordOf? = some word) (style : Style)
    (depth : Nat) : v.spelled style depth = word := by
  cases v with
  | null => exact Option.some.inj h
  | bool b =>
      cases b with
      | false => exact Option.some.inj h
      | true => exact Option.some.inj h
  | int n => exact Option.some.inj h
  | number x => exact Option.some.inj h
  | text s => exact absurd h (by simp [wordOf?])
  | array items => exact absurd h (by simp [wordOf?])
  | object members => exact absurd h (by simp [wordOf?])

end Json

end IntentSpec
