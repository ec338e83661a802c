import IntentSpec.Proofs.Text.Class
import IntentSpec.Rule.Leak
import Mathlib.Data.List.Basic

/-!
# What a signal spells

`Signal.rests` takes a signal off the front of a text, part by part, and takes a run of blanks or
digits as a whole.  Here it is said which texts a signal stands for (`Signal.Spells`).  Since no part
of the signals begins the way the part before it goes on (`separated_of_mem`), the search takes off
exactly those (`Signal.mem_rests_iff`).

The general search would have to try every length of a run and give characters back when the next part
does not fit.  For the signals that there are this is of no use: what follows a run of blanks does not
begin with a blank, and what follows a run of digits not with a digit, so a shorter run is never continued.
The condition is stated for every signal (`Signal.Separated`) and checked for the list of them, so another
signal only has to pass that check.

Case makes no difference to a signal, and the classes of characters that occur are closed under it
(`member_foldAscii`).
-/

namespace IntentSpec.Leak

open Text

/-! ## What a signal spells -/

/-- The texts that a part of a signal stands for. -/
def Part.Spells : Part → List Char → Prop
  | letters w, s => s.map foldAscii = w.toList.map foldAscii
  | gap, s => ∀ c ∈ s, isAsciiBlank c = true
  | space, s => s ≠ [] ∧ ∀ c ∈ s, isAsciiBlank c = true
  | digits, s => s ≠ [] ∧ ∀ c ∈ s, isAsciiDigit c = true
  | optional w, s => s = [] ∨ s.map foldAscii = w.toList.map foldAscii

/-- The texts that a signal stands for: those of its parts, one after another. -/
def Signal.Spells : Signal → List Char → Prop
  | [], s => s = []
  | part :: signal, s => ∃ front back, s = front ++ back ∧ part.Spells front ∧
      Signal.Spells signal back

/-! ## Case -/

/-- Lowering moves the capital letters, each to the one 32 places behind it. -/
theorem foldAscii_shift (c : Char) :
    foldAscii c = c ∨ ∃ n : Fin 26, c = Char.ofNat (65 + n) ∧ foldAscii c = Char.ofNat (65 + n + 32) := by
  unfold foldAscii
  split
  next upper =>
    obtain ⟨low, high⟩ : 'A' ≤ c ∧ c ≤ 'Z' := by simpa using upper
    have low' : 65 ≤ c.toNat := low
    have high' : c.toNat ≤ 90 := high
    have place : 65 + (c.toNat - 65) = c.toNat := by omega
    exact .inr ⟨⟨c.toNat - 65, by omega⟩, by rw [place, Char.ofNat_toNat], by rw [place]⟩
  next => exact .inl rfl

/-- Lowering moves letters only, and to letters. -/
theorem foldAscii_cases (c : Char) :
    foldAscii c = c ∨ (isAsciiLetter c = true ∧ isAsciiLetter (foldAscii c) = true) := by
  have letters : ∀ n : Fin 26, isAsciiLetter (Char.ofNat (65 + n)) = true ∧
      isAsciiLetter (Char.ofNat (65 + n + 32)) = true := by decide
  refine (foldAscii_shift c).imp_right ?_
  rintro ⟨n, here, moved⟩
  rw [moved, here]
  exact letters n

/-- A class that holds all letters or none does not see the case of a letter. -/
theorem member_foldAscii {member : Char → Bool} {b : Bool}
    (letters : ∀ c, isAsciiLetter c = true → member c = b) (c : Char) :
    member (foldAscii c) = member c := by
  rcases foldAscii_cases c with same | ⟨letter, letter'⟩
  · rw [same]
  · rw [letters _ letter, letters _ letter']

theorem isAsciiBlank_of_isAsciiLetter (c : Char) (letter : isAsciiLetter c = true) :
    isAsciiBlank c = false := by
  have range := toNat_of_isAsciiLetter letter
  exact isAsciiBlank_of_visible (by omega)

/-! ## What the search takes off the front of a text is what a signal spells -/

theorem dropLetters?_eq_some_iff (w s rest : List Char) :
    dropLetters? w s = some rest ↔
      ∃ front, s = front ++ rest ∧ front.map foldAscii = w.map foldAscii := by
  induction w generalizing s with
  | nil => simp [dropLetters?, eq_comm]
  | cons l w ih =>
      cases s with
      | nil => simp [dropLetters?]
      | cons c s =>
          unfold dropLetters?
          by_cases same : foldAscii l = foldAscii c
          · rw [if_pos (by simpa using same), ih]
            constructor
            · rintro ⟨front, rfl, folded⟩
              exact ⟨c :: front, rfl, by simp [folded, same]⟩
            · rintro ⟨front, split, folded⟩
              obtain ⟨d, front, rfl⟩ : ∃ d tail, front = d :: tail := by
                cases front with
                | nil => exact absurd folded (by simp)
                | cons d tail => exact ⟨d, tail, rfl⟩
              obtain ⟨-, rfl⟩ := List.cons.inj split
              exact ⟨front, rfl, (List.cons.inj folded).2⟩
          · rw [if_neg (by simpa using same)]
            refine iff_of_false (by simp) ?_
            rintro ⟨front, split, folded⟩
            cases front with
            | nil => exact absurd folded (by simp)
            | cons d front =>
                obtain ⟨rfl, -⟩ := List.cons.inj split
                exact same (List.cons.inj folded).1.symm

theorem Part.spells_of_mem_rests {part : Part} {s rest : List Char} (h : rest ∈ part.rests s) :
    ∃ front, s = front ++ rest ∧ part.Spells front := by
  have run : ∀ member : Char → Bool, dropRun? member s = some rest →
      ∃ front, s = front ++ rest ∧ front ≠ [] ∧ ∀ c ∈ front, member c = true := by
    intro member dropped
    cases s with
    | nil => exact absurd dropped (by simp [dropRun?])
    | cons c s =>
        by_cases first : member c = true
        · rw [dropRun?, if_pos first] at dropped
          obtain rfl := Option.some.inj dropped
          refine ⟨c :: s.takeWhile member, by simp, by simp, ?_⟩
          exact List.forall_mem_cons.mpr ⟨first, List.all_eq_true.mp List.all_takeWhile⟩
        · rw [dropRun?, if_neg first] at dropped
          exact absurd dropped (by simp)
  cases part with
  | letters w => exact (dropLetters?_eq_some_iff _ _ _).mp (Option.mem_toList.mp h)
  | gap =>
      obtain rfl := List.mem_singleton.mp h
      exact ⟨s.takeWhile isAsciiBlank, by simp, List.all_eq_true.mp List.all_takeWhile⟩
  | space => exact run _ (Option.mem_toList.mp h)
  | digits => exact run _ (Option.mem_toList.mp h)
  | optional w =>
      rcases List.mem_append.mp h with some | none
      · obtain ⟨front, split, folded⟩ :=
          (dropLetters?_eq_some_iff _ _ _).mp (Option.mem_toList.mp some)
        exact ⟨front, split, Or.inr folded⟩
      · obtain rfl := List.mem_singleton.mp none
        exact ⟨[], rfl, Or.inl rfl⟩

/-- What is left of a text behind a signal stands behind a text that the signal spells. -/
theorem Signal.spells_of_mem_rests {signal : Signal} {s rest : List Char}
    (h : rest ∈ signal.rests s) : ∃ front, s = front ++ rest ∧ signal.Spells front := by
  induction signal generalizing s with
  | nil => exact ⟨[], (List.mem_singleton.mp h).symm, rfl⟩
  | cons part signal ih =>
      obtain ⟨middle, first, others⟩ := List.mem_flatMap.mp h
      obtain ⟨front, rfl, spelled⟩ := Part.spells_of_mem_rests first
      obtain ⟨back, rfl, spelled'⟩ := ih others
      exact ⟨front ++ back, by simp, front, back, rfl, spelled, spelled'⟩

/-! ## A part is followed by something else -/

/-- Whatever the signal spells begins, and not with a character of the class. -/
def Signal.Avoids (member : Char → Bool) (signal : Signal) : Prop :=
  ∀ s, signal.Spells s → ∃ c rest, s = c :: rest ∧ member c = false

/-- The class of which a part takes as many characters as there are. -/
def Part.run? : Part → Option (Char → Bool)
  | gap | space => some isAsciiBlank
  | digits => some isAsciiDigit
  | letters _ | optional _ => none

/-- No part begins the way the part before it goes on. -/
def Signal.Separated : Signal → Prop
  | [] => True
  | part :: signal => (∀ member ∈ part.run?, Signal.Avoids member signal) ∧
      Signal.Separated signal

theorem dropWhile_append_cons {member : Char → Bool} {front rest : List Char} {c : Char}
    (run : ∀ d ∈ front, member d = true) (stop : member c = false) :
    (front ++ c :: rest).dropWhile member = c :: rest := by
  rw [List.dropWhile_append_of_pos run, List.dropWhile_cons_of_neg (by simp [stop])]

theorem Part.mem_rests_of_spells {part : Part} {front rest : List Char}
    (spelled : part.Spells front)
    (stops : ∀ member ∈ part.run?, ∃ c tail, rest = c :: tail ∧ member c = false) :
    rest ∈ part.rests (front ++ rest) := by
  have run : ∀ member : Char → Bool, (∀ d ∈ front, member d = true) → front ≠ [] →
      (∃ c tail, rest = c :: tail ∧ member c = false) →
      dropRun? member (front ++ rest) = some rest := by
    rintro member inside some ⟨c, tail, rfl, stop⟩
    obtain ⟨d, front, rfl⟩ := List.exists_cons_of_ne_nil some
    obtain ⟨first, inside⟩ := List.forall_mem_cons.mp inside
    rw [List.cons_append, dropRun?, if_pos first, dropWhile_append_cons inside stop]
  cases part with
  | letters w => exact Option.mem_toList.mpr ((dropLetters?_eq_some_iff _ _ _).mpr ⟨_, rfl, spelled⟩)
  | gap =>
      obtain ⟨c, tail, rfl, stop⟩ := stops _ rfl
      exact List.mem_singleton.mpr (dropWhile_append_cons spelled stop).symm
  | space => exact Option.mem_toList.mpr (run _ spelled.2 spelled.1 (stops _ rfl))
  | digits => exact Option.mem_toList.mpr (run _ spelled.2 spelled.1 (stops _ rfl))
  | optional w =>
      rcases spelled with rfl | folded
      · exact List.mem_append_right _ (List.mem_singleton.mpr rfl)
      · have dropped : dropLetters? w.toList (front ++ rest) = some rest :=
          (dropLetters?_eq_some_iff _ _ _).mpr ⟨front, rfl, folded⟩
        exact List.mem_append_left _ (Option.mem_toList.mpr dropped)

/-- **The search takes off the front exactly what the signal spells**, although it never gives back
a blank or a digit, since no part could use it. -/
theorem Signal.mem_rests_iff {signal : Signal} (separated : signal.Separated) (s rest : List Char) :
    rest ∈ signal.rests s ↔ ∃ front, s = front ++ rest ∧ signal.Spells front := by
  constructor
  · exact Signal.spells_of_mem_rests
  · rintro ⟨front, rfl, spelled⟩
    induction signal generalizing front with
    | nil =>
        obtain rfl := spelled
        exact List.mem_singleton.mpr rfl
    | cons part signal ih =>
        obtain ⟨front, back, rfl, first, others⟩ := spelled
        obtain ⟨avoids, separated⟩ := separated
        refine List.mem_flatMap.mpr ⟨back ++ rest, ?_, ih separated back others⟩
        rw [List.append_assoc]
        refine Part.mem_rests_of_spells first fun member isRun => ?_
        obtain ⟨c, tail, rfl, stop⟩ := avoids member isRun back others
        exact ⟨c, tail ++ rest, rfl, stop⟩

theorem avoids_letters {member : Char → Bool} (folds : ∀ c, member (foldAscii c) = member c)
    {w : String} {signal : Signal} {l : Char} (first : w.toList.head? = some l)
    (apart : member l = false) : Signal.Avoids member (.letters w :: signal) := by
  rintro s ⟨front, back, rfl, folded, -⟩
  obtain ⟨tail, word⟩ : ∃ tail, w.toList = l :: tail := by
    cases h : w.toList with
    | nil => exact absurd (h ▸ first) (by simp)
    | cons _ tail =>
        rw [h] at first
        obtain rfl := Option.some.inj first
        exact ⟨tail, rfl⟩
  have folded : front.map foldAscii = (l :: tail).map foldAscii := word ▸ folded
  cases front with
  | nil => exact absurd folded (by simp)
  | cons c front =>
      have same : foldAscii c = foldAscii l := (List.cons.inj folded).1
      refine ⟨c, front ++ back, rfl, ?_⟩
      rw [← folds, same, folds]
      exact apart

theorem isAsciiBlank_of_isAsciiDigit (c : Char) (digit : isAsciiDigit c = true) :
    isAsciiBlank c = false := by
  have range := toNat_of_isAsciiDigit digit
  exact isAsciiBlank_of_visible (by omega)

theorem isAsciiDigit_of_isAsciiBlank (c : Char) (blank : isAsciiBlank c = true) :
    isAsciiDigit c = false := by
  by_contra digit
  rw [isAsciiBlank_of_isAsciiDigit c (by simpa using digit)] at blank
  exact absurd blank (by decide)

/-- A run of one class begins with no character of another class. -/
theorem avoids_run {member run : Char → Bool} {part : Part}
    (spells : ∀ s, part.Spells s → s ≠ [] ∧ ∀ c ∈ s, run c = true)
    (apart : ∀ c, run c = true → member c = false) (signal : Signal) :
    Signal.Avoids member (part :: signal) := by
  rintro s ⟨front, back, rfl, spelled, -⟩
  obtain ⟨some, inside⟩ := spells front spelled
  obtain ⟨c, front, rfl⟩ := List.exists_cons_of_ne_nil some
  exact ⟨c, front ++ back, rfl, apart c (inside c List.mem_cons_self)⟩

/-! ## The signals -/

/-- Letters are no run. -/
theorem separated_letters {w : String} {signal : Signal} (separated : signal.Separated) :
    Signal.Separated (.letters w :: signal) :=
  ⟨by simp [Part.run?], separated⟩

/-- A run of blanks ends where letters begin. -/
theorem separated_blanks {part : Part} (blanks : part.run? = some isAsciiBlank) {w : String}
    {l : Char} (first : w.toList.head? = some l) (apart : isAsciiBlank l = false) {signal : Signal}
    (separated : Signal.Separated (.letters w :: signal)) :
    Signal.Separated (part :: .letters w :: signal) := by
  refine ⟨fun member isRun => ?_, separated⟩
  obtain rfl : isAsciiBlank = member := Option.some.inj (blanks.symm.trans isRun)
  exact avoids_letters (member_foldAscii isAsciiBlank_of_isAsciiLetter) first apart

/-- In every signal each run of blanks or digits ends where the next part begins. -/
theorem separated_of_mem : ∀ signal ∈ signals, Signal.Separated signal := by
  have schedule : Signal.Separated
      [.letters "every", .space, .digits, .space, .letters "minute", .optional "s"] := by
    have digits : ∀ s, Part.digits.Spells s → s ≠ [] ∧ ∀ c ∈ s, isAsciiDigit c = true :=
      fun _ spelled => spelled
    have space : ∀ s, Part.space.Spells s → s ≠ [] ∧ ∀ c ∈ s, isAsciiBlank c = true :=
      fun _ spelled => spelled
    have ends : Signal.Separated [.letters "minute", .optional "s"] :=
      separated_letters ⟨by simp [Part.run?], trivial⟩
    refine separated_letters ⟨?_, ?_, separated_blanks rfl rfl rfl ends⟩
    · rintro _ ⟨rfl⟩
      exact avoids_run digits isAsciiBlank_of_isAsciiDigit _
    · rintro _ ⟨rfl⟩
      exact avoids_run space isAsciiDigit_of_isAsciiBlank _
  have closing : Signal.Separated [.gap, .letters ")"] :=
    separated_blanks rfl rfl rfl (separated_letters trivial)
  have bound : Signal.Separated [.gap, .letters "n", .gap, .letters ")"] :=
    separated_blanks rfl rfl rfl (separated_letters closing)
  have logBound : Signal.Separated
      [.gap, .letters "log", .gap, .letters "n", .gap, .letters ")"] :=
    separated_blanks rfl rfl rfl (separated_letters bound)
  have word : ∀ w, Signal.Separated [.letters w] := fun _ => separated_letters trivial
  intro signal known
  simp only [signals, List.mem_cons, List.not_mem_nil, or_false] at known
  rcases known with rfl | rfl | rfl | rfl | rfl | rfl | rfl | rfl
  · exact word "B-Tree"
  · exact word "LRU"
  · exact separated_letters logBound
  · exact separated_letters bound
  · exact word "rebalance"
  · exact word "background"
  · exact word "compaction"
  · exact schedule

/-- Every signal begins with a word character. -/
theorem avoids_of_mem : ∀ signal ∈ signals, Signal.Avoids (fun c => !isAsciiWord c) signal := by
  have letters : ∀ c, isAsciiLetter c = true → (!isAsciiWord c) = false := fun c letter => by
    rw [isAsciiWord_of_isAsciiLetter letter]
    rfl
  intro signal known
  simp only [signals, List.mem_cons, List.not_mem_nil, or_false] at known
  rcases known with rfl | rfl | rfl | rfl | rfl | rfl | rfl | rfl <;>
    exact avoids_letters (member_foldAscii letters) rfl rfl

end IntentSpec.Leak
