import IntentSpec.Proofs.Document.Phrase
import IntentSpec.Proofs.Predicate.Block

/-!
# What opens the system

The opening of the system is the only thing that is looked for in a line with its blanks.  Everything
else is recognised on a trimmed line, so the general lemmas about trimming say nothing about it, and it
has a module of its own.

The recogniser goes from the keyword to the brace from left to right and never goes back.  It can do so
because a name in double quotes ends at the first quote: there is one way at most to take an opening
apart (`quotedFront?_eq_some_iff`), and the texts that have one can be written down
(`systemOpening?_eq_some_iff`).

Blanks behind the opening make no difference (`systemName?_concat`).  This is what allows a comment to
be taken off a line, or a line to end in a carriage return, without a change to the name that is read.
-/

namespace IntentSpec.Document

open Text
open Predicate (concat_eq_append_cons)

theorem cutFirst?_eq_some_iff (mark : Char) (s front back : List Char) :
    cutFirst? mark s = some (front, back) ↔ s = front ++ mark :: back ∧ mark ∉ front := by
  constructor
  · intro cut
    induction s generalizing front with
    | nil => cases cut
    | cons c s ih =>
        unfold cutFirst? at cut
        split at cut
        next here =>
          cases cut
          exact ⟨by rw [here, List.nil_append], List.not_mem_nil⟩
        next other =>
          obtain ⟨⟨front, back⟩, later, pieces⟩ := Option.map_eq_some_iff.mp cut
          cases pieces
          obtain ⟨rfl, new⟩ := ih front later
          exact ⟨rfl, List.not_mem_cons_of_ne_of_not_mem (Ne.symm other) new⟩
  · rintro ⟨rfl, new⟩
    exact cutFirst?_append new back

/-- What follows the leading blanks of a text, if it is no blank itself. -/
theorem skipAsciiBlanks_eq_cons_iff {c : Char} (solid : isAsciiBlank c = false)
    (s rest : List Char) :
    skipAsciiBlanks s = c :: rest ↔
      ∃ gap, (∀ d ∈ gap, isAsciiBlank d = true) ∧ s = gap ++ c :: rest := by
  constructor
  · intro behind
    refine ⟨s.takeWhile isAsciiBlank, List.all_eq_true.mp List.all_takeWhile, ?_⟩
    rw [← behind, skipAsciiBlanks, List.takeWhile_append_dropWhile]
  · rintro ⟨gap, blank, rfl⟩
    rw [skipAsciiBlanks, List.dropWhile_append_of_pos blank,
      List.dropWhile_cons_of_neg (by simp [solid])]

theorem afterKeyword?_eq_cons_iff {c : Char} (solid : isAsciiBlank c = false) (word : String)
    (s rest : List Char) :
    afterKeyword? word s = some (c :: rest) ↔
      ∃ gap, gap ≠ [] ∧ (∀ d ∈ gap, isAsciiBlank d = true) ∧ s = word.toList ++ (gap ++ c :: rest) := by
  constructor
  · intro found
    unfold afterKeyword? at found
    split at found
    next d behind keyword =>
      split at found
      next first =>
        obtain ⟨gap, blank, rfl⟩ :=
          (skipAsciiBlanks_eq_cons_iff solid behind rest).mp (Option.some.inj found)
        exact ⟨d :: gap, List.cons_ne_nil d gap, List.forall_mem_cons.mpr ⟨first, blank⟩,
          (dropWord?_eq_some_iff _ _ _).mp keyword⟩
      next => cases found
    next => cases found
  · rintro ⟨gap, some, blank, rfl⟩
    obtain ⟨d, gap, rfl⟩ := List.exists_cons_of_ne_nil some
    obtain ⟨first, blank⟩ := List.forall_mem_cons.mp blank
    unfold afterKeyword?
    rw [dropWord?_append, List.cons_append]
    dsimp only
    rw [if_pos first, (skipAsciiBlanks_eq_cons_iff solid _ rest).mpr ⟨gap, blank, rfl⟩]

theorem quotedFront?_eq_some_iff (s inner rest : List Char) :
    quotedFront? s = some (inner, rest) ↔
      inner ≠ [] ∧ '"' ∉ inner ∧ s = '"' :: (inner ++ '"' :: rest) := by
  constructor
  · intro found
    unfold quotedFront? at found
    split at found
    next behind =>
      split at found
      next cut =>
        split at found
        next => cases found
        next some =>
          cases found
          obtain ⟨rfl, plain⟩ := (cutFirst?_eq_some_iff _ _ _ _).mp cut
          exact ⟨by simpa using some, plain, rfl⟩
      next => cases found
    next => cases found
  · rintro ⟨nonempty, plain, rfl⟩
    exact quotedFront?_append nonempty plain rest

/-- **The system is opened by the keyword, blanks, a name in double quotes, blanks and a brace.**
Nothing is said about what follows the brace, since the search does not look at it. -/
theorem systemOpening?_eq_some_iff (s name : List Char) :
    systemOpening? s = some name ↔
      ∃ gap gap' rest, gap ≠ [] ∧ (∀ c ∈ gap, isAsciiBlank c = true) ∧
        (∀ c ∈ gap', isAsciiBlank c = true) ∧ name ≠ [] ∧ '"' ∉ name ∧
        s = "system".toList ++ (gap ++ '"' :: (name ++ '"' :: (gap' ++ '\x7b' :: rest))) := by
  constructor
  · intro opens
    obtain ⟨behind, keyword, closing⟩ := Option.bind_eq_some_iff.mp opens
    obtain ⟨⟨inner, rest⟩, quoted, ending⟩ := Option.bind_eq_some_iff.mp closing
    obtain ⟨nonempty, plain, rfl⟩ := (quotedFront?_eq_some_iff _ _ _).mp quoted
    obtain ⟨gap, some, blank, rfl⟩ := (afterKeyword?_eq_cons_iff (by decide) _ _ _).mp keyword
    dsimp only at ending
    split at ending
    next brace =>
      cases ending
      obtain ⟨rest', found⟩ := List.head?_eq_some_iff.mp brace
      obtain ⟨gap', blank', rfl⟩ := (skipAsciiBlanks_eq_cons_iff (by decide) _ _).mp found
      exact ⟨gap, gap', rest', some, blank, blank', nonempty, plain, rfl⟩
    next => cases ending
  · rintro ⟨gap, gap', rest, some, blank, blank', nonempty, plain, rfl⟩
    have keyword := (afterKeyword?_eq_cons_iff (c := '"') (by decide) "system" _
      (name ++ '"' :: (gap' ++ '\x7b' :: rest))).mpr ⟨gap, some, blank, rfl⟩
    have brace : skipAsciiBlanks (gap' ++ '\x7b' :: rest) = '\x7b' :: rest :=
      (skipAsciiBlanks_eq_cons_iff (by decide) _ rest).mpr ⟨gap', blank', rfl⟩
    unfold systemOpening?
    rw [keyword, Option.bind_eq_bind, Option.bind_some, quotedFront?_append nonempty plain,
      Option.bind_eq_bind, Option.bind_some]
    dsimp only
    rw [brace]
    rfl

/-- A blank behind the opening of the system makes no difference. -/
theorem systemOpening?_concat {c : Char} (blank : isAsciiBlank c = true) (s : List Char) :
    systemOpening? (s ++ [c]) = systemOpening? s := by
  ext name
  rw [systemOpening?_eq_some_iff, systemOpening?_eq_some_iff]
  refine exists_congr fun gap => exists_congr fun gap' => ⟨?_, ?_⟩
  · rintro ⟨rest, some, spaces, spaces', nonempty, plain, split⟩
    have ends : s ++ [c] =
        ("system".toList ++ (gap ++ '"' :: (name ++ '"' :: gap'))) ++ '\x7b' :: rest := by
      simpa using split
    rcases concat_eq_append_cons ends with ⟨-, -, rfl⟩ | ⟨rest, -, rfl⟩
    · exact absurd blank (by decide)
    · exact ⟨rest, some, spaces, spaces', nonempty, plain, by simp⟩
  · rintro ⟨rest, some, spaces, spaces', nonempty, plain, rfl⟩
    exact ⟨rest ++ [c], some, spaces, spaces', nonempty, plain, by simp⟩

theorem systemName?_concat {c : Char} (blank : isAsciiBlank c = true) (s : List Char)
    (inWord : Bool) : systemName? inWord (s ++ [c]) = systemName? inWord s := by
  induction s generalizing inWord with
  | nil =>
      have closed := systemOpening?_concat blank []
      rw [List.nil_append] at closed
      have none : systemName? inWord [c] = none := by
        rw [systemName?, closed]
        cases inWord <;> rfl
      exact none
  | cons d s ih =>
      have opening := systemOpening?_concat blank (d :: s)
      rw [List.cons_append] at opening
      rw [List.cons_append, systemName?, systemName?, opening, ih]

end IntentSpec.Document
