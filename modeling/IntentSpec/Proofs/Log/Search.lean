import IntentSpec.Log.Redact
import Mathlib.Data.List.Basic

/-!
# The search for secrets

A text is searched from left to right for the secrets of one form.  Where a secret stands at the beginning of
a word, the search goes on behind it and shows its mask; every other character is passed and shown.  The
search is described by its steps here, so that it can be followed from one place of a text to another one
(`Search`); masking is what is shown when it comes to the end (`search_maskEach`).  All secrets of a form and
their masks begin with one letter (`Headed`), and what is shown without that letter stands in the text as well
(`Search.of_shown`).

* `wordEnd` — whether a word reaches up to the end of a text.
* `Search` — the search, from one place to another one.
* `search_append`, `Local` — the search through a text that stands in front of another one.
* `AtWordStarts` — a condition on what follows each place at which a word may begin.
* `maskEach_eq_self` — nothing changes in a text whose secrets are shown as they are.
-/

namespace IntentSpec.Log

open Text

/-- Whether a word reaches up to the end of a text, if it is said whether one reaches up to its front. -/
def wordEnd (inWord : Bool) (s : List Char) : Bool := s.foldl (fun _ c => isWordPart c) inWord

@[simp] theorem wordEnd_nil (inWord : Bool) : wordEnd inWord [] = inWord := rfl

@[simp] theorem wordEnd_cons (inWord : Bool) (c : Char) (s : List Char) :
    wordEnd inWord (c :: s) = wordEnd (isWordPart c) s := rfl

@[simp] theorem wordEnd_append (inWord : Bool) (s t : List Char) :
    wordEnd inWord (s ++ t) = wordEnd (wordEnd inWord s) t := List.foldl_append

/-- Only an empty text hands on what is said of its front. -/
theorem wordEnd_eq_false {inWord : Bool} {s : List Char} (ends : wordEnd inWord s = false) :
    wordEnd false s = false := by
  cases s with
  | nil => rfl
  | cons c s => exact ends

/-- What recognises a secret at the front of a text: what is shown of it, and what follows. -/
abbrev Recogniser := List Char → Option (List Char × List Char)

/-- All secrets of a form, and what is shown of them, begin with one letter in either case. -/
def Headed (secret? : Recogniser) (letter : Char) : Prop :=
  ∀ s shown rest, secret? s = some (shown, rest) →
    ∃ c taken d masked, s = c :: (taken ++ rest) ∧ shown = d :: masked ∧ foldAscii c = letter ∧ foldAscii d = letter

section

variable {secret? : Recogniser} {letter : Char}

theorem Headed.eq_none (headed : Headed secret? letter) {c : Char} (other : foldAscii c ≠ letter) (s : List Char) :
    secret? (c :: s) = none := by
  cases found : secret? (c :: s) with
  | none => rfl
  | some result =>
      obtain ⟨d, taken, -, -, split, -, isLetter, -⟩ := headed _ result.1 result.2 found
      exact absurd ((List.cons.inj split).1 ▸ isLetter) other

theorem Headed.nil_eq_none (headed : Headed secret? letter) : secret? [] = none := by
  cases found : secret? [] with
  | none => rfl
  | some result =>
      obtain ⟨d, taken, -, -, split, -⟩ := headed _ result.1 result.2 found
      cases split

/-! ## Steps -/

theorem maskEach_pass {inWord : Bool} {c : Char} {s : List Char} (none : inWord = false → secret? (c :: s) = none) :
    maskEach secret? inWord 0 (c :: s) = c :: maskEach secret? (isWordPart c) 0 s := by
  cases inWord with
  | true => rw [maskEach, if_pos rfl]
  | false => rw [maskEach, if_neg Bool.false_ne_true, none rfl]

/-- The characters of a secret are skipped. -/
theorem maskEach_covered (inWord : Bool) (taken rest : List Char) :
    maskEach secret? inWord taken.length (taken ++ rest) = maskEach secret? (wordEnd inWord taken) 0 rest := by
  induction taken generalizing inWord with
  | nil => rfl
  | cons c taken ih => exact ih (isWordPart c)

theorem maskEach_hide {taken masked rest : List Char} (given : taken ≠ [])
    (found : secret? (taken ++ rest) = some (masked, rest)) :
    maskEach secret? false 0 (taken ++ rest) = masked ++ maskEach secret? (wordEnd false taken) 0 rest := by
  obtain ⟨c, taken, rfl⟩ := List.exists_cons_of_ne_nil given
  rw [List.cons_append] at found ⊢
  rw [maskEach, if_neg Bool.false_ne_true, found]
  dsimp only
  rw [List.length_append, Nat.add_sub_cancel, maskEach_covered, wordEnd_cons]

variable (secret?) in
/-- The search goes from one place of a text to another one, and what it shows of the characters between
them.  A place is given by what follows it and whether a word reaches up to it. -/
inductive Search : Bool → List Char → List Char → Bool → List Char → Prop
  /-- The search has come to the place. -/
  | here (inWord : Bool) (s : List Char) : Search inWord s [] inWord s
  /-- A character is passed if no secret begins with it. -/
  | pass {inWord inWord' : Bool} {c : Char} {s shown s' : List Char}
      (none : inWord = false → secret? (c :: s) = none) (others : Search (isWordPart c) s shown inWord' s') :
      Search inWord (c :: s) (c :: shown) inWord' s'
  /-- A secret is shown by its mask. -/
  | hide {inWord' : Bool} {taken masked s shown s' : List Char} (given : taken ≠ [])
      (found : secret? (taken ++ s) = some (masked, s)) (others : Search (wordEnd false taken) s shown inWord' s') :
      Search false (taken ++ s) (masked ++ shown) inWord' s'

namespace Search

variable {inWord inWord' : Bool} {s shown s' : List Char}

/-- Masking follows the search. -/
theorem maskEach_eq (search : Search secret? inWord s shown inWord' s') :
    maskEach secret? inWord 0 s = shown ++ maskEach secret? inWord' 0 s' := by
  induction search with
  | here => rfl
  | pass none _ ih => rw [maskEach_pass none, ih, List.cons_append]
  | hide given found _ ih => rw [maskEach_hide given found, ih, List.append_assoc]

theorem trans {inWord'' : Bool} {shown' s'' : List Char} (first : Search secret? inWord s shown inWord' s')
    (second : Search secret? inWord' s' shown' inWord'' s'') :
    Search secret? inWord s (shown ++ shown') inWord'' s'' := by
  induction first with
  | here => exact second
  | pass none _ ih => exact .pass none (ih second)
  | hide given found _ ih => exact List.append_assoc .. ▸ .hide given found (ih second)

/-- What is shown without the first letter of the secrets stands in the text as well: the search has passed
it. -/
theorem of_shown (headed : Headed secret? letter) {front shown' : List Char}
    (plain : ∀ c ∈ front, foldAscii c ≠ letter)
    (search : Search secret? inWord s (front ++ shown') inWord' s') :
    ∃ rest, s = front ++ rest ∧ Search secret? (wordEnd inWord front) rest shown' inWord' s' := by
  induction front generalizing inWord s with
  | nil => exact ⟨s, rfl, search⟩
  | cons c front ih =>
      obtain ⟨other, others⟩ := List.forall_mem_cons.mp plain
      generalize same : c :: front ++ shown' = shown at search
      cases search with
      | here => cases same
      | pass none rest =>
          obtain ⟨rfl, rfl⟩ := List.cons.inj same
          obtain ⟨behind, rfl, search⟩ := ih others rest
          exact ⟨behind, rfl, search⟩
      | hide given found rest =>
          obtain ⟨-, -, d, masked, -, rfl, -, isLetter⟩ := headed _ _ _ found
          exact absurd ((List.cons.inj same).1 ▸ isLetter) other

/-- The search comes to a place behind the one that it starts from. -/
theorem split (search : Search secret? inWord s shown inWord' s') :
    ∃ front, s = front ++ s' ∧ inWord' = wordEnd inWord front := by
  induction search with
  | here => exact ⟨[], rfl, rfl⟩
  | pass none _ ih =>
      obtain ⟨front, rfl, reaches⟩ := ih
      exact ⟨_ :: front, rfl, reaches⟩
  | @hide _ taken _ _ _ _ given found _ ih =>
      obtain ⟨front, rfl, reaches⟩ := ih
      exact ⟨taken ++ front, (List.append_assoc ..).symm, by rw [wordEnd_append, reaches]⟩

/-- Characters with which no secret begins are passed. -/
theorem of_none {front rest : List Char}
    (none : ∀ before after, front = before ++ after → after ≠ [] → wordEnd inWord before = false →
      secret? (after ++ rest) = none) :
    Search secret? inWord (front ++ rest) front (wordEnd inWord front) rest := by
  induction front generalizing inWord with
  | nil => exact .here inWord rest
  | cons c front ih =>
      refine .pass (fun starts => none [] (c :: front) rfl (List.cons_ne_nil c front) starts) (ih ?_)
      intro before after split given starts
      exact none (c :: before) after (split ▸ rfl) given starts

/-- If no mask ends in a word, what is shown up to a place at which a word may begin does not either. -/
theorem wordEnd_shown (ends : ∀ s masked rest, secret? s = some (masked, rest) → wordEnd false masked = false)
    (search : Search secret? inWord s shown inWord' s') (starts : inWord' = false) :
    wordEnd inWord shown = false := by
  induction search with
  | here => exact starts
  | pass none _ ih => exact ih starts
  | hide given found _ ih =>
      rw [wordEnd_append, ends _ _ _ found]
      exact wordEnd_eq_false (ih starts)

end Search

/-- **Masking is what is shown when the search comes to the end.** The search is a relation, so that
it can be taken apart anywhere and not only at its front. -/
theorem search_maskEach (headed : Headed secret? letter) (inWord : Bool) (s : List Char) :
    ∃ inWord', Search secret? inWord s (maskEach secret? inWord 0 s) inWord' [] := by
  induction hlen : s.length using Nat.strongRecOn generalizing inWord s with
  | ind n ih =>
      cases s with
      | nil => exact ⟨inWord, .here inWord []⟩
      | cons c s =>
          by_cases none : inWord = false → secret? (c :: s) = none
          · obtain ⟨inWord', search⟩ := ih s.length (by simp [← hlen]) (isWordPart c) s rfl
            exact ⟨inWord', maskEach_pass none ▸ .pass none search⟩
          · obtain ⟨rfl, some_⟩ := Classical.not_imp.mp none
            obtain ⟨⟨masked, rest⟩, found⟩ := Option.ne_none_iff_exists'.mp some_
            obtain ⟨d, taken, -, -, split, -⟩ := headed _ _ _ found
            rw [← List.cons_append] at split
            rw [split] at found hlen ⊢
            have shorter : rest.length < n := by
              rw [← hlen, List.length_append, List.length_cons]
              omega
            obtain ⟨inWord', search⟩ := ih rest.length shorter (wordEnd false (d :: taken)) rest rfl
            exact ⟨inWord', maskEach_hide (List.cons_ne_nil d taken) found ▸
              .hide (List.cons_ne_nil d taken) found search⟩

/-! ## A text in front of another one -/

/-- A search goes through a text up to another one behind it, or comes to a secret that reaches into the other
one. -/
theorem search_append (headed : Headed secret? letter) (inWord : Bool) (s rest : List Char) :
    (∃ shown, Search secret? inWord (s ++ rest) shown (wordEnd inWord s) rest) ∨
      ∃ shown back masked eaten behind, Search secret? inWord (s ++ rest) shown false (back ++ rest) ∧ back ≠ [] ∧
        back <:+ s ∧ rest = eaten ++ behind ∧ eaten ≠ [] ∧ secret? (back ++ rest) = some (masked, behind) := by
  induction hlen : s.length using Nat.strongRecOn generalizing inWord s with
  | ind n ih =>
      cases s with
      | nil => exact .inl ⟨[], .here inWord rest⟩
      | cons c s =>
          by_cases none : inWord = false → secret? (c :: s ++ rest) = none
          · rcases ih s.length (by simp [← hlen]) (isWordPart c) s rfl with
              ⟨shown, search⟩ | ⟨shown, back, masked, eaten, behind, search, given, suffix_, into⟩
            · exact .inl ⟨c :: shown, .pass none search⟩
            · exact .inr ⟨c :: shown, back, masked, eaten, behind, .pass none search, given,
                suffix_.trans (List.suffix_cons c s), into⟩
          · obtain ⟨rfl, some_⟩ := Classical.not_imp.mp none
            obtain ⟨⟨masked, behind⟩, found⟩ := Option.ne_none_iff_exists'.mp some_
            obtain ⟨d, taken, -, -, split, -⟩ := headed _ _ _ found
            rw [← List.cons_append] at split
            rcases List.append_eq_append_iff.mp split with ⟨eaten, isTaken, isRest⟩ | ⟨back, isFront, isBehind⟩
            · cases eaten with
              | nil =>
                  -- The secret ends where the other text begins.
                  obtain rfl : rest = behind := isRest
                  rw [List.append_nil] at isTaken
                  have hidden := Search.hide (List.cons_ne_nil c s) found (.here _ rest)
                  exact .inl ⟨_, hidden⟩
              | cons e eaten =>
                  exact .inr ⟨[], c :: s, masked, e :: eaten, behind, .here _ _, List.cons_ne_nil c s,
                    List.suffix_rfl, isRest, List.cons_ne_nil e eaten, found⟩
            · have front : c :: s ++ rest = d :: taken ++ (back ++ rest) := by
                rw [isFront, List.append_assoc]
              have shorter : back.length < n := by
                have lengths := congrArg List.length isFront
                simp only [List.length_append, List.length_cons] at lengths hlen
                omega
              rw [isBehind] at found
              rw [front] at found ⊢
              rcases ih back.length shorter (wordEnd false (d :: taken)) back rfl with
                ⟨shown, search⟩ | ⟨shown, back', masked', eaten, behind', search, given, suffix_, into⟩
              · rw [isFront, wordEnd_append]
                exact .inl ⟨masked ++ shown, .hide (List.cons_ne_nil d taken) found search⟩
              · exact .inr ⟨masked ++ shown, back', masked', eaten, behind',
                  .hide (List.cons_ne_nil d taken) found search, given,
                  suffix_.trans (isFront ▸ List.suffix_append _ _), into⟩

variable (secret?) in
/-- Whether a secret is recognised does not depend on what stands behind it. -/
structure Local : Prop where
  /-- It is recognised as well without a text behind it. -/
  found : ∀ taken s rest masked, secret? (taken ++ (s ++ rest)) = some (masked, s ++ rest) →
    secret? (taken ++ s) = some (masked, s)
  /-- A text behind does not take a secret away. -/
  none : ∀ s rest, secret? (s ++ rest) = none → secret? s = none

/-- The search through a text goes the same way without a text behind it. -/
theorem Search.of_append (isLocal : Local secret?) {inWord inWord' : Bool} {s shown s' rest : List Char}
    (search : Search secret? inWord (s ++ rest) shown inWord' (s' ++ rest)) :
    Search secret? inWord s shown inWord' s' := by
  generalize whole : s ++ rest = t, whole' : s' ++ rest = t' at search
  induction search generalizing s with
  | here =>
      obtain rfl := List.append_cancel_right (whole.trans whole'.symm)
      exact .here _ s
  | @pass inWord _ c t _ _ none others ih =>
      obtain ⟨front, rfl, -⟩ := others.split
      rw [← whole', ← List.append_assoc, ← List.cons_append] at whole
      obtain rfl := List.append_cancel_right whole
      refine .pass (fun starts => isLocal.none _ rest ?_) (ih ?_ whole')
      · rw [← none starts, ← whole', List.cons_append, List.append_assoc]
      · rw [← whole', List.append_assoc]
  | @hide _ taken masked t _ _ given found others ih =>
      obtain ⟨front, rfl, -⟩ := others.split
      rw [← whole', ← List.append_assoc, ← List.append_assoc] at whole
      obtain rfl := List.append_cancel_right whole
      rw [List.append_assoc]
      refine .hide given (isLocal.found taken _ rest masked ?_) (ih ?_ whole')
      · rw [List.append_assoc, whole', found]
      · rw [← whole', List.append_assoc]

/-- What is shown of a text up to another one behind it is what masking makes of it alone. -/
theorem Search.shown_eq (isLocal : Local secret?) {inWord inWord' : Bool}
    {s shown rest : List Char} (search : Search secret? inWord (s ++ rest) shown inWord' rest) :
    shown = maskEach secret? inWord 0 s := by
  have alone : Search secret? inWord s shown inWord' [] := Search.of_append isLocal search
  have isShown := alone.maskEach_eq
  rwa [maskEach, List.append_nil, eq_comm] at isShown

/-! ## Conditions at the beginnings of words -/

/-- What follows each place of a text at which a word may begin meets a condition. -/
def AtWordStarts (P : List Char → Prop) (inWord : Bool) (s : List Char) : Prop :=
  ∀ before after, s = before ++ after → wordEnd inWord before = false → P after

namespace AtWordStarts

variable {P : List Char → Prop} {inWord : Bool} {s t : List Char}

theorem front (holds : AtWordStarts P inWord s) (starts : inWord = false) : P s := holds [] s rfl starts

theorem behind (holds : AtWordStarts P inWord (s ++ t)) : AtWordStarts P (wordEnd inWord s) t := by
  rintro before after rfl starts
  exact holds (s ++ before) after (List.append_assoc ..).symm (by rwa [wordEnd_append])

theorem cons {c : Char} (first : inWord = false → P (c :: s)) (others : AtWordStarts P (isWordPart c) s) :
    AtWordStarts P inWord (c :: s) := by
  intro before after split starts
  cases before with
  | nil =>
      obtain rfl : c :: s = after := split
      exact first starts
  | cons d before =>
      obtain ⟨rfl, rfl⟩ := List.cons.inj split
      exact others before after rfl starts

/-- A text behind which a condition holds may be put in front if the condition holds wherever it is met
inside. -/
theorem append (inside : ∀ before c after, s = before ++ c :: after → wordEnd inWord before = false →
    P (c :: after ++ t)) (others : AtWordStarts P (wordEnd inWord s) t) : AtWordStarts P inWord (s ++ t) := by
  induction s generalizing inWord with
  | nil => exact others
  | cons c s ih =>
      refine cons (inside [] c s rfl) (ih (fun before d after split starts => ?_) others)
      exact inside (c :: before) d after (split ▸ rfl) starts

/-- Where a word reaches up to the front, the front may be looked at as well. -/
theorem of_front (holds : AtWordStarts P inWord s) (front : P s) : AtWordStarts P false s := by
  cases s with
  | nil =>
      intro before after split _
      obtain ⟨-, rfl⟩ := List.append_eq_nil_iff.mp split.symm
      exact front
  | cons c s => exact cons (fun _ => front) (holds.behind (s := [c]))

end AtWordStarts

/-- **Nothing changes in a text whose secrets are shown as they are.** -/
theorem maskEach_eq_self (headed : Headed secret? letter) {inWord : Bool} {s : List Char}
    (settled : AtWordStarts (fun after => ∀ shown rest, secret? after = some (shown, rest) → shown ++ rest = after)
      inWord s) : maskEach secret? inWord 0 s = s := by
  obtain ⟨inWord', search⟩ := search_maskEach headed inWord s
  suffices shows : ∀ {inWord inWord' s shown s'}, Search secret? inWord s shown inWord' s' →
      AtWordStarts (fun after => ∀ shown rest, secret? after = some (shown, rest) → shown ++ rest = after)
        inWord s → s = shown ++ s' by
    have whole := shows search settled
    rw [List.append_nil] at whole
    exact whole.symm
  intro inWord inWord' s shown s' search settled
  induction search with
  | here => rfl
  | pass none _ ih => rw [List.cons_append, ← ih (settled.behind (s := [_]))]
  | hide given found _ ih =>
      have same := settled.front rfl _ _ found
      rw [List.append_assoc, ← ih settled.behind, same]

end

end IntentSpec.Log
