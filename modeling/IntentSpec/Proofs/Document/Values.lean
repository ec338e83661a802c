import IntentSpec.Proofs.Document.Ending
import IntentSpec.Proofs.Document.Opening
import Mathlib.Data.List.Forall2

/-!
# The two forms of values

A value is a list in brackets or a scalar, and both may have quotes.

Of an item of a list the double quotes are removed and then the single ones.  For an item with quotes of
one kind around quotes of the other kind this makes a difference: single quotes around double ones leave the
double ones, double quotes around single ones leave none.  So one layer is removed of each item exactly if
there is no item of the second sort.

A scalar without further quotes says the same bare and in quotes of both kinds, unless nothing stands in the
quotes: two quotes with nothing between them are no quoted text, and they are taken for a bare one.

* `Bracketed`, `parts` — what stands in the brackets, and the items there.
* `Peels`, `Layered` — one layer of quotes, and an item that loses two.
* `bracketList_peels_iff` — what a list holds, and when one layer of quotes is removed of each item.
* `require_requirement` — what a line says about the capability that a validation requires.
* `scalar`, `quotedOrBare_alike_iff` — what a scalar says, and when the quotes do not matter.
-/

namespace IntentSpec.Document

open Text

/-! ## Brackets -/

theorem cutLast?_eq_none_iff (mark : Char) (s : List Char) : cutLast? mark s = none ↔ mark ∉ s := by
  induction s with
  | nil => simp [cutLast?]
  | cons c s ih =>
      unfold cutLast?
      cases cut : cutLast? mark s with
      | none => simp [ih.mp cut, eq_comm]
      | some pieces =>
          have here : mark ∈ s := by
            by_contra new
            rw [ih.mpr new] at cut
            cases cut
          simp [here]

theorem cutLast?_eq_some_iff (mark : Char) (s front back : List Char) :
    cutLast? mark s = some (front, back) ↔ s = front ++ mark :: back ∧ mark ∉ back := by
  constructor
  · intro cut
    induction s generalizing front with
    | nil => cases cut
    | cons c s ih =>
        unfold cutLast? at cut
        split at cut
        next later =>
          cases cut
          obtain ⟨rfl, new⟩ := ih _ later
          exact ⟨rfl, new⟩
        next none =>
          split at cut
          next here =>
            cases cut
            exact ⟨by rw [here, List.nil_append], (cutLast?_eq_none_iff _ _).mp none⟩
          next => cases cut
  · rintro ⟨rfl, new⟩
    induction front with
    | nil => rw [List.nil_append, cutLast?, (cutLast?_eq_none_iff _ _).mpr new, if_pos rfl]
    | cons c front ih => rw [List.cons_append, cutLast?, ih]

/-- An opening bracket stands somewhere in front of a closing one. -/
def Paired (value : List Char) : Prop :=
  ∃ front middle back, value = front ++ '[' :: (middle ++ ']' :: back)

/-- What stands between the first opening bracket and the last closing one. -/
def Bracketed (value inner : List Char) : Prop :=
  ∃ front back, value = front ++ '[' :: (inner ++ ']' :: back) ∧ '[' ∉ front ∧ ']' ∉ back

theorem bracketed_open (s inner : List Char) :
    Bracketed ('[' :: s) inner ↔ ∃ back, cutLast? ']' s = some (inner, back) := by
  simp only [cutLast?_eq_some_iff]
  constructor
  · rintro ⟨front, back, split, new, new'⟩
    cases front with
    | nil => exact ⟨back, (List.cons.inj split).2, new'⟩
    | cons c front => exact absurd ((List.cons.inj split).1 ▸ List.mem_cons_self) new
  · rintro ⟨back, rfl, new⟩
    exact ⟨[], back, rfl, List.not_mem_nil, new⟩

theorem exists_bracketed_open {s : List Char} (closes : ']' ∈ s) : ∃ inner, Bracketed ('[' :: s) inner := by
  have some : cutLast? ']' s ≠ none := fun none => (cutLast?_eq_none_iff _ _).mp none closes
  obtain ⟨⟨inner, back⟩, cut⟩ := Option.ne_none_iff_exists'.mp some
  exact ⟨inner, (bracketed_open ..).mpr ⟨back, cut⟩⟩

theorem bracketed_cons {c : Char} (other : c ≠ '[') (s inner : List Char) :
    Bracketed (c :: s) inner ↔ Bracketed s inner := by
  constructor
  · rintro ⟨front, back, split, new, new'⟩
    cases front with
    | nil => exact absurd (List.cons.inj split).1 other
    | cons d front =>
        obtain ⟨-, new⟩ := not_or.mp (mt List.mem_cons.mpr new)
        exact ⟨front, back, (List.cons.inj split).2, new, new'⟩
  · rintro ⟨front, back, rfl, new, new'⟩
    exact ⟨c :: front, back, rfl, List.not_mem_cons_of_ne_of_not_mem (Ne.symm other) new, new'⟩

/-- On a single line the brackets are the first and the last one. -/
theorem bracketed?_eq_some_iff {value : List Char} (line : '\n' ∉ value) (inner : List Char) :
    bracketed? value = some inner ↔ Bracketed value inner := by
  induction value with
  | nil => simp [bracketed?, Bracketed]
  | cons c s ih =>
      have later := ih (not_or.mp (mt List.mem_cons.mpr line)).2
      have whole : s.takeWhile (· != '\n') = s :=
        List.takeWhile_eq_self_iff.mpr fun d here => by
          simpa using fun same : d = '\n' => line (List.mem_cons_of_mem c (same ▸ here))
      unfold bracketed?
      rw [whole]
      by_cases opening : c = '['
      · subst opening
        rw [if_pos rfl, bracketed_open]
        cases cut : cutLast? ']' s with
        | some pieces => simp [Prod.ext_iff]
        | none =>
            -- no bracket is closed behind this one, nor behind a later one
            refine iff_of_false (fun found => ?_) (by simp)
            obtain ⟨front, back, rfl, -⟩ := later.mp found
            exact (cutLast?_eq_none_iff _ _).mp cut (by simp)
      · rw [if_neg opening, bracketed_cons opening, later]

theorem Paired.exists_bracketed {value : List Char} (paired : Paired value) :
    ∃ inner, Bracketed value inner := by
  obtain ⟨front, middle, back, rfl⟩ := paired
  induction front with
  | nil => exact exists_bracketed_open (by simp)
  | cons c front ih =>
      by_cases opening : c = '['
      · subst opening
        exact exists_bracketed_open (by simp)
      · obtain ⟨inner, bracketed⟩ := ih
        exact ⟨inner, (bracketed_cons opening ..).mpr bracketed⟩

/-! ## Items -/

/-- The parts between the commas, without blanks around them.  Empty parts do not count. -/
def parts (inner : List Char) : List (List Char) :=
  ((inner.splitOn ',').map trim).filter (!·.isEmpty)

/-- Blanks around a list are blanks around its first and its last part. -/
theorem map_trim_splitAt_append {after : List Char} (blank' : ∀ c ∈ after, isBlank c = true)
    {before : List Char} (blank : ∀ c ∈ before, isBlank c = true) (s : List Char) :
    (splitAt ',' (before ++ (s ++ after))).map trim = (splitAt ',' s).map trim := by
  have comma : ∀ {gap : List Char}, (∀ c ∈ gap, isBlank c = true) → ',' ∉ gap := fun blank here =>
    absurd (blank ',' here) (by decide)
  by_cases here : ',' ∈ s
  · -- the blanks in front go to the first part, and those behind to the last part of the rest
    obtain ⟨front, rest, split, new⟩ := List.eq_append_cons_of_mem here
    have new' : ',' ∉ before ++ front := fun here => (List.mem_append.mp here).elim (comma blank) new
    have shorter : rest.length < s.length := by
      rw [split, List.length_append, List.length_cons]
      omega
    have later := map_trim_splitAt_append blank' (List.forall_mem_nil _) rest
    rw [List.nil_append] at later
    rw [split, List.append_assoc, List.cons_append, ← List.append_assoc, splitAt_append new',
      splitAt_append new, List.map_cons, List.map_cons, later, trim_append_left blank]
  · have new : ',' ∉ before ++ (s ++ after) := by
      simp only [List.mem_append, not_or]
      exact ⟨comma blank, here, comma blank'⟩
    rw [splitAt_of_notMem new, splitAt_of_notMem here, List.map_singleton, List.map_singleton,
      trim_append_left blank, trim_append_right blank']
termination_by s.length
decreasing_by exact shorter

theorem parts_trim (inner : List Char) : parts (trim inner) = parts inner := by
  obtain ⟨before, after, split, blank, blank'⟩ := exists_trim inner
  unfold parts
  rw [← splitAt_eq_splitOn, ← splitAt_eq_splitOn, ← map_trim_splitAt_append blank' blank (trim inner),
    ← split]

/-- An item without its quotes: the double ones first, and then the single ones. -/
def bare (item : List Char) : List Char := unwrap '\'' (unwrap '"' item)

theorem map_filterMap_pieces (ps : List (List Char)) :
    (ps.filterMap fun piece =>
      if (trim piece).isEmpty then none else some (String.ofList (bare (trim piece)))).map String.toList =
    ((ps.map trim).filter (!·.isEmpty)).map bare := by
  induction ps with
  | nil => rfl
  | cons p ps ih =>
      rw [List.filterMap_cons, List.map_cons, List.filter_cons]
      cases (trim p).isEmpty with
      | true => exact ih
      | false => exact congr (congrArg List.cons String.toList_ofList) ih

/-- A list holds the parts between its commas, without their quotes. -/
theorem bracketList_eq {value inner : List Char} (line : '\n' ∉ value) (bracketed : Bracketed value inner) :
    (bracketList value).map String.toList = (parts inner).map bare := by
  unfold bracketList
  rw [(bracketed?_eq_some_iff line inner).mpr bracketed, ← parts_trim]
  exact (map_filterMap_pieces _).trans (by rw [splitAt_eq_splitOn]; rfl)

theorem bracketList_of_not_paired {value : List Char} (line : '\n' ∉ value) (none : ¬ Paired value) :
    bracketList value = [] := by
  unfold bracketList
  cases found : bracketed? value with
  | none => rfl
  | some inner =>
      obtain ⟨front, back, split, -⟩ := (bracketed?_eq_some_iff line inner).mp found
      exact absurd ⟨front, inner, back, split⟩ none

/-! ## Layers of quotes -/

/-- The two quotes. -/
def quotes : List Char := ['"', '\'']

theorem mem_quotes_iff (mark : Char) : mark ∈ quotes ↔ mark = '"' ∨ mark = '\'' := List.mem_pair

/-- The item is the content between two quotes of a kind, and the content is not empty. -/
def Wraps (mark : Char) (content item : List Char) : Prop :=
  content ≠ [] ∧ item = mark :: (content ++ [mark])

theorem Wraps.unique {mark mark' : Char} {content content' item : List Char}
    (wraps : Wraps mark content item) (wraps' : Wraps mark' content' item) :
    mark = mark' ∧ content = content' := by
  obtain ⟨-, rfl⟩ := wraps
  obtain ⟨rfl, rest⟩ := List.cons.inj wraps'.2
  exact ⟨rfl, List.append_cancel_right rest⟩

theorem unwrap_cases (mark : Char) (item : List Char) :
    Wraps mark (unwrap mark item) item ∨
      (∀ content, ¬ Wraps mark content item) ∧ unwrap mark item = item := by
  unfold unwrap
  split
  next c d rest =>
    split
    next around =>
      obtain ⟨rfl, last, some⟩ := around
      refine .inl ⟨?_, congrArg (c :: ·) (List.dropLast_append_getLast? c last).symm⟩
      cases rest with
      | nil => cases some
      | cons e rest => exact List.cons_ne_nil _ _
    next other =>
      refine .inr ⟨?_, rfl⟩
      rintro content ⟨some, split⟩
      obtain ⟨rfl, behind⟩ := List.cons.inj split
      obtain ⟨e, content, rfl⟩ := List.exists_cons_of_ne_nil some
      obtain ⟨rfl, rfl⟩ := List.cons.inj behind
      exact other ⟨rfl, by rw [List.append_eq, ← List.cons_append, List.getLast?_concat], by simp⟩
  next short =>
    refine .inr ⟨?_, rfl⟩
    rintro content ⟨some, rfl⟩
    obtain ⟨e, content, rfl⟩ := List.exists_cons_of_ne_nil some
    exact short mark e (content ++ [mark]) rfl

/-- One layer of quotes is removed if there is one. -/
def Peels (item shown : List Char) : Prop :=
  (∃ mark ∈ quotes, Wraps mark shown item) ∨
    shown = item ∧ ∀ mark ∈ quotes, ∀ content, ¬ Wraps mark content item

/-- The item is the content in single quotes, and these stand in double quotes. -/
def Layered (item content : List Char) : Prop :=
  ∃ middle, Wraps '"' middle item ∧ Wraps '\'' content middle

/-- How an item is shown: without both layers if it is in single quotes that stand in double ones, and
otherwise without one layer. -/
def ShownAs (item shown : List Char) : Prop :=
  Layered item shown ∨ (∀ content, ¬ Layered item content) ∧ Peels item shown

theorem shownAs_bare (item : List Char) : ShownAs item (bare item) := by
  unfold bare
  rcases unwrap_cases '"' item with outer | ⟨noDouble, same⟩
  · rcases unwrap_cases '\'' (unwrap '"' item) with inner | ⟨noSingle, same⟩
    · exact .inl ⟨_, outer, inner⟩
    · rw [same]
      refine .inr ⟨?_, .inl ⟨'"', by decide, outer⟩⟩
      rintro content ⟨middle, outer', inner⟩
      rw [← (outer.unique outer').2] at inner
      exact noSingle content inner
  · rw [same]
    refine .inr ⟨fun content ⟨middle, outer, _⟩ => noDouble middle outer, ?_⟩
    rcases unwrap_cases '\'' item with single | ⟨noSingle, same'⟩
    · exact .inl ⟨'\'', by decide, single⟩
    · refine .inr ⟨same', fun mark kind => ?_⟩
      rcases (mem_quotes_iff mark).mp kind with rfl | rfl
      · exact noDouble
      · exact noSingle

theorem Layered.not_peels {item content : List Char} (layered : Layered item content) :
    ¬ Peels item content := by
  obtain ⟨middle, outer, inner⟩ := layered
  rintro (⟨mark, -, wraps⟩ | ⟨-, none⟩)
  · obtain ⟨-, rfl⟩ := outer.unique wraps
    have length := congrArg List.length inner.2
    rw [List.length_cons, List.length_append, List.length_singleton] at length
    omega
  · exact none '"' (by decide) middle outer

theorem Layered.take {item content : List Char} (layered : Layered item content) :
    item.take 2 = ['"', '\''] := by
  obtain ⟨middle, ⟨-, rfl⟩, ⟨-, rfl⟩⟩ := layered
  rfl

/-- One layer of quotes is removed of an item unless it loses two. -/
theorem peels_bare_iff (item : List Char) : Peels item (bare item) ↔ ∀ content, ¬ Layered item content := by
  rcases shownAs_bare item with layered | ⟨none, peels⟩
  · exact iff_of_false layered.not_peels fun none => none _ layered
  · exact iff_of_true peels none

/-- **What a list in brackets holds.**  It is empty if there are no brackets.  Otherwise its items are the
parts between the commas in the brackets, each as it is shown, so that one layer of quotes is removed of each
exactly if none is in single quotes that stand in double ones. -/
theorem bracketList_peels_iff {value : List Char} (line : '\n' ∉ value) :
    (¬ Paired value → bracketList value = []) ∧
      (Paired value → ∃ inner, Bracketed value inner) ∧
      ∀ inner, Bracketed value inner →
        List.Forall₂ ShownAs (parts inner) ((bracketList value).map String.toList) ∧
          (List.Forall₂ Peels (parts inner) ((bracketList value).map String.toList) ↔
            ∀ item ∈ parts inner, ∀ content, ¬ Layered item content) := by
  refine ⟨bracketList_of_not_paired line, Paired.exists_bracketed, fun inner bracketed => ?_⟩
  rw [bracketList_eq line bracketed, List.forall₂_map_right_iff, List.forall₂_map_right_iff,
    List.forall₂_same, List.forall₂_same]
  exact ⟨fun item _ => shownAs_bare item, forall₂_congr fun item _ => peels_bare_iff item⟩

/-- Items in quotes of both kinds, with an empty one between them. -/
def mixedItems : List Char := " \"A\" ,, '\"B\"' ".toList

theorem bracketList_peels_iff_mixedItems :
    '\n' ∉ '[' :: (mixedItems ++ [']']) ∧
      List.Forall₂ Peels (parts mixedItems)
        ((bracketList ('[' :: (mixedItems ++ [']']))).map String.toList) := by
  have line : '\n' ∉ '[' :: (mixedItems ++ [']']) := by decide
  have bracketed : Bracketed ('[' :: (mixedItems ++ [']'])) mixedItems :=
    ⟨[], [], rfl, List.not_mem_nil, List.not_mem_nil⟩
  have single : ∀ item ∈ parts mixedItems, item.take 2 ≠ ['"', '\''] := by decide
  obtain ⟨-, -, holds⟩ := bracketList_peels_iff line
  exact ⟨line, (holds _ bracketed).2.mpr fun item here content layered => single item here layered.take⟩

/-- An item in single quotes that stand in double ones. -/
def layeredItem : List Char := "\"'A'\"".toList

/-- Both layers are removed of the item, although one layer leaves the single quotes. -/
theorem not_peels_layeredItem :
    '\n' ∉ '[' :: (layeredItem ++ [']']) ∧ Bracketed ('[' :: (layeredItem ++ [']'])) layeredItem ∧
      List.Forall₂ Peels (parts layeredItem) ["'A'".toList] ∧
      bracketList ('[' :: (layeredItem ++ [']'])) = ["A"] ∧
      ¬ List.Forall₂ Peels (parts layeredItem) ["A".toList] := by
  have items : parts layeredItem = [layeredItem] := by decide
  have outer : Wraps '"' "'A'".toList layeredItem := ⟨by decide, rfl⟩
  have layered : Layered layeredItem "A".toList := ⟨_, outer, by decide, rfl⟩
  refine ⟨by decide, ⟨[], [], rfl, List.not_mem_nil, List.not_mem_nil⟩, ?_, by decide, ?_⟩
  · rw [items]
    exact .cons (.inl ⟨'"', by decide, outer⟩) .nil
  · rw [items, List.forall₂_cons]
    exact fun both => layered.not_peels both.1

/-! ## Scalars -/

/-- What a scalar says: the text without the blanks around it, and nothing if it is blank. -/
def scalar (x : List Char) : Option String :=
  if (trim x).isEmpty then none else some (String.ofList (trim x))

/-- A text in quotes of a kind. -/
def inQuotes (mark : Char) (x : List Char) : List Char := mark :: (x ++ [mark])

theorem scalar_trim (x : List Char) : scalar (trim x) = scalar x := by
  unfold scalar
  rw [trim_trim]

theorem quotedOrBare_eq (value : List Char) :
    quotedOrBare value =
      scalar (((unquote '"' (trim value)).orElse fun _ => unquote '\'' (trim value)).getD (trim value)) :=
  rfl

theorem quotedOrBare_congr {value value' : List Char} (same : trim value = trim value') :
    quotedOrBare value = quotedOrBare value' := by
  rw [quotedOrBare_eq, quotedOrBare_eq, same]

theorem unquote_of_head? {mark : Char} {s : List Char} (other : s.head? ≠ some mark) :
    unquote mark s = none := by
  cases s with
  | nil => rfl
  | cons c s => exact if_neg fun same => other (congrArg some same)

theorem unquote_inQuotes {mark : Char} {x : List Char} (plain : mark ∉ x) :
    unquote mark (inQuotes mark x) = if x.isEmpty then none else some x := by
  rw [inQuotes, unquote, if_pos rfl, cutFirst?_append plain]

theorem trimmed_inQuotes {mark : Char} (kind : mark ∈ quotes) (x : List Char) :
    Trimmed (inQuotes mark x) := by
  have solid : isBlank mark = false := by
    rcases (mem_quotes_iff mark).mp kind with rfl | rfl
    · decide
    · decide
  refine ⟨?_, ?_⟩
  · simp [inQuotes, solid]
  · rw [inQuotes, ← List.cons_append, List.getLast?_concat]
    simp [solid]

theorem quotedOrBare_of_notMem {x : List Char} (plain : ∀ mark ∈ quotes, mark ∉ x) :
    quotedOrBare x = scalar x := by
  have first : ∀ mark ∈ quotes, (trim x).head? ≠ some mark := fun mark kind here =>
    plain mark kind (trim_subset x (List.mem_of_head? here))
  rw [quotedOrBare_eq, unquote_of_head? (first '"' (by decide)), unquote_of_head? (first '\'' (by decide))]
  exact scalar_trim x

/-- Quotes with something between them are removed; two quotes with nothing between them stay. -/
theorem quotedOrBare_inQuotes {mark : Char} (kind : mark ∈ quotes) {x : List Char} (plain : mark ∉ x) :
    quotedOrBare (inQuotes mark x) = if x.isEmpty then some (String.ofList [mark, mark]) else scalar x := by
  have chosen : ((unquote '"' (inQuotes mark x)).orElse fun _ => unquote '\'' (inQuotes mark x)) =
      if x.isEmpty then none else some x := by
    rcases (mem_quotes_iff mark).mp kind with rfl | rfl
    · rw [unquote_inQuotes plain, unquote_of_head? (by simp [inQuotes])]
      cases x <;> rfl
    · rw [unquote_inQuotes plain, unquote_of_head? (by simp [inQuotes])]
      rfl
  have kept : scalar [mark, mark] = some (String.ofList [mark, mark]) := by
    rcases (mem_quotes_iff mark).mp kind with rfl | rfl
    · decide
    · decide
  rw [quotedOrBare_eq, trim_of_trimmed (trimmed_inQuotes kind x), chosen]
  cases x with
  | nil => exact kept
  | cons c x => rfl

theorem quotedOrBare_inQuotes_eq_scalar_iff {mark : Char} (kind : mark ∈ quotes) {x : List Char}
    (plain : mark ∉ x) : quotedOrBare (inQuotes mark x) = scalar x ↔ x ≠ [] := by
  rw [quotedOrBare_inQuotes kind plain]
  cases x with
  | nil => exact iff_of_false nofun fun some => some rfl
  | cons c x => exact iff_of_true rfl (List.cons_ne_nil c x)

/-! ## Blanks around values -/

theorem trim_pad {before after : List Char} (blank : ∀ c ∈ before, isBlank c = true)
    (blank' : ∀ c ∈ after, isBlank c = true) (s : List Char) : trim (before ++ (s ++ after)) = trim s := by
  rw [trim_append_left blank, trim_append_right blank']

theorem trim_skipAsciiBlanks (s : List Char) : trim (skipAsciiBlanks s) = trim s := by
  have blank : ∀ c ∈ s.takeWhile isAsciiBlank, isBlank c = true := fun c here =>
    isBlank_of_isAsciiBlank (List.all_eq_true.mp List.all_takeWhile c here)
  rw [← trim_append_left blank, skipAsciiBlanks, List.takeWhile_append_dropWhile]

theorem trim_eq_nil_iff (s : List Char) : trim s = [] ↔ ∀ c ∈ s, isBlank c = true := by
  constructor
  · intro empty c here
    obtain ⟨before, after, split, blank, blank'⟩ := exists_trim s
    rw [split, empty, List.nil_append] at here
    exact (List.mem_append.mp here).elim (blank c) (blank' c)
  · intro blank
    have only := trim_append_left blank []
    rwa [List.append_nil] at only

theorem trimEnd_append {s : List Char} (some : trimEnd s ≠ []) (front : List Char) :
    trimEnd (front ++ s) = front ++ trimEnd s := by
  unfold trimEnd at some ⊢
  rw [List.reverse_append, List.dropWhile_append, if_neg, List.reverse_append, List.reverse_reverse]
  exact fun empty => some (List.reverse_eq_nil_iff.mpr (List.isEmpty_iff.mp empty))

/-! ## The capability that a validation requires -/

/-- A line that gives the capability that a validation requires. -/
def requirement (gap value : List Char) : List Char :=
  "requires_capability".toList ++ (gap ++ ':' :: value)

/-- The blanks behind a value are behind its line. -/
theorem trim_requirement (gap value : List Char) :
    trim (requirement gap value) = requirement gap (trimEnd value) := by
  have colon : trimEnd (':' :: value) = ':' :: trimEnd value := by
    rw [← trim_cons (by decide)]
    rfl
  have rest := trimEnd_append (s := ':' :: value) (by rw [colon]; exact List.cons_ne_nil _ _)
    ("equires_capability".toList ++ gap)
  rw [colon, List.append_assoc, List.append_assoc] at rest
  exact (trim_cons (by decide) _).trans (congrArg ('r' :: ·) rest)

theorem labelled?_requirement {gap : List Char} (blank : ∀ c ∈ gap, isAsciiBlank c = true)
    (value : List Char) :
    labelled? "requires_capability" (requirement gap value) =
      if (skipAsciiBlanks value).isEmpty then none else some (skipAsciiBlanks value) := by
  unfold labelled? requirement
  rw [dropWord?_append, Option.bind_eq_bind, Option.bind_some,
    (skipAsciiBlanks_eq_cons_iff (by decide) _ _).mpr ⟨gap, blank, rfl⟩]
  rfl

/-- A line without a value gives no capability, and any other one gives what its value says. -/
theorem require_requirement (v : Validation) {gap : List Char} (blank : ∀ c ∈ gap, isAsciiBlank c = true)
    (value : List Char) :
    v.require (trim (requirement gap value)) =
      if (trim value).isEmpty then v else { v with requires := quotedOrBare value } := by
  have same : trim (skipAsciiBlanks (trimEnd value)) = trim value := by
    rw [trim_skipAsciiBlanks, trim_trimEnd]
  have gone : trim value = [] → trimEnd value = [] := fun none => by
    rw [trimEnd, List.reverse_eq_nil_iff, List.dropWhile_eq_nil_iff]
    exact fun c here => (trim_eq_nil_iff value).mp none c (List.mem_reverse.mp here)
  have empty : (skipAsciiBlanks (trimEnd value)).isEmpty = (trim value).isEmpty := by
    rw [Bool.eq_iff_iff, List.isEmpty_iff, List.isEmpty_iff]
    exact ⟨fun none => by rw [← same, none]; rfl, fun none => by rw [gone none]; rfl⟩
  unfold Validation.require
  rw [trim_requirement, labelled?_requirement blank, empty, ← quotedOrBare_congr same]
  cases (trim value).isEmpty <;> rfl

/-- **A scalar says the same bare and in quotes of either kind, unless the quotes are empty.**  It is what
stands there without the blanks around it, and a blank one gives no capability.  Two quotes with nothing
between them are taken for a name. -/
theorem quotedOrBare_alike_iff {before x after : List Char} (blank : ∀ c ∈ before, isBlank c = true)
    (blank' : ∀ c ∈ after, isBlank c = true) (plain : ∀ mark ∈ quotes, mark ∉ x) :
    (quotedOrBare (before ++ (x ++ after)) = scalar x ∧
      ∀ mark ∈ quotes,
        (quotedOrBare (before ++ (inQuotes mark x ++ after)) = scalar x ↔ x ≠ []) ∧
          (x = [] →
            quotedOrBare (before ++ (inQuotes mark x ++ after)) = some (String.ofList [mark, mark]))) ∧
      ∀ (v : Validation) (gap : List Char), (∀ c ∈ gap, isAsciiBlank c = true) →
        v.require (trim (requirement gap (before ++ (x ++ after)))) =
            (if (trim x).isEmpty then v else { v with requires := scalar x }) ∧
          ∀ mark ∈ quotes,
            ((v.require (trim (requirement gap (before ++ (inQuotes mark x ++ after))))).requires = scalar x ↔
              x ≠ []) := by
  have asBare : quotedOrBare (before ++ (x ++ after)) = scalar x := by
    rw [quotedOrBare_congr (trim_pad blank blank' x), quotedOrBare_of_notMem plain]
  have unpadded : ∀ mark,
      quotedOrBare (before ++ (inQuotes mark x ++ after)) = quotedOrBare (inQuotes mark x) :=
    fun mark => quotedOrBare_congr (trim_pad blank blank' _)
  have alike : ∀ mark ∈ quotes, quotedOrBare (before ++ (inQuotes mark x ++ after)) = scalar x ↔ x ≠ [] :=
    fun mark kind => unpadded mark ▸ quotedOrBare_inQuotes_eq_scalar_iff kind (plain mark kind)
  refine ⟨⟨asBare, fun mark kind => ⟨alike mark kind, ?_⟩⟩, fun v gap blank'' => ⟨?_, fun mark kind => ?_⟩⟩
  · rintro rfl
    rw [unpadded, quotedOrBare_inQuotes kind List.not_mem_nil]
    rfl
  · rw [require_requirement v blank'', trim_pad blank blank', asBare]
  · have given : (trim (before ++ (inQuotes mark x ++ after))).isEmpty = false := by
      rw [trim_pad blank blank', trim_of_trimmed (trimmed_inQuotes kind x)]
      rfl
    rw [require_requirement v blank'', given, ← alike mark kind]
    exact Iff.rfl

/-- A name in quotes, with blanks on both sides of them. -/
theorem quotedOrBare_alike_iff_padded :
    (∀ c ∈ "  ".toList, isBlank c = true) ∧ (∀ c ∈ "\t".toList, isBlank c = true) ∧
      (∀ mark ∈ quotes, mark ∉ " check_http ".toList) ∧
      quotedOrBare "  ' check_http '\t".toList = quotedOrBare "   check_http \t".toList := by
  have blank : ∀ c ∈ "  ".toList, isBlank c = true := List.all_eq_true.mp (by decide)
  have blank' : ∀ c ∈ "\t".toList, isBlank c = true := List.all_eq_true.mp (by decide)
  have plain : ∀ mark ∈ quotes, mark ∉ " check_http ".toList := fun mark kind => by
    rcases (mem_quotes_iff mark).mp kind with rfl | rfl
    · decide
    · decide
  obtain ⟨⟨asBare, quoted⟩, -⟩ := quotedOrBare_alike_iff blank blank' plain
  exact ⟨blank, blank', plain, ((quoted '\'' (by decide)).1.mpr (by decide)).trans asBare.symm⟩

/-- Empty quotes do not say the same as nothing: a validation requires a capability of which they are the
name. -/
theorem not_alike_emptyQuotes :
    quotedOrBare [] = none ∧ scalar [] = none ∧
      ∀ mark ∈ quotes, quotedOrBare (inQuotes mark []) = some (String.ofList [mark, mark]) ∧
        (({ id := "V" } : Validation).require (trim (requirement [] (inQuotes mark [])))).requires =
          some (String.ofList [mark, mark]) := by
  refine ⟨by decide, by decide, fun mark kind => ?_⟩
  rcases (mem_quotes_iff mark).mp kind with rfl | rfl
  · decide
  · decide

end IntentSpec.Document
