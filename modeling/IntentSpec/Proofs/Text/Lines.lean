import IntentSpec.Proofs.Text.Pieces

/-!
# Lines, line boundaries and words

A document is cut into lines at its line feeds, and the raw text of a section, which is put together from
such lines, is cut again at every line boundary.  The second cut gives back the lines of the first if a
document has no line boundaries but line feeds, with or without a carriage return.

A text is a run of blanks, a word, a run of blanks, and so on.  Whatever the blanks are and however many
of them stand together, the words are what stands between them.

* `lines_append` — behind a line feed the lines begin anew.
* `BrokenAtFeeds` — texts without other line boundaries.
* `paragraphs_flatMap` — lines that are put together are cut as before.
* `words_append_of_blank`, `words_append_of_solid` — blanks and words at the front.
-/

namespace IntentSpec.Text

/-! ## The lines of a document -/

theorem lines_feed (s : List Char) : lines ('\n' :: s) = [] :: lines s := rfl

theorem lines_pair {s : List Char} (feed : s.head? = some '\n') : lines ('\r' :: s) = lines s := by
  rw [lines, if_neg (by decide), if_pos ⟨rfl, feed⟩]

theorem lines_plain {c : Char} {s : List Char} (feed : c ≠ '\n')
    (pair : ¬(c = '\r' ∧ s.head? = some '\n')) : lines (c :: s) = prepend c (lines s) := by
  rw [lines, if_neg feed, if_neg pair]

theorem exists_lines_eq_cons (s : List Char) : ∃ line ls, lines s = line :: ls := by
  induction s with
  | nil => exact ⟨[], [], rfl⟩
  | cons c s ih =>
      obtain ⟨line, ls, first⟩ := ih
      unfold lines
      rw [first]
      split
      · exact ⟨_, _, rfl⟩
      · split
        · exact ⟨_, _, rfl⟩
        · exact ⟨_, _, rfl⟩

/-- The characters of the lines are characters of the text. -/
theorem mem_of_mem_lines {s line : List Char} {d : Char} (here : line ∈ lines s)
    (inside : d ∈ line) : d ∈ s := by
  induction s generalizing line with
  | nil =>
      obtain rfl := List.mem_singleton.mp here
      exact inside
  | cons c s ih =>
      unfold lines at here
      split at here
      · rcases List.mem_cons.mp here with rfl | later
        · cases inside
        · exact List.mem_cons_of_mem _ (ih later inside)
      · split at here
        · exact List.mem_cons_of_mem _ (ih here inside)
        · rcases mem_of_mem_prepend here inside with rfl | ⟨line, later, inside⟩
          · exact List.mem_cons_self
          · exact List.mem_cons_of_mem _ (ih later inside)

/-- A text begins with its first line. -/
theorem prefix_of_lines {s line : List Char} {ls : List (List Char)} (first : lines s = line :: ls) :
    line <+: s := by
  induction s generalizing line ls with
  | nil =>
      obtain ⟨rfl, -⟩ := List.cons.inj first
      exact List.prefix_rfl
  | cons c s ih =>
      by_cases feed : c = '\n'
      · rw [feed, lines_feed] at first
        obtain ⟨rfl, -⟩ := List.cons.inj first
        exact List.nil_prefix
      · by_cases pair : c = '\r' ∧ s.head? = some '\n'
        · obtain ⟨rest, rfl⟩ := List.head?_eq_some_iff.mp pair.2
          rw [pair.1, lines_pair rfl, lines_feed] at first
          obtain ⟨rfl, -⟩ := List.cons.inj first
          exact List.nil_prefix
        · obtain ⟨line', ls', here⟩ := exists_lines_eq_cons s
          rw [lines_plain feed pair, here] at first
          obtain ⟨rfl, -⟩ := List.cons.inj first
          exact List.cons_prefix_cons.mpr ⟨rfl, ih here⟩

/-- The lines of a text that are ended by a line feed: all but the last. -/
def endedLines (s : List Char) : List (List Char) := (lines s).dropLast

theorem exists_lines_append {s : List Char} (feed : s.getLast? = some '\n') :
    ∃ first ls, ∀ t, lines (s ++ t) = first :: (ls ++ lines t) := by
  induction s with
  | nil => cases feed
  | cons c s ih =>
      cases s with
      | nil =>
          obtain rfl : c = '\n' := by simpa using feed
          exact ⟨[], [], fun t => rfl⟩
      | cons d s =>
          obtain ⟨first, ls, cut⟩ := ih (by rwa [List.getLast?_cons_cons] at feed)
          have head : ∀ t, (d :: s ++ t).head? = (d :: s).head? := fun t => rfl
          by_cases feed : c = '\n'
          · exact ⟨[], first :: ls, fun t => by rw [List.cons_append, feed, lines_feed, cut]; rfl⟩
          · by_cases pair : c = '\r' ∧ (d :: s).head? = some '\n'
            · refine ⟨first, ls, fun t => ?_⟩
              rw [List.cons_append, pair.1, lines_pair ((head t).trans pair.2), cut]
            · refine ⟨c :: first, ls, fun t => ?_⟩
              rw [List.cons_append, lines_plain feed (by rwa [head]), cut]
              rfl

/-- **Behind a line feed the lines begin anew.** A text can so be cut at any of its line feeds
without a change to its lines. -/
theorem lines_append {s : List Char} (feed : s.getLast? = some '\n') (t : List Char) :
    lines (s ++ t) = endedLines s ++ lines t := by
  obtain ⟨first, ls, cut⟩ := exists_lines_append feed
  have alone : lines s = (first :: ls) ++ [[]] := by
    have cut := cut []
    rwa [List.append_nil] at cut
  rw [endedLines, alone, List.dropLast_concat, cut, List.cons_append]

/-! ## Line boundaries -/

/-- All line boundaries are line feeds, or carriage returns right before one. -/
def BrokenAtFeeds (s : List Char) : Prop :=
  ∀ before c after, s = before ++ c :: after → isLineBoundary c = true →
    c = '\n' ∨ (c = '\r' ∧ after.head? = some '\n')

/-- A line has no line boundary in it. -/
def Unbroken (line : List Char) : Prop := ∀ c ∈ line, isLineBoundary c = false

theorem brokenAtFeeds_nil : BrokenAtFeeds [] := by
  intro before c after split
  simp at split

theorem brokenAtFeeds_cons (c : Char) (s : List Char) :
    BrokenAtFeeds (c :: s) ↔
      (isLineBoundary c = true → c = '\n' ∨ (c = '\r' ∧ s.head? = some '\n')) ∧ BrokenAtFeeds s := by
  constructor
  · intro broken
    refine ⟨broken [] c s rfl, fun before d after split => ?_⟩
    exact broken (c :: before) d after (by rw [split, List.cons_append])
  · rintro ⟨first, rest⟩ before d after split
    cases before with
    | nil =>
        obtain ⟨rfl, rfl⟩ := List.cons.inj split
        exact first
    | cons b before => exact rest before d after (List.cons.inj split).2

instance decidableBrokenAtFeeds : (s : List Char) → Decidable (BrokenAtFeeds s)
  | [] => isTrue brokenAtFeeds_nil
  | c :: s =>
    have := decidableBrokenAtFeeds s
    decidable_of_iff' _ (brokenAtFeeds_cons c s)

theorem unbroken_of_mem_prepend {c : Char} (inside : isLineBoundary c = false)
    {ls : List (List Char)} (unbroken : ∀ line ∈ ls, Unbroken line) :
    ∀ line ∈ prepend c ls, Unbroken line := by
  intro line here d among
  rcases mem_of_mem_prepend here among with rfl | ⟨line, here, among⟩
  · exact inside
  · exact unbroken line here d among

/-- The lines of such a text have no line boundaries in them. -/
theorem unbroken_of_mem_lines {s : List Char} (broken : BrokenAtFeeds s) :
    ∀ line ∈ lines s, Unbroken line := by
  induction s with
  | nil => simp [lines, Unbroken]
  | cons c s ih =>
      obtain ⟨first, rest⟩ := (brokenAtFeeds_cons c s).mp broken
      unfold lines
      split
      next feed => exact List.forall_mem_cons.mpr ⟨by simp [Unbroken], ih rest⟩
      next noFeed =>
        split
        next pair => exact ih rest
        next alone =>
          have inside : isLineBoundary c = false :=
            Bool.eq_false_iff.mpr fun boundary => (first boundary).elim noFeed alone
          exact unbroken_of_mem_prepend inside (ih rest)

/-- A line that has no line boundary in it ends at the line feed behind it. -/
theorem paragraphs_append {line : List Char} (unbroken : Unbroken line) (s : List Char) :
    paragraphs (line ++ '\n' :: s) = line :: paragraphs s := by
  induction line with
  | nil => rfl
  | cons c line ih =>
      obtain ⟨inside, rest⟩ := List.forall_mem_cons.mp unbroken
      have noReturn : c ≠ '\r' := by
        rintro rfl
        exact absurd inside (by decide)
      rw [List.cons_append, paragraphs, if_neg fun pair => noReturn pair.1, if_neg (by simp [inside]),
        ih rest]
      rfl

/-- **Lines without line boundaries are cut as they were put together.** -/
theorem paragraphs_flatMap {ls : List (List Char)} (unbroken : ∀ line ∈ ls, Unbroken line) :
    paragraphs (ls.flatMap (· ++ ['\n'])) = ls := by
  induction ls with
  | nil => rfl
  | cons line ls ih =>
      obtain ⟨first, rest⟩ := List.forall_mem_cons.mp unbroken
      rw [List.flatMap_cons, List.append_assoc, List.singleton_append, paragraphs_append first, ih rest]

/-! ## Pieces between line boundaries -/

theorem filter_eq_head_append_tail (pieces : List (List Char)) :
    pieces.filter (!·.isEmpty) =
      [pieces.headD []].filter (!·.isEmpty) ++ pieces.tail.filter (!·.isEmpty) := by
  cases pieces with
  | nil => rfl
  | cons piece pieces => exact List.filter_append [piece] pieces

/-- The first piece is the same, and so are all others that are not empty. -/
theorem paragraphs_splitOnP (s : List Char) :
    (paragraphs s).headD [] = (s.splitOnP isLineBoundary).headD [] ∧
      (paragraphs s).tail.filter (!·.isEmpty) =
        (s.splitOnP isLineBoundary).tail.filter (!·.isEmpty) := by
  induction s with
  | nil => exact ⟨rfl, rfl⟩
  | cons c s ih =>
      obtain ⟨head, tail⟩ := ih
      have pieces : (paragraphs s).filter (!·.isEmpty) =
          (s.splitOnP isLineBoundary).filter (!·.isEmpty) := by
        rw [filter_eq_head_append_tail, head, tail, ← filter_eq_head_append_tail]
      rw [paragraphs, List.splitOnP_cons_eq_if_modifyHead]
      by_cases pair : c = '\r' ∧ s.head? = some '\n'
      · -- the line feed ends the line, and the carriage return leaves an empty piece
        obtain ⟨rfl, feed⟩ := pair
        obtain ⟨s, rfl⟩ := List.head?_eq_some_iff.mp feed
        rw [if_pos ⟨rfl, rfl⟩, if_pos (by decide)]
        exact ⟨rfl, pieces⟩
      · rw [if_neg pair]
        by_cases boundary : isLineBoundary c = true
        · rw [if_pos boundary, if_pos boundary]
          exact ⟨rfl, pieces⟩
        · rw [if_neg boundary, if_neg boundary]
          obtain ⟨first, rest, split⟩ := List.exists_cons_of_ne_nil
            (List.splitOnP_ne_nil isLineBoundary s)
          rw [split] at head tail ⊢
          cases line : paragraphs s with
          | nil =>
              rw [line] at head tail
              exact ⟨congrArg (c :: ·) head, tail⟩
          | cons _ _ =>
              rw [line] at head tail
              exact ⟨congrArg (c :: ·) head, tail⟩

/-- **The lines of a text under every line boundary are the pieces between its line boundaries**, as
far as they are not empty. -/
theorem filter_paragraphs (s : List Char) :
    (paragraphs s).filter (!·.isEmpty) = (s.splitOnP isLineBoundary).filter (!·.isEmpty) := by
  obtain ⟨head, tail⟩ := paragraphs_splitOnP s
  rw [filter_eq_head_append_tail, head, tail, ← filter_eq_head_append_tail]

/-- Lines that are put together have the pieces of the lines, and an empty one at the end. -/
theorem splitOnP_flatMap (ls : List (List Char)) :
    (ls.flatMap (· ++ ['\n'])).splitOnP isLineBoundary =
      ls.flatMap (·.splitOnP isLineBoundary) ++ [[]] := by
  induction ls with
  | nil => exact List.splitOnP_nil
  | cons line ls ih =>
      rw [List.flatMap_cons, List.append_assoc, List.singleton_append,
        List.splitOnP_append_cons line _ (by decide), ih, List.flatMap_cons, List.append_assoc]

/-! ## Words -/

theorem solid_of_any {s : List Char} (none : s.any isBlank = false) : ∀ c ∈ s, isBlank c = false := by
  simpa using none

/-- Leading blanks belong to no word. -/
theorem words_append_of_blank {gap : List Char} (blank : ∀ c ∈ gap, isBlank c = true)
    (rest : List Char) : words (gap ++ rest) = words rest := by
  induction gap with
  | nil => rfl
  | cons c gap ih =>
      obtain ⟨first, others⟩ := List.forall_mem_cons.mp blank
      rw [List.cons_append, words, if_pos first, ih others]

theorem words_of_blank {gap : List Char} (blank : ∀ c ∈ gap, isBlank c = true) : words gap = [] := by
  have alone := words_append_of_blank blank []
  rwa [List.append_nil] at alone

/-- Characters that are not blank, up to a blank or the end of the text, are one word. -/
theorem words_append_of_solid {word rest : List Char} (given : word ≠ [])
    (solid : ∀ c ∈ word, isBlank c = false) (ends : rest.head?.all isBlank = true) :
    words (word ++ rest) = word :: words rest := by
  induction word with
  | nil => exact absurd rfl given
  | cons c word ih =>
      obtain ⟨first, others⟩ := List.forall_mem_cons.mp solid
      have inside : ¬ isBlank c = true := by simp [first]
      rw [List.cons_append, words, if_neg inside]
      cases word with
      | nil => rw [List.nil_append, if_pos ends]
      | cons d word =>
          have goesOn : ¬ (d :: word ++ rest).head?.all isBlank = true := by
            simp [others d List.mem_cons_self]
          rw [if_neg goesOn, ih (List.cons_ne_nil d word) others, prepend]

end IntentSpec.Text
