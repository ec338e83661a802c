import IntentSpec.Proofs.Document.Agreement
import IntentSpec.Proofs.Document.Comment

/-!
# Line endings and byte-order marks

Editors write the same document with different line endings, and some put a byte-order mark in front
of it.  A document without carriage returns and byte-order marks can take both on (`marked`).  Its lines
are the same but for the mark in front of the first, which only the header looks at, and which it drops.

The mark is no blank, so trimming does not remove it, and on the first line it stands in front of
whatever is written there.  It does no harm, because nothing but the version is looked for at the front
of that line: the level counts braces wherever they are, and the opening of the system is searched for
in the whole line.  A document that has carriage returns already is left out, as a line feed behind one
would otherwise get a second one.

* `lines_marked` — the lines of such a document.
* `significant_mark` — the header drops the mark.
* `parse_marked` — the document is read as the one without mark and carriage returns.
-/

namespace IntentSpec.Document

open Text

/-! ## Line endings -/

/-- A character with a carriage return in front of it if it is a line feed. -/
def returned (c : Char) : List Char := if c = '\n' then ['\r', '\n'] else [c]

/-- A text with a carriage return in front of every line feed. -/
def withReturns (s : List Char) : List Char := s.flatMap returned

/-- A document with a byte-order mark in front of it and a carriage return in front of every line
feed. -/
def marked (text : String) : String := String.ofList ('\ufeff' :: withReturns text.toList)

theorem withReturns_feed (s : List Char) :
    withReturns ('\n' :: s) = '\r' :: '\n' :: withReturns s := rfl

theorem withReturns_cons {c : Char} (other : c ≠ '\n') (s : List Char) :
    withReturns (c :: s) = c :: withReturns s := by
  rw [withReturns, List.flatMap_cons, returned, if_neg other]
  rfl

theorem lines_withReturns {s : List Char} (returns : '\r' ∉ s) :
    lines (withReturns s) = lines s := by
  induction s with
  | nil => rfl
  | cons c s ih =>
      obtain ⟨other, returns⟩ := List.ne_and_not_mem_of_not_mem_cons returns
      by_cases feed : c = '\n'
      · rw [feed, withReturns_feed, lines_pair rfl, lines_feed, lines_feed, ih returns]
      · rw [withReturns_cons feed, lines_plain feed fun pair => other pair.1.symm,
          lines_plain feed fun pair => other pair.1.symm, ih returns]

/-- **Only the first line shows the mark.** All other lines are the same, as the carriage returns
belong to the line breaks. -/
theorem lines_marked {text : String} (returns : '\r' ∉ text.toList) {first : List Char}
    {ls : List (List Char)} (here : lines text.toList = first :: ls) :
    lines (marked text).toList = ('\ufeff' :: first) :: ls := by
  rw [marked, String.toList_ofList, lines_plain (by decide) (by simp), lines_withReturns returns,
    here]
  rfl

/-! ## The mark in front of a line -/

/-- In front of a character that is no blank nothing is trimmed away. -/
theorem trim_cons {c : Char} (solid : isBlank c = false) (s : List Char) :
    trim (c :: s) = c :: trimEnd s := by
  unfold trim trimEnd trimStart
  rw [List.dropWhile_cons_of_neg (by simp [solid]), List.reverse_cons, List.dropWhile_append]
  split
  next nothing =>
    rw [List.isEmpty_iff.mp nothing, List.dropWhile_cons_of_neg (by simp [solid])]
    rfl
  next => rw [List.reverse_append, List.reverse_singleton, List.singleton_append]

theorem trim_trimEnd (s : List Char) : trim (trimEnd s) = trim s := by
  have blank : ∀ c ∈ (s.reverse.takeWhile isBlank).reverse, isBlank c = true := fun c here =>
    List.all_eq_true.mp List.all_takeWhile c (List.mem_reverse.mp here)
  have split : trimEnd s ++ (s.reverse.takeWhile isBlank).reverse = s := by
    rw [trimEnd, ← List.reverse_append, List.takeWhile_append_dropWhile, List.reverse_reverse]
  rw [← trim_append_right blank, split]

theorem trimEnd_subset (s : List Char) : trimEnd s ⊆ s := fun _ here =>
  List.mem_reverse.mp ((List.dropWhile_sublist _).subset (List.mem_reverse.mp here))

theorem trim_subset (s : List Char) : trim s ⊆ s := fun _ here =>
  (List.dropWhile_sublist _).subset (trimEnd_subset _ here)

/-- A text without marks loses none. -/
theorem dropWhile_of_notMem {s : List Char} (mark : '\ufeff' ∉ s) :
    s.dropWhile (· == '\ufeff') = s :=
  dropWhile_of_head? <| by
    cases s with
    | nil => rfl
    | cons c s => simpa using (List.ne_of_not_mem_cons mark).symm

section Mark

variable {first : List Char}

theorem balance_mark (first : List Char) :
    balance (stripComment ('\ufeff' :: first)) = balance (stripComment first) := by
  rw [stripComment_cons (by decide)]
  exact (balance_append ['\ufeff'] (stripComment first)).trans (Int.zero_add _)

theorem systemName?_mark (first : List Char) :
    systemName? false (stripComment ('\ufeff' :: first)) =
      systemName? false (stripComment first) := by
  rw [stripComment_cons (by decide)]
  rfl

/-- The header drops the mark. -/
theorem significant_mark (mark : '\ufeff' ∉ first) :
    significant ('\ufeff' :: first) = significant first := by
  have stripped : '\ufeff' ∉ stripComment first := fun here =>
    mark ((List.takeWhile_prefix _).subset here)
  have ended : '\ufeff' ∉ trimEnd (stripComment first) := fun here =>
    stripped (trimEnd_subset _ here)
  have trimmed : '\ufeff' ∉ trim (stripComment first) := fun here => stripped (trim_subset _ here)
  unfold significant
  rw [stripComment_cons (by decide), trim_cons (by decide), List.dropWhile_cons_of_pos rfl,
    dropWhile_of_notMem ended, dropWhile_of_notMem trimmed, trim_trimEnd, trim_trim]

end Mark

/-! ## Documents with marks -/

theorem segments_mark (first : List Char) (ls : List (List Char)) :
    segments (('\ufeff' :: first) :: ls) = segments (first :: ls) := by
  rw [segments_cons, segments_cons, opensSystem, opensSystem, systemName?_mark, balance_mark]

/-- **A document with a mark and with carriage returns is read as the document itself.** -/
theorem parse_marked {text : String} (returns : '\r' ∉ text.toList) (mark : '\ufeff' ∉ text.toList) :
    Spec.parse (marked text) = { Spec.parse text with text := marked text } := by
  obtain ⟨first, ls, here⟩ := exists_lines_eq_cons text.toList
  have here' := lines_marked returns here
  have plain : '\ufeff' ∉ first := fun inside =>
    mark (mem_of_mem_lines (here ▸ List.mem_cons_self) inside)
  have line : headerLine? 1 (lines (marked text).toList) = headerLine? 1 (lines text.toList) := by
    rw [here, here', headerLine?, headerLine?, significant_mark plain]
  have system : firstSystem? (lines (marked text).toList) = firstSystem? (lines text.toList) := by
    rw [here, here', firstSystem?, firstSystem?, List.findSome?_cons, List.findSome?_cons,
      systemName?_mark]
  rw [parse_eq, parse_eq text, fullHeader_congr line system, here, here', segments_mark]
  rfl

end IntentSpec.Document
