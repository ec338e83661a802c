import IntentSpec.Predicate.Plan
import IntentSpec.Proofs.Document.Agreement
import IntentSpec.Proofs.Document.Opening
import IntentSpec.Proofs.Text.Lines
import Mathlib.Data.List.TakeWhile

/-!
# Comments

A comment goes from a number sign to the end of its line.  Every pass over a document strips comments
before it counts a brace or looks for a keyword, so that a document without its comments is read as the
document itself.

Deleting a comment can join what it separated: a carriage return in front of the number sign comes to
stand before the line feed, and the two are one line break.  So the lines without comments are the
lines of the document without comments but for such a carriage return at their end (`Bared`), which no
pass can see, because it is a blank.

Only the raw texts of the sections are different, as they hold the comments.  They are what the rules
rescan, and there a comment may matter; the parse itself, the extraction of predicates and the plan of
the checks are the same.

* `uncommented` — a document without its comments.
* `lines_uncommented` — its lines are the lines of the document without their comments.
* `parse_uncommented` — it is read as the document.
-/

namespace IntentSpec.Document

open Text

/-! ## Deleting comments -/

/-- A text without its comments, where `inside` says whether the text begins within one.  The line
break behind a comment stays. -/
def dropComments (inside : Bool) : List Char → List Char
  | [] => []
  | c :: s =>
    if c = '\n' then c :: dropComments false s
    else if c = '\r' ∧ s.head? = some '\n' then c :: dropComments inside s
    else if inside || c == '#' then dropComments true s
    else c :: dropComments false s

/-- A document without its comments. -/
def uncommented (text : String) : String := String.ofList (dropComments false text.toList)

/-- What is left of a line when comments are deleted.  A carriage return in front of a comment becomes
part of the line break behind it. -/
def Bared (raw raw' : List Char) : Prop :=
  raw' = stripComment raw ∨ raw' ++ ['\r'] = stripComment raw

theorem stripComment_number (line : List Char) : stripComment ('#' :: line) = [] := rfl

theorem stripComment_cons {c : Char} (other : c ≠ '#') (line : List Char) :
    stripComment (c :: line) = c :: stripComment line :=
  List.takeWhile_cons_of_pos (by simpa using other)

theorem notMem_stripComment (line : List Char) : '#' ∉ stripComment line := fun here => by
  have kept := List.all_eq_true.mp (List.all_takeWhile (p := (· != '#')) (l := line)) _ here
  exact absurd kept (by decide)

theorem stripComment_of_notMem {line : List Char} (plain : '#' ∉ line) :
    stripComment line = line :=
  List.takeWhile_eq_self_iff.mpr fun c here => by
    have other : c ≠ '#' := fun same => plain (same ▸ here)
    simpa using other

theorem Bared.cons {raw raw' : List Char} (bared : Bared raw raw') {c : Char} (other : c ≠ '#') :
    Bared (c :: raw) (c :: raw') := by
  unfold Bared
  rw [stripComment_cons other, List.cons_append]
  exact bared.imp (congrArg _) (congrArg _)

theorem exists_lines_number (s : List Char) :
    ∃ line ls, lines ('#' :: s) = ('#' :: line) :: ls := by
  obtain ⟨line, ls, first⟩ := exists_lines_eq_cons s
  refine ⟨line, ls, ?_⟩
  rw [lines_plain (by decide) (by simp), first, prepend]

section Dropping

variable {c : Char} {s : List Char}

theorem dropComments_pair (inside : Bool) (feed : s.head? = some '\n') :
    dropComments inside ('\r' :: s) = '\r' :: dropComments inside s := by
  rw [dropComments, if_neg (by decide), if_pos ⟨rfl, feed⟩]

theorem dropComments_inside (feed : c ≠ '\n') (pair : ¬(c = '\r' ∧ s.head? = some '\n')) :
    dropComments true (c :: s) = dropComments true s := by
  rw [dropComments, if_neg feed, if_neg pair, Bool.true_or, if_pos rfl]

theorem dropComments_outside (feed : c ≠ '\n') (pair : ¬(c = '\r' ∧ s.head? = some '\n'))
    (number : c ≠ '#') : dropComments false (c :: s) = c :: dropComments false s := by
  rw [dropComments, if_neg feed, if_neg pair, if_neg (by simpa using number)]

theorem head?_dropComments_of_feed (inside : Bool) (feed : s.head? = some '\n') :
    (dropComments inside s).head? = some '\n' := by
  obtain ⟨rest, rfl⟩ := List.head?_eq_some_iff.mp feed
  rfl

/-- Only a comment can stand in front of the line break that is left of a line. -/
theorem head?_of_dropComments (feed : (dropComments false s).head? = some '\n')
    (noFeed : s.head? ≠ some '\n') : s.head? = some '#' := by
  cases s with
  | nil => exact absurd feed (by simp [dropComments])
  | cons c s =>
      have other : c ≠ '\n' := by simpa using noFeed
      by_cases pair : c = '\r' ∧ s.head? = some '\n'
      · rw [pair.1, dropComments_pair _ pair.2] at feed
        exact absurd feed (by simp)
      · by_contra number
        rw [dropComments_outside other pair (by simpa using number)] at feed
        exact absurd feed (by simpa using other)

/-- A character that neither breaks a line nor opens a comment stays on its line. -/
theorem lines_cons_dropComments (feed : c ≠ '\n') (pair : ¬(c = '\r' ∧ s.head? = some '\n'))
    (number : c ≠ '#') (related : List.Forall₂ Bared (lines s) (lines (dropComments false s))) :
    List.Forall₂ Bared (lines (c :: s)) (lines (dropComments false (c :: s))) := by
  rw [lines_plain feed pair, dropComments_outside feed pair number]
  by_cases joins : c = '\r' ∧ (dropComments false s).head? = some '\n'
  · -- the comment that kept the carriage return away from the line feed is gone
    obtain ⟨rfl, behind⟩ := joins
    obtain ⟨s, rfl⟩ := List.head?_eq_some_iff.mp
      (head?_of_dropComments behind fun feed => pair ⟨rfl, feed⟩)
    obtain ⟨line, ls, numbered⟩ := exists_lines_number s
    obtain ⟨rest, dropped⟩ := List.head?_eq_some_iff.mp behind
    rw [numbered, dropped, lines_feed] at related
    rw [lines_pair behind, numbered, dropped, lines_feed]
    exact .cons (.inr rfl) (List.forall₂_cons.mp related).2
  · obtain ⟨line, ls, first⟩ := exists_lines_eq_cons s
    obtain ⟨line', ls', left⟩ := exists_lines_eq_cons (dropComments false s)
    rw [first, left] at related
    rw [lines_plain feed joins, first, left]
    obtain ⟨bared, others⟩ := List.forall₂_cons.mp related
    exact .cons (bared.cons number) others

end Dropping

/-- Outside of a comment each line loses its own comment, and within one also what is left of the
first line. -/
theorem lines_dropComments (s : List Char) :
    List.Forall₂ Bared (lines s) (lines (dropComments false s)) ∧
      ∃ line rest rest', lines s = line :: rest ∧ lines (dropComments true s) = [] :: rest' ∧
        List.Forall₂ Bared rest rest' := by
  induction s with
  | nil => exact ⟨.cons (.inl rfl) .nil, [], [], [], rfl, rfl, .nil⟩
  | cons c s ih =>
      obtain ⟨outside, line, rest, rest', first, first', related⟩ := ih
      by_cases feed : c = '\n'
      · subst feed
        exact ⟨.cons (.inl rfl) outside, [], lines s, _, rfl, rfl, outside⟩
      by_cases pair : c = '\r' ∧ s.head? = some '\n'
      · -- the two characters of a line break stay together
        obtain ⟨rfl, behind⟩ := pair
        have together := fun inside => lines_pair (head?_dropComments_of_feed inside behind)
        rw [dropComments_pair _ behind, dropComments_pair _ behind, together, together,
          lines_pair behind]
        exact ⟨outside, line, rest, rest', first, first', related⟩
      have longer : lines (c :: s) = (c :: line) :: rest := by
        rw [lines_plain feed pair, first]
        rfl
      refine ⟨?_, c :: line, rest, rest', longer, ?_, related⟩
      · by_cases number : c = '#'
        · subst number
          show List.Forall₂ Bared _ (lines (dropComments true s))
          rw [longer, first']
          exact .cons (.inl (stripComment_number line)) related
        · exact lines_cons_dropComments feed pair number outside
      · rw [dropComments_inside feed pair, first']

/-- **The lines without comments are the lines of the document without comments.** -/
theorem lines_uncommented (text : String) :
    List.Forall₂ Bared (lines text.toList) (lines (uncommented text).toList) := by
  rw [uncommented, String.toList_ofList]
  exact (lines_dropComments text.toList).1

/-- The carriage return in front of the second comment joins the line feed behind it. -/
example : uncommented "a # b\r\nc\r# d\n" = "a \r\nc\r\n" := by decide

/-! ## Documents without comments -/

/-- What is left of a line is read as the line. -/
theorem Bared.readAlike {raw raw' : List Char} (bared : Bared raw raw') : ReadAlike raw raw' := by
  rcases bared with rfl | ends
  · have again := stripComment_of_notMem (notMem_stripComment raw)
    exact ⟨congrArg trim again, congrArg (systemName? false) again⟩
  · have plain : stripComment raw' = raw' := stripComment_of_notMem fun here =>
      notMem_stripComment raw (ends ▸ List.mem_append_left _ here)
    constructor
    · show trim (stripComment raw') = trim (stripComment raw)
      rw [plain, ← ends, trim_append_right (List.forall_mem_singleton.mpr (by decide))]
    · rw [plain, ← ends, systemName?_concat (by decide)]

theorem readAlike_uncommented (text : String) :
    List.Forall₂ ReadAlike (lines text.toList) (lines (uncommented text).toList) :=
  (lines_uncommented text).imp fun _ _ => Bared.readAlike

/-- **A document without its comments is read as the document itself.**  Nothing but the raw text of
the sections can differ: the version, the system, the artifacts with their fields, and the issues with
their positions are the same, and so are the predicates and the checks that are planned. -/
theorem parse_uncommented (text : String) :
    (∃ sections, Spec.parse (uncommented text) =
      { Spec.parse text with text := uncommented text, sections }) ∧
    Predicate.extract (uncommented text) = Predicate.extract text ∧
    ∀ ids beginnings,
      PlannedCheck.ofText (uncommented text) ids beginnings =
        PlannedCheck.ofText text ids beginnings := by
  obtain ⟨sections, artifacts⟩ := parse_agree (readAlike_uncommented text)
  have predicates := extract_agree (readAlike_uncommented text)
  refine ⟨⟨sections, artifacts⟩, predicates, fun ids beginnings => ?_⟩
  unfold PlannedCheck.ofText PlannedCheck.select
  rw [predicates, artifacts]

end IntentSpec.Document
