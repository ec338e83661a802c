import IntentSpec.Proofs.Document.Artifacts

/-!
# What stands behind the system block

Once the braces of the system block are closed, later lines are not meant to count.  The pass looks
at the open braces behind every line but the one that opens the system.  So a system that is open
behind its first line ends where it is closed (`segments_take`), and one that is closed on its first
line goes on.

Such a pass looks at one more line.  If that line does not take the depth above zero the pass is over, and
nothing has been read, since no section opens at such a depth.  If it does, what follows is read as if the
system had never been closed.

The specifications are compared in everything but their headers, which are read by themselves and may point to
lines behind the system.

* `SameArtifacts` — two specifications that agree in everything but their headers.
* `upTo` — a text without the lines behind some line.
* `sameArtifacts_upTo_iff` — cutting off what stands behind the closed system changes nothing
  exactly if the system was open behind its first line or the document has no section at all.
* `not_sameArtifacts_reopenedText` — a system that is closed on its first line.
-/

namespace IntentSpec.Document

open Text

/-! ## Cutting a text behind a line -/

/-- The characters up to the end of the line with the given number, counted from zero. -/
def throughLine : Nat → List Char → List Char
  | _, [] => []
  | n, c :: s =>
    match n with
    | 0 => if c = '\n' ∨ c = '\r' ∧ s.head? = some '\n' then [] else c :: throughLine 0 s
    | n + 1 => c :: throughLine (if c = '\n' then n else n + 1) s

/-- A text without the lines behind the line with the given number. -/
def upTo (n : Nat) (text : String) : String := String.ofList (throughLine n text.toList)

theorem head?_throughLine_succ (n : Nat) (s : List Char) :
    (throughLine (n + 1) s).head? = s.head? := by
  cases s <;> rfl

/-- The shortened text begins with a line feed only if the text does. -/
theorem head?_throughLine_zero {s : List Char} (plain : ¬ s.head? = some '\n') :
    ¬ (throughLine 0 s).head? = some '\n' := by
  cases s with
  | nil => exact plain
  | cons c s =>
      unfold throughLine
      dsimp only
      split
      · simp
      · exact plain

theorem prepend_take (c : Char) (n : Nat) (ls : List (List Char)) :
    prepend c (ls.take (n + 1)) = (prepend c ls).take (n + 1) := by
  cases ls <;> simp [prepend]

theorem lines_throughLine (n : Nat) (s : List Char) :
    lines (throughLine n s) = (lines s).take (n + 1) := by
  induction s generalizing n with
  | nil => simp [throughLine, lines]
  | cons c s ih =>
      cases n with
      | zero =>
          by_cases feed : c = '\n'
          · simp [throughLine, lines, feed]
          · by_cases pair : c = '\r' ∧ s.head? = some '\n'
            · -- carriage return and line feed are one line break
              obtain ⟨rfl, next⟩ := pair
              obtain ⟨s, rfl⟩ := List.head?_eq_some_iff.mp next
              simp [throughLine, lines]
            · have goesOn : throughLine 0 (c :: s) = c :: throughLine 0 s :=
                if_neg (by simpa [feed] using pair)
              have alone : ¬ (c = '\r' ∧ (throughLine 0 s).head? = some '\n') := fun h =>
                head?_throughLine_zero (fun next => pair ⟨h.1, next⟩) h.2
              rw [goesOn, lines, if_neg feed, if_neg alone, ih, prepend_take, lines, if_neg feed,
                if_neg pair]
      | succ n =>
          have goesOn : throughLine (n + 1) (c :: s) =
            c :: throughLine (if c = '\n' then n else n + 1) s := rfl
          by_cases feed : c = '\n'
          · rw [goesOn, if_pos feed, lines, if_pos feed, ih, lines, if_pos feed, List.take_succ_cons]
          · rw [goesOn, if_neg feed, lines, if_neg feed, head?_throughLine_succ, ih, lines,
              if_neg feed]
            split
            · rfl
            · rw [prepend_take]

theorem lines_upTo (n : Nat) (text : String) :
    lines (upTo n text).toList = (lines text.toList).take (n + 1) := by
  unfold upTo
  rw [String.toList_ofList, lines_throughLine]

/-! ## Segments of a shortened document -/

/-- A part that ends early does not depend on the lines behind. -/
theorem through_take {bound base : Int} {ls : List (List Char)} {n : Nat} (some : n ≠ 0)
    (ends : level base ls n < bound) : through bound base (ls.take n) = through bound base ls := by
  induction ls generalizing base n with
  | nil => rw [List.take_nil]
  | cons raw ls ih =>
      obtain ⟨n, rfl⟩ := Nat.exists_eq_succ_of_ne_zero some
      rw [Nat.succ_eq_add_one, List.take_succ_cons, through_cons, through_cons]
      by_cases here : base + balance (stripComment raw) < bound
      · rw [if_pos here, if_pos here]
      · have later : n ≠ 0 := by
          rintro rfl
          rw [level_cons_succ, level_zero] at ends
          exact here ends
        rw [level_cons_succ] at ends
        rw [if_neg here, if_neg here, ih later ends]

/-- **Nothing behind the closed system is read**, if the system is closed behind a later line than
the one that opens it. -/
theorem segments_take {ls : List (List Char)} {n : Nat} (later : ls.findIdx opensSystem < n)
    (closed : total ((ls.take (n + 1)).drop (ls.findIdx opensSystem)) ≤ 0) :
    segments (ls.take (n + 1)) = segments ls := by
  induction ls generalizing n with
  | nil => rw [List.take_nil]
  | cons raw ls ih =>
      rw [List.take_succ_cons, segments_cons, segments_cons]
      rw [List.findIdx_cons] at later closed
      cases opens : opensSystem raw with
      | true =>
          rw [opens, cond_true, List.drop_zero, List.take_succ_cons, total] at closed
          rw [opens, cond_true] at later
          have ends : level (balance (stripComment raw)) ls n < 1 := by
            unfold level
            omega
          rw [if_pos rfl, if_pos rfl, through_take (by omega) ends]
      | false =>
          rw [opens, cond_false] at later closed
          obtain ⟨n, rfl⟩ : ∃ n', n = n' + 1 := Nat.exists_eq_succ_of_ne_zero (by omega)
          rw [List.take_succ_cons, List.drop_succ_cons] at closed
          rw [if_neg (by decide), if_neg (by decide), ih (by omega) closed]

/-- The line that opens the system has no section. -/
theorem segments_take_findIdx (ls : List (List Char)) :
    segments (ls.take (ls.findIdx opensSystem + 1)) = [] := by
  induction ls with
  | nil => rfl
  | cons raw ls ih =>
      rw [List.findIdx_cons]
      cases opens : opensSystem raw with
      | true =>
          rw [cond_true, List.take_succ_cons, segments_cons, if_pos opens, List.take_zero,
            through_nil, segmentsFrom_nil]
      | false =>
          rw [cond_false, List.take_succ_cons, segments_cons, if_neg (by simp [opens]), ih]

/-! ## Artifacts of a shortened document -/

/-- The number of the first line that opens the system, counted from zero. -/
def systemLine (text : String) : Nat := (lines text.toList).findIdx opensSystem

/-- The system has been opened, and behind the line with the given number none of its braces is
open. -/
def ClosedBehind (text : String) (n : Nat) : Prop :=
  systemLine text ≤ n ∧ n < (lines text.toList).length ∧
    total (((lines text.toList).take (n + 1)).drop (systemLine text)) ≤ 0

instance (text : String) (n : Nat) : Decidable (ClosedBehind text n) :=
  inferInstanceAs (Decidable (_ ∧ _ ∧ _))

/-- Two specifications have the same sections and declare the same. -/
def SameArtifacts (spec spec' : Spec) : Prop :=
  spec.capabilities = spec'.capabilities ∧ spec.intents = spec'.intents ∧
    spec.constraints = spec'.constraints ∧ spec.decisions = spec'.decisions ∧
    spec.validations = spec'.validations ∧ spec.sections = spec'.sections

theorem sameArtifacts_of_segments {text text' : String}
    (same : segments (lines text.toList) = segments (lines text'.toList)) :
    SameArtifacts (Spec.parse text) (Spec.parse text') := by
  rw [parse_eq_under text, parse_eq_under text', same]
  generalize Spec.parse text = header
  generalize Spec.parse text' = header'
  exact ⟨rfl, rfl, rfl, rfl, rfl, rfl⟩

/-- A document has sections if it has segments. -/
theorem segments_eq_nil_iff (text : String) :
    segments (lines text.toList) = [] ↔ (Spec.parse text).sections.names = [] := by
  rw [sections_parse, sections_names_readSegments]
  cases segments (lines text.toList) with
  | nil => exact ⟨fun _ => rfl, fun _ => rfl⟩
  | cons segment ss => simp [List.eraseDups_cons]

/-- **What stands behind the closed system.**  Cutting it off leaves all artifacts alone if the
system was open behind the line that opens it.  Otherwise the pass goes on behind that line, and
cutting off all that follows leaves the artifacts alone only if no section follows. -/
theorem sameArtifacts_upTo_iff (text : String) (n : Nat) (closed : ClosedBehind text n) :
    SameArtifacts (Spec.parse (upTo n text)) (Spec.parse text) ↔
      systemLine text < n ∨ (Spec.parse text).sections.names = [] := by
  obtain ⟨opened, -, balanced⟩ := closed
  by_cases later : systemLine text < n
  · refine iff_of_true (sameArtifacts_of_segments ?_) (Or.inl later)
    rw [lines_upTo, segments_take later balanced]
  · obtain rfl : n = systemLine text := by omega
    have shortened : segments (lines (upTo (systemLine text) text).toList) = [] := by
      rw [lines_upTo]
      exact segments_take_findIdx _
    constructor
    · intro same
      rw [← same.2.2.2.2.2]
      exact Or.inr ((segments_eq_nil_iff _).mp shortened)
    · rintro (later' | none)
      · exact absurd later' later
      · exact sameArtifacts_of_segments (shortened.trans ((segments_eq_nil_iff text).mpr none).symm)

/-- A system that closes with an intent in front of it, and an intent behind it. -/
def trailedText : String :=
  "DIL:spec v0\n" ++
  "system \"S\" \x7b\n" ++
  "intents \x7b\n" ++
  "intent I1 \x7b \x7d\n" ++
  "\x7d\n" ++
  "\x7d\n" ++
  "intents \x7b\n" ++
  "intent I2 \x7b \x7d\n" ++
  "\x7d\n"

theorem sameArtifacts_upTo_trailedText :
    ClosedBehind trailedText 5 ∧
      SameArtifacts (Spec.parse (upTo 5 trailedText)) (Spec.parse trailedText) := by
  have line : systemLine trailedText = 1 := by
    unfold systemLine trailedText
    simp only [String.toList_append]
    decide +kernel
  have closed : ClosedBehind trailedText 5 := by
    unfold ClosedBehind
    rw [line]
    unfold trailedText
    simp only [String.toList_append]
    decide +kernel
  have later : systemLine trailedText < 5 := by
    rw [line]
    decide
  exact ⟨closed, (sameArtifacts_upTo_iff trailedText 5 closed).mpr (Or.inl later)⟩

/-- A system that is closed on the line that opens it, and a block behind it. -/
def reopenedText : String :=
  "DIL:spec v0\n" ++
  "system \"S\" \x7b \x7d\n" ++
  "\x7b\n" ++
  "intents \x7b\n" ++
  "intent I1 \x7b\n" ++
  "\x7d\n" ++
  "\x7d\n" ++
  "\x7d\n"

/-- The system is closed, and yet what stands behind it is captured. -/
theorem not_sameArtifacts_reopenedText :
    ClosedBehind reopenedText 1 ∧
      ¬ SameArtifacts (Spec.parse (upTo 1 reopenedText)) (Spec.parse reopenedText) := by
  have closed : ClosedBehind reopenedText 1 := by
    unfold ClosedBehind systemLine reopenedText
    simp only [String.toList_append]
    decide +kernel
  have none : (Spec.parse (upTo 1 reopenedText)).ids .intents = [] := by
    rw [ids_parse, lines_upTo]
    unfold reopenedText
    simp only [String.toList_append]
    decide +kernel
  have captured : (Spec.parse reopenedText).ids .intents = ["I1"] := by
    rw [ids_parse]
    unfold reopenedText
    simp only [String.toList_append]
    decide +kernel
  refine ⟨closed, fun same => ?_⟩
  have equal : (Spec.parse (upTo 1 reopenedText)).ids .intents =
      (Spec.parse reopenedText).ids .intents := congrArg Table.names same.2.1
  rw [none, captured] at equal
  exact absurd equal (by decide)

end IntentSpec.Document
