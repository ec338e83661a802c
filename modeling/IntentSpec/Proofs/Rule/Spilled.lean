import IntentSpec.Proofs.Document.Comment
import IntentSpec.Proofs.Rule.Explicit

/-!
# Comments in the section of intents

The parse cuts a document at its line feeds, and a comment goes from a number sign to the end of such a
line.  V-M1 cuts the text of the section of intents again, at every line boundary.  A comment that has a
line boundary in it is cut there, and only the piece with the number sign is stripped: the pieces behind
it are looked through as if they were lines (`spilled`).

So comments are ignored exactly if what they spill changes for no intent whether its block names
validations, those aside that are associated anyway (`commentsIgnored_iff`).  Comments without line
boundaries spill nothing (`CommentsIgnored.of_unbroken`), and a comment with a line separator can make
an intent verifiable (`not_commentsIgnored_spilledText`).

* `shown_eq` — what V-M1 sees of a line.
* `explicit_parse_iff_shown` — which intents it takes for explicitly associated.
* `commentsIgnored_iff` — when comments are ignored.
-/

namespace IntentSpec.Rule

open Document Report Text

/-! ## What is seen of a line -/

/-- The comment of a line, with its number sign. -/
def comment (line : List Char) : List Char := line.dropWhile (· != '#')

/-- The rows of the pieces of a line. -/
def shown (line : List Char) : List (List Char) := rows (line.splitOnP isLineBoundary)

/-- What stands in front of the comment of a line. -/
def kept (line : List Char) : List (List Char) := shown (stripComment line)

/-- What a comment spills: the rows of its pieces behind the first line boundary. -/
def spilled (line : List Char) : List (List Char) :=
  rows ((comment line).splitOnP isLineBoundary).tail

theorem rows_filter (ls : List (List Char)) : rows (ls.filter (!·.isEmpty)) = rows ls := by
  induction ls with
  | nil => rfl
  | cons raw ls ih =>
      cases raw with
      | nil => rw [rows_cons_of_idle rfl, ← ih]; rfl
      | cons c raw =>
          rw [List.filter_cons_of_pos rfl, ← List.singleton_append, rows_append, ih, ← rows_append,
            List.singleton_append]

theorem modifyHead_append {α : Type} (f : α → α) {l : List α} (some : l ≠ []) (l' : List α) :
    (l ++ l').modifyHead f = l.modifyHead f ++ l' := by
  obtain ⟨a, l, rfl⟩ := List.exists_cons_of_ne_nil some
  rfl

/-- Stripping the pieces of a line strips the line, and leaves what is behind the first piece of its
comment. -/
theorem map_stripComment_splitOnP (line : List Char) :
    (line.splitOnP isLineBoundary).map stripComment =
      (stripComment line).splitOnP isLineBoundary ++
        ((comment line).splitOnP isLineBoundary).tail.map stripComment := by
  induction line with
  | nil => rfl
  | cons c line ih =>
      by_cases number : c = '#'
      · subst number
        show _ = [[]] ++ (('#' :: line).splitOnP isLineBoundary).tail.map stripComment
        rw [List.splitOnP_cons_eq_if_modifyHead, if_neg (by decide)]
        obtain ⟨first, rest, pieces⟩ := List.exists_cons_of_ne_nil
          (List.splitOnP_ne_nil isLineBoundary line)
        -- the first piece is all comment, and the others stand behind it
        rw [pieces]
        rfl
      · have behind : comment (c :: line) = comment line :=
          List.dropWhile_cons_of_pos (by simpa using number)
        rw [stripComment_cons number, behind, List.splitOnP_cons_eq_if_modifyHead,
          List.splitOnP_cons_eq_if_modifyHead]
        split
        · rw [List.map_cons, ih]
          rfl
        · -- a character in front of the comment goes to the first piece on both sides
          have head : ∀ pieces : List (List Char), (pieces.modifyHead (c :: ·)).map stripComment =
              (pieces.map stripComment).modifyHead (c :: ·) := by
            rintro (_ | ⟨first, rest⟩)
            · rfl
            · exact congrArg (· :: rest.map stripComment) (stripComment_cons number first)
          rw [head, ih, modifyHead_append _ (List.splitOnP_ne_nil _ _)]

theorem rows_eq_trim (ls : List (List Char)) :
    rows ls = ((ls.map stripComment).map trim).filter (!·.isEmpty) := by
  rw [List.map_map]
  rfl

/-- A line without its comment has none. -/
theorem comment_stripComment (line : List Char) : comment (stripComment line) = [] :=
  List.dropWhile_eq_nil_iff.mpr (List.all_eq_true.mp List.all_takeWhile)

theorem map_stripComment_stripComment (line : List Char) :
    ((stripComment line).splitOnP isLineBoundary).map stripComment =
      (stripComment line).splitOnP isLineBoundary := by
  have again := map_stripComment_splitOnP (stripComment line)
  rw [comment_stripComment, stripComment_of_notMem (notMem_stripComment line)] at again
  exact again.trans (List.append_nil _)

/-- **A line shows what stands in front of its comment, and what its comment spills.** The rescan
cuts the line first and strips comments afterwards, so only the first piece of a comment is
stripped. -/
theorem shown_eq (line : List Char) : shown line = kept line ++ spilled line := by
  unfold kept shown spilled
  rw [rows_eq_trim, rows_eq_trim, rows_eq_trim, map_stripComment_splitOnP, List.map_append,
    List.filter_append, map_stripComment_stripComment]

/-- What is left of a line when comments are deleted shows what stands in front of the comment. -/
theorem shown_of_bared {raw raw' : List Char} (bared : Bared raw raw') : shown raw' = kept raw := by
  rcases bared with rfl | ends
  · rfl
  · unfold kept shown
    rw [← ends, List.splitOnP_append_cons raw' [] (by decide), List.splitOnP_nil, rows_append]
    exact (List.append_nil _).symm

/-- A comment without line boundaries spills nothing. -/
theorem spilled_of_unbroken {line : List Char} (unbroken : Unbroken (comment line)) :
    spilled line = [] := by
  unfold spilled
  rw [List.splitOnP_eq_singleton unbroken]
  rfl

/-! ## What is looked through -/

/-- What stands in front of the comments in the section of intents. -/
def keptIntents (text : String) : List (List Char) := (lastIntents text).flatMap kept

/-- What stands in front of the comments in the section of intents, and what they spill. -/
def shownIntents (text : String) : List (List Char) :=
  (lastIntents text).flatMap fun line => kept line ++ spilled line

theorem rows_splitOnP_flatMap (ls : List (List Char)) :
    rows (ls.flatMap (·.splitOnP isLineBoundary)) = ls.flatMap shown := by
  induction ls with
  | nil => rfl
  | cons line ls ih => rw [List.flatMap_cons, rows_append, ih, List.flatMap_cons, shown]

theorem explicit_iff_flatMap_shown (text id : String) :
    explicit (Spec.parse text) id = true ↔
      Association.Associates id ((lastIntents text).flatMap shown) := by
  have seen : rows (paragraphs (joined (lastIntents text)).toList) =
      (lastIntents text).flatMap shown := by
    rw [joined, String.toList_ofList, ← rows_filter, filter_paragraphs, rows_filter,
      splitOnP_flatMap, rows_append, rows_splitOnP_flatMap]
    exact List.append_nil _
  unfold explicit
  rw [Association.explicit_iff, sectionText_intents, ← seen]
  exact (Association.associates_filter id _).symm

/-- **What comments spill is looked through.** -/
theorem explicit_parse_iff_shown (text id : String) :
    explicit (Spec.parse text) id = true ↔ Association.Associates id (shownIntents text) := by
  rw [explicit_iff_flatMap_shown, funext shown_eq, shownIntents]

theorem getLast?_forall₂ {α β : Type} {R : α → β → Prop} {l : List α} {l' : List β}
    (related : List.Forall₂ R l l') : Option.Rel R l.getLast? l'.getLast? := by
  have reversed := List.forall₂_reverse_iff.mpr related
  rw [List.getLast?_eq_head?_reverse, List.getLast?_eq_head?_reverse]
  revert reversed
  generalize l.reverse = r
  generalize l'.reverse = r'
  rintro (_ | ⟨last, _⟩)
  · exact .none
  · exact .some last

/-- The last section of intents loses the comments of its lines. -/
theorem lastIntents_uncommented (text : String) :
    List.Forall₂ Bared (lastIntents text) (lastIntents (uncommented text)) := by
  have lines : ∀ {section? section?' : Option Segment},
      Option.Rel (Segment.Alike Bared) section? section?' →
      List.Forall₂ Bared ((section?.map Segment.lines).getD [])
        ((section?'.map Segment.lines).getD []) := by
    rintro _ _ (related | _)
    · exact related.lines
    · exact .nil
  have cut := segments_forall₂ Bared.readAlike (lines_uncommented text)
  refine lines (getLast?_forall₂ (List.rel_filter (fun _ _ related => ?_) cut))
  show decide _ = true ↔ decide _ = true
  rw [related.kind_eq]

theorem flatMap_shown {ls ls' : List (List Char)} (related : List.Forall₂ Bared ls ls') :
    ls'.flatMap shown = ls.flatMap kept := by
  induction related with
  | nil => rfl
  | cons first _ ih => rw [List.flatMap_cons, List.flatMap_cons, ih, shown_of_bared first]

/-- **Without comments only what stands in front of them is looked through.** -/
theorem explicit_uncommented_iff_kept (text id : String) :
    explicit (Spec.parse (uncommented text)) id = true ↔
      Association.Associates id (keptIntents text) := by
  rw [explicit_iff_flatMap_shown, flatMap_shown (lastIntents_uncommented text), keptIntents]

/-! ## When comments are ignored -/

/-- V-M1 answers the same whether comments are deleted or not. -/
def CommentsIgnored (text : String) : Prop :=
  intentVerifiability (Spec.parse (uncommented text)) = intentVerifiability (Spec.parse text)

/-- What the comments of a document spill changes for no intent whether its block names validations,
those aside that are associated because a decision supports them and some validation requires a
capability. -/
def SpillsHarmlessly (text : String) : Prop :=
  ∀ i ∈ (Spec.parse text).intents.entries, implied (Spec.parse text) i.id = true ∨
    (Association.Associates i.id (shownIntents text) ↔
      Association.Associates i.id (keptIntents text))

theorem spillsHarmlessly_iff (text : String) :
    SpillsHarmlessly text ↔ ∀ i ∈ (Spec.parse text).intents.entries,
      implied (Spec.parse text) i.id = true ∨
        (explicit (Spec.parse text) i.id = true ↔
          explicit (Spec.parse (uncommented text)) i.id = true) := by
  refine forall₂_congr fun i _ => or_congr_right ?_
  rw [explicit_uncommented_iff_kept, explicit_parse_iff_shown]

section Answer

variable {spec : Spec} {text : String} {sections : Table Section}

/-- The answer of V-M1 depends on the text of the sections only in which intents are taken for
explicitly associated. -/
theorem intentVerifiability_resectioned
    (same : ∀ i ∈ spec.intents.entries, implied spec i.id = true ∨
      (explicit spec i.id = true ↔ explicit { spec with text, sections } i.id = true)) :
    intentVerifiability { spec with text, sections } = intentVerifiability spec := by
  have alone : unassociated { spec with text, sections } = unassociated spec := by
    refine List.filter_congr fun i here => ?_
    have implied_eq : implied { spec with text, sections } i.id = implied spec i.id := rfl
    rw [implied_eq]
    rcases same i here with supported | found
    · rw [supported, Bool.or_true, Bool.or_true]
    · rw [Bool.eq_iff_iff.mpr found]
  unfold intentVerifiability
  rw [alone]
  rfl

/-- And it shows which those are. -/
theorem explicit_of_intentVerifiability_eq
    (equal : intentVerifiability { spec with text, sections } = intentVerifiability spec)
    {i : Intent} (here : i ∈ spec.intents.entries) (alone : implied spec i.id = false) :
    explicit spec i.id = true ↔ explicit { spec with text, sections } i.id = true := by
  obtain ⟨f, returned, -, -⟩ := intentVerifiability_answer spec
  have declared : i.id ∈ spec.intents.names := List.mem_map_of_mem here
  have reports := (reports_iff returned i.id).trans (and_iff_right declared)
  have reports' := (reports_iff (equal.trans returned) i.id).trans (and_iff_right declared)
  have associated := not_iff_not.mp (reports.symm.trans reports')
  have alone' : implied { spec with text, sections } i.id = false := alone
  rwa [← explicit_or_implied_iff, ← explicit_or_implied_iff, alone, alone', Bool.or_false,
    Bool.or_false] at associated

end Answer

theorem SpillsHarmlessly.commentsIgnored {text : String} (harmless : SpillsHarmlessly text) :
    CommentsIgnored text := by
  obtain ⟨sections, artifacts⟩ := parse_agree (readAlike_uncommented text)
  have same := (spillsHarmlessly_iff text).mp harmless
  unfold CommentsIgnored
  rw [artifacts] at same ⊢
  exact intentVerifiability_resectioned same

/-- Comments that have no line boundary in them are ignored. -/
theorem CommentsIgnored.of_unbroken {text : String}
    (unbroken : ∀ line ∈ lastIntents text, Unbroken (comment line)) : CommentsIgnored text := by
  have nothing : shownIntents text = keptIntents text :=
    List.flatMap_congr fun line here => by
      rw [spilled_of_unbroken (unbroken line here), List.append_nil]
  refine SpillsHarmlessly.commentsIgnored fun i _ => .inr ?_
  rw [nothing]

/-- **Comments are ignored exactly if what they spill makes no difference** to any intent that is
not associated anyway. The rescan cuts lines at more places than the parse does, so the part of a
comment behind such a place is read as if it were no comment. -/
theorem commentsIgnored_iff (text : String) : CommentsIgnored text ↔ SpillsHarmlessly text := by
  refine ⟨fun ignored => ?_, SpillsHarmlessly.commentsIgnored⟩
  obtain ⟨sections, artifacts⟩ := parse_agree (readAlike_uncommented text)
  unfold CommentsIgnored at ignored
  rw [spillsHarmlessly_iff]
  rw [artifacts] at ignored ⊢
  intro i here
  cases alone : implied (Spec.parse text) i.id with
  | true => exact .inl rfl
  | false => exact .inr (explicit_of_intentVerifiability_eq ignored here alone)

/-- A document with one intent, in which a comment has a line separator in it. -/
def spilledText : String :=
  "DIL:spec v0\n" ++
  "system \"S\" \x7b\n" ++
  "intents \x7b\n" ++
  "intent I1 \x7b\n" ++
  "# \u2028validations: [V1]\n" ++
  "\x7d\n" ++
  "\x7d\n" ++
  "\x7d\n"

/-- The comment makes the intent verifiable: without it the intent is reported. -/
theorem not_commentsIgnored_spilledText :
    ¬ CommentsIgnored spilledText ∧
      (∃ f, intentVerifiability (Spec.parse spilledText) = .ok f ∧ ¬ Reports f "I1") ∧
      ∃ f, intentVerifiability (Spec.parse (uncommented spilledText)) = .ok f ∧ Reports f "I1" := by
  have associated : Associated (Spec.parse spilledText) "I1" := by
    decide +kernel
  have declared : "I1" ∈ (Spec.parse (uncommented spilledText)).intents.names := by
    decide +kernel
  have alone : ¬ Associated (Spec.parse (uncommented spilledText)) "I1" := by
    decide +kernel
  obtain ⟨f, returned, -, -⟩ := intentVerifiability_answer (Spec.parse spilledText)
  obtain ⟨f', returned', -, -⟩ := intentVerifiability_answer (Spec.parse (uncommented spilledText))
  have quiet : ¬ Reports f "I1" := fun reports => ((reports_iff returned "I1").mp reports).2 associated
  have reports : Reports f' "I1" := (reports_iff returned' "I1").mpr ⟨declared, alone⟩
  refine ⟨fun ignored => ?_, ⟨f, returned, quiet⟩, f', returned', reports⟩
  obtain rfl : f' = f := Except.ok.inj (returned'.symm.trans (ignored.trans returned))
  exact quiet reports

end IntentSpec.Rule
