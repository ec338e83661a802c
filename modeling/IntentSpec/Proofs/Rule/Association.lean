import IntentSpec.Rule.Basic

/-!
# Which texts associate an intent

`Association.explicit` walks once over the lines of a section and carries a flag that says whether
the line belongs to the block of the intent.  Here the flag is eliminated: a text associates an
intent exactly when the text can be cut into a first line of that intent, lines that begin no
intent, and a line that names validations (`explicit_iff`).

The flag makes the induction: at a line that begins no intent it is handed on, and at the first
line of an intent it is set anew.  `NamesBelow` is what a raised flag promises about the lines
that remain, and `Associates` is what a lowered one does.

An identifier may have several blocks, and one of them is enough.  What a line names is not looked at, nor
whether such validations are declared, so the condition is one on the text and on no table.
-/

namespace IntentSpec.Association

open Text Document

/-- Some line names validations before the next intent begins. -/
def NamesBelow (lines : List (List Char)) : Prop :=
  ∃ between line after, lines = between ++ line :: after ∧
    (∀ l ∈ between, heading? "intent" l = none) ∧
    heading? "intent" line = none ∧ namesValidations line = true

/-- Some block of the intent has a line that names validations. -/
def Associates (id : String) (lines : List (List Char)) : Prop :=
  ∃ before first rest, lines = before ++ first :: rest ∧
    heading? "intent" first = some id ∧ NamesBelow rest

theorem namesBelow_cons (line : List Char) (rest : List (List Char)) :
    NamesBelow (line :: rest) ↔
      heading? "intent" line = none ∧ (namesValidations line = true ∨ NamesBelow rest) := by
  constructor
  · rintro ⟨between, named, after, split, noHeading, plain, names⟩
    cases between with
    | nil =>
        obtain ⟨rfl, rfl⟩ : line = named ∧ rest = after := by simpa using split
        exact ⟨plain, Or.inl names⟩
    | cons first between =>
        obtain ⟨rfl, rfl⟩ : line = first ∧ rest = between ++ named :: after := by
          simpa using split
        refine ⟨noHeading line (by simp), Or.inr ⟨between, named, after, rfl, ?_, plain, names⟩⟩
        exact fun l hl => noHeading l (List.mem_cons_of_mem _ hl)
  · rintro ⟨plain, names | ⟨between, named, after, rfl, noHeading, plain', names⟩⟩
    · exact ⟨[], line, rest, rfl, by simp, plain, names⟩
    · refine ⟨line :: between, named, after, rfl, ?_, plain', names⟩
      intro l hl
      rcases List.mem_cons.mp hl with rfl | hl
      · exact plain
      · exact noHeading l hl

theorem associates_cons (id : String) (line : List Char) (rest : List (List Char)) :
    Associates id (line :: rest) ↔
      (heading? "intent" line = some id ∧ NamesBelow rest) ∨ Associates id rest := by
  constructor
  · rintro ⟨before, first, tail, split, heading, names⟩
    cases before with
    | nil =>
        obtain ⟨rfl, rfl⟩ : line = first ∧ rest = tail := by simpa using split
        exact Or.inl ⟨heading, names⟩
    | cons _ before =>
        obtain ⟨rfl, rfl⟩ : line = _ ∧ rest = before ++ first :: tail := by simpa using split
        exact Or.inr ⟨before, first, tail, rfl, heading, names⟩
  · rintro (⟨heading, names⟩ | ⟨before, first, tail, rfl, heading, names⟩)
    · exact ⟨[], line, rest, rfl, heading, names⟩
    · exact ⟨line :: before, first, tail, rfl, heading, names⟩

/-- What the walk over the lines finds, for either value of its flag. -/
theorem inLines_iff (id : String) (inBlock : Bool) (lines : List (List Char)) :
    inLines id inBlock lines = true ↔
      (inBlock = true ∧ NamesBelow lines) ∨ Associates id lines := by
  induction lines generalizing inBlock with
  | nil => simp [inLines, NamesBelow, Associates]
  | cons line rest ih =>
      rw [namesBelow_cons, associates_cons]
      cases heading : heading? "intent" line with
      | some found =>
          simp [inLines, heading, ih]
      | none =>
          simp only [inLines, heading, Bool.or_eq_true, Bool.and_eq_true, ih, true_and,
            reduceCtorEq, false_and, false_or]
          rw [and_or_left, or_assoc]

/-! ## Blank lines -/

/-- A blank line neither begins an intent nor names validations. -/
theorem namesBelow_filter (lines : List (List Char)) :
    NamesBelow (lines.filter (!·.isEmpty)) ↔ NamesBelow lines := by
  induction lines with
  | nil => exact Iff.rfl
  | cons line rest ih =>
      cases line with
      | nil =>
          rw [List.filter_cons_of_neg (by decide), ih, namesBelow_cons]
          exact ⟨fun below => ⟨rfl, .inr below⟩, fun h => h.2.resolve_left (by decide)⟩
      | cons c line => rw [List.filter_cons_of_pos rfl, namesBelow_cons, namesBelow_cons, ih]

theorem associates_filter (id : String) (lines : List (List Char)) :
    Associates id (lines.filter (!·.isEmpty)) ↔ Associates id lines := by
  induction lines with
  | nil => exact Iff.rfl
  | cons line rest ih =>
      cases line with
      | nil =>
          have none : heading? "intent" [] = none := rfl
          rw [List.filter_cons_of_neg (by decide), ih, associates_cons, none]
          exact ⟨.inr, fun h => h.resolve_left (by simp)⟩
      | cons c line =>
          rw [List.filter_cons_of_pos rfl, associates_cons, associates_cons, ih, namesBelow_filter]

/-! ## The walk over a text -/

/-- **A text associates an intent exactly when a block of the intent names validations.** One line
in one block is enough. -/
theorem explicit_iff (text id : String) :
    explicit text id = true ↔
      Associates id ((paragraphs text.toList).map fun line => trim (stripComment line)) := by
  simp [explicit, inLines_iff]

end IntentSpec.Association
