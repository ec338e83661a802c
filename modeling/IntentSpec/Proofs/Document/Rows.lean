import IntentSpec.Proofs.Document.Segment

/-!
# The rows of a document

Comments, blank lines and the blanks at the ends of a line carry no meaning for the sections.  What
is left of the lines are the rows (`rows`).  A line shows a row between blanks and in front of a
comment, and lines that show nothing can stand anywhere (`Spaced`, `spaced_iff`).

The braces of the rows alone decide how far a part of the document goes: `Walks` says that from some
level of open braces the rows lead to another one and never below a bound.

* `through_append` — a part of the document is not over as long as its rows stay at the bound.
* `segmentsFrom_append` — no section opens above the level of the system.
* `segmentsFrom_section` — a section is a segment.
* `foldl_rows` — a pass that reads rows does not see the other lines.
-/

namespace IntentSpec.Document

open Text
open Predicate (row balance_row)

/-! ## Rows -/

/-- The rows of some lines. -/
def rows (ls : List (List Char)) : List (List Char) := (ls.map row).filter fun r => !r.isEmpty

theorem rows_nil : rows [] = [] := rfl

theorem rows_append (ls ls' : List (List Char)) : rows (ls ++ ls') = rows ls ++ rows ls' := by
  unfold rows
  rw [List.map_append, List.filter_append]

theorem rows_cons_of_idle {raw : List Char} (idle : row raw = []) (ls : List (List Char)) :
    rows (raw :: ls) = rows ls := by
  simp [rows, idle]

theorem rows_cons_of_shown {raw : List Char} (shown : row raw ≠ []) (ls : List (List Char)) :
    rows (raw :: ls) = row raw :: rows ls := by
  simp [rows, shown]

theorem rows_eq_nil_iff (ls : List (List Char)) : rows ls = [] ↔ ∀ raw ∈ ls, row raw = [] := by
  simp [rows]

theorem rows_eq_append_iff (ls rs rs' : List (List Char)) :
    rows ls = rs ++ rs' ↔ ∃ front back, ls = front ++ back ∧ rows front = rs ∧ rows back = rs' := by
  constructor
  · intro together
    obtain ⟨shown, shown', split, rfl, rfl⟩ := List.filter_eq_append_iff.mp together
    obtain ⟨front, back, rfl, rfl, rfl⟩ := List.map_eq_append_iff.mp split
    exact ⟨front, back, rfl, rfl, rfl⟩
  · rintro ⟨front, back, rfl, rfl, rfl⟩
    exact rows_append front back

/-- The first row stands behind lines without a row. -/
theorem exists_of_rows_eq_cons {ls rs : List (List Char)} {r : List Char}
    (first : rows ls = r :: rs) :
    ∃ idle raw rest, ls = idle ++ raw :: rest ∧ rows idle = [] ∧ row raw = r ∧ rows rest = rs := by
  obtain ⟨before, after, split, none, -, rfl⟩ := List.filter_eq_cons_iff.mp first
  obtain ⟨idle, shown, rfl, rfl, shows⟩ := List.map_eq_append_iff.mp split
  obtain ⟨raw, rest, rfl, rfl, rfl⟩ := List.map_eq_cons_iff.mp shows
  refine ⟨idle, raw, rest, rfl, ?_, rfl, rfl⟩
  exact List.filter_eq_nil_iff.mpr none

/-! ## The lines that show a row -/

/-- A line shows a row: the row stands between blanks, and a comment may follow. -/
def Shows (r raw : List Char) : Prop :=
  ∃ before after comment, raw = before ++ (r ++ after) ++ comment ∧
    (∀ c ∈ before, isBlank c = true) ∧ (∀ c ∈ after, isBlank c = true) ∧
    comment.head?.all (· == '#') = true

/-- Lines that show rows one after another, with lines that show nothing anywhere. -/
inductive Spaced : List (List Char) → List (List Char) → Prop where
  | nil : Spaced [] []
  /-- The first line is blank but for a comment. -/
  | idle {rs ls : List (List Char)} {raw : List Char} (shows : Shows [] raw) (rest : Spaced rs ls) :
      Spaced rs (raw :: ls)
  /-- The first line shows the first row. -/
  | shown {rs ls : List (List Char)} {r raw : List Char} (shows : Shows r raw)
      (rest : Spaced rs ls) : Spaced (r :: rs) (raw :: ls)

/-- A row that a line can show: it is not blank at its ends and does not begin a comment. -/
structure Solid (r : List Char) : Prop where
  nonempty : r ≠ []
  /-- The blanks at the ends would be lost. -/
  trimmed : Trimmed r
  /-- What follows a number sign would be lost. -/
  plain : '#' ∉ r

theorem shows_row (raw : List Char) : Shows (row raw) raw := by
  obtain ⟨before, after, split, blank, blank'⟩ := exists_trim (stripComment raw)
  refine ⟨before, after, raw.dropWhile (· != '#'), ?_, blank, blank', ?_⟩
  · unfold row
    rw [← split, stripComment, List.takeWhile_append_dropWhile]
  · cases rest : raw.dropWhile (· != '#') with
    | nil => rfl
    | cons c comment =>
        have more : raw.dropWhile (· != '#') ≠ [] := by simp [rest]
        simpa [rest] using List.head_dropWhile_not (· != '#') more

theorem row_of_shows {r raw : List Char} (trimmed : Trimmed r) (plain : '#' ∉ r)
    (shows : Shows r raw) : row raw = r := by
  obtain ⟨before, after, comment, rfl, blank, blank', number⟩ := shows
  have noBlank : ∀ {s : List Char}, (∀ c ∈ s, isBlank c = true) → '#' ∉ s := fun h hc =>
    absurd (h _ hc) (by decide)
  have stripped : stripComment (before ++ (r ++ after) ++ comment) = before ++ (r ++ after) := by
    unfold stripComment
    rw [List.takeWhile_append_of_pos]
    · cases comment with
      | nil => simp
      | cons c comment => simp_all
    · intro c hc
      have other : c ≠ '#' := by
        rintro rfl
        simp [noBlank blank, noBlank blank', plain] at hc
      simpa using other
  unfold row
  rw [stripped, trim_append trimmed blank blank']

/-- **The lines that show given rows** are those that have them. The rows of a document are its
lines without comments and blanks, those aside that are empty then. -/
theorem spaced_iff {rs : List (List Char)} (solid : ∀ r ∈ rs, Solid r) (ls : List (List Char)) :
    Spaced rs ls ↔ rows ls = rs := by
  constructor
  · intro spaced
    induction spaced with
    | nil => rfl
    | idle shows _ ih =>
        have none := row_of_shows (r := []) ⟨rfl, rfl⟩ (by decide) shows
        rw [rows_cons_of_idle none, ih solid]
    | shown shows _ ih =>
        obtain ⟨here, solid⟩ := List.forall_mem_cons.mp solid
        have same := row_of_shows here.trimmed here.plain shows
        rw [rows_cons_of_shown (same ▸ here.nonempty), same, ih solid]
  · rintro rfl
    clear solid
    induction ls with
    | nil => exact .nil
    | cons raw ls ih =>
        by_cases empty : row raw = []
        · rw [rows_cons_of_idle empty]
          exact .idle (empty ▸ shows_row raw) ih
        · rw [rows_cons_of_shown empty]
          exact .shown (shows_row raw) ih

/-! ## Levels of rows -/

/-- From the level `base` the rows lead to the level `base'`, and none of them leads below the
bound. -/
def Walks (bound : Int) : Int → List (List Char) → Int → Prop
  | base, [], base' => base' = base
  | base, r :: rs, base' => bound ≤ base + balance r ∧ Walks bound (base + balance r) rs base'

theorem walks_append {bound base base' base'' : Int} {rs rs' : List (List Char)}
    (front : Walks bound base rs base') (back : Walks bound base' rs' base'') :
    Walks bound base (rs ++ rs') base'' := by
  induction rs generalizing base with
  | nil =>
      obtain rfl := front
      exact back
  | cons r rs ih => exact ⟨front.1, ih front.2⟩

theorem Walks.mono {bound bound' base base' : Int} {rs : List (List Char)}
    (walks : Walks bound base rs base') (less : bound' ≤ bound) : Walks bound' base rs base' := by
  induction rs generalizing base with
  | nil => exact walks
  | cons r rs ih => exact ⟨Int.le_trans less walks.1, ih walks.2⟩

theorem le_of_walks {bound base base' : Int} {rs : List (List Char)}
    (walks : Walks bound base rs base') (above : bound ≤ base) : bound ≤ base' := by
  induction rs generalizing base with
  | nil => exact walks ▸ above
  | cons r rs ih => exact ih walks.2 walks.1

theorem balance_of_idle {raw : List Char} (idle : row raw = []) :
    balance (stripComment raw) = 0 := by
  rw [← balance_row, idle]
  rfl

/-- What a line adds to a walk over rows. -/
theorem walks_cons {bound base base' : Int} {raw : List Char} {ls : List (List Char)}
    (walks : Walks bound base (rows (raw :: ls)) base') (above : bound ≤ base) :
    bound ≤ base + balance (stripComment raw) ∧
      Walks bound (base + balance (stripComment raw)) (rows ls) base' := by
  by_cases idle : row raw = []
  · rw [rows_cons_of_idle idle] at walks
    rw [balance_of_idle idle, Int.add_zero]
    exact ⟨above, walks⟩
  · rw [rows_cons_of_shown idle] at walks
    rw [← balance_row]
    exact walks

/-- Lines whose levels stay at the bound have rows that do so. -/
theorem walks_of_level {bound base : Int} {ls : List (List Char)}
    (stays : ∀ n ≤ ls.length, bound ≤ level base ls n) :
    Walks bound base (rows ls) (level base ls ls.length) := by
  induction ls generalizing base with
  | nil => exact level_zero base []
  | cons raw ls ih =>
      have rest := @ih (base + balance (stripComment raw)) fun n within => by
        rw [← level_cons_succ]
        exact stays (n + 1) (Nat.succ_le_succ within)
      rw [List.length_cons, level_cons_succ]
      by_cases idle : row raw = []
      · rw [rows_cons_of_idle idle]
        rwa [balance_of_idle idle, Int.add_zero] at rest ⊢
      · have first := stays 1 (by simp)
        rw [level_cons_succ, level_zero] at first
        rw [rows_cons_of_shown idle]
        unfold Walks
        rw [balance_row]
        exact ⟨first, rest⟩

/-- **A part of the document is not over while its rows stay at the bound.** -/
theorem through_append {bound base base' : Int} {front : List (List Char)}
    (walks : Walks bound base (rows front) base') (above : bound ≤ base) (back : List (List Char)) :
    through bound base (front ++ back) = front ++ through bound base' back := by
  induction front generalizing base with
  | nil =>
      obtain rfl : base' = base := walks
      rfl
  | cons raw front ih =>
      obtain ⟨stays, walks⟩ := walks_cons walks above
      rw [List.cons_append, through_cons, if_neg (by omega), ih walks stays, List.cons_append]

/-- **No section opens above the level of the system.** So the lines inside a section cannot open
another one, whatever they say. -/
theorem segmentsFrom_append {base base' : Int} {front : List (List Char)}
    (walks : Walks 2 base (rows front) base') (above : 2 ≤ base) (back : List (List Char)) :
    segmentsFrom base (front ++ back) = segmentsFrom base' back := by
  induction front generalizing base with
  | nil =>
      obtain rfl : base' = base := walks
      rfl
  | cons raw front ih =>
      obtain ⟨stays, walks⟩ := walks_cons walks above
      rw [List.cons_append, segmentsFrom_cons_of_none (if_neg (by omega)), ih walks stays]

/-- **A section is a segment**: it goes from its opening through the line that leads back to the level
of the system, and behind it the document goes on there. -/
theorem segmentsFrom_section {kind : SectionKind} {opener closer : List Char}
    {inner : List (List Char)} {depth : Int} (opens : sectionOpening? (row opener) = some kind)
    (walks : Walks 2 2 (rows inner) depth) (closes : depth + balance (stripComment closer) = 1)
    (rest : List (List Char)) :
    segmentsFrom 1 (opener :: (inner ++ closer :: rest)) =
      ⟨kind, opener :: (inner ++ [closer])⟩ :: segmentsFrom 1 rest := by
  have up : (1 : Int) + balance (stripComment opener) = 2 := by
    rw [← balance_row, balance_of_sectionOpening? opens]
    rfl
  have opening : (if (1 : Int) = 1 then sectionOpening? (row opener) else none) = some kind :=
    (if_pos rfl).trans opens
  have cut : through 2 1 (opener :: (inner ++ closer :: rest)) = opener :: (inner ++ [closer]) := by
    rw [through_cons, up, if_neg (by decide), through_append walks (by decide), through_cons, closes,
      if_pos (by decide)]
  have above : 2 ≤ depth := le_of_walks walks (by decide)
  rw [segmentsFrom_cons, opening, up, cut, segmentsFrom_append walks (by decide),
    segmentsFrom_cons_of_none (if_neg (by omega)), closes]
  rfl

/-- No section opens on a line that closes the system. -/
theorem segmentsFrom_closer {closer : List Char} (closes : 1 + balance (stripComment closer) ≤ 0) :
    segmentsFrom 1 [closer] = [] := by
  have plain : (if (1 : Int) = 1 then sectionOpening? (row closer) else none) = none := by
    rw [if_pos rfl]
    by_contra some
    obtain ⟨kind, opens⟩ := Option.ne_none_iff_exists'.mp some
    have up := balance_of_sectionOpening? opens
    rw [balance_row] at up
    omega
  rw [segmentsFrom_cons_of_none plain, segmentsFrom_nil]

/-- Lines without a row open no section. -/
theorem segmentsFrom_idle {idle : List (List Char)} (none : rows idle = []) (base : Int)
    (back : List (List Char)) : segmentsFrom base (idle ++ back) = segmentsFrom base back := by
  induction idle with
  | nil => rfl
  | cons raw idle ih =>
      obtain ⟨empty, none⟩ := List.forall_mem_cons.mp ((rows_eq_nil_iff _).mp none)
      have plain : (if base = 1 then sectionOpening? (row raw) else Option.none) = Option.none := by
        rw [empty]
        exact ite_self _
      rw [List.cons_append, segmentsFrom_cons_of_none plain, balance_of_idle empty, Int.add_zero,
        ih ((rows_eq_nil_iff _).mpr none)]

/-! ## Passes over rows -/

/-- A pass that looks at rows only, and on whose states a line without a row has no effect, passes
over the rows. -/
theorem foldl_rows {σ : Type} {f g : σ → List Char → σ} (Sound : σ → Prop)
    (reads : ∀ s raw, f s raw = g s (row raw)) (keeps : ∀ s r, Sound s → Sound (g s r))
    (idle : ∀ s, Sound s → g s [] = s) (ls : List (List Char)) {s : σ} (sound : Sound s) :
    ls.foldl f s = (rows ls).foldl g s := by
  induction ls generalizing s with
  | nil => rfl
  | cons raw ls ih =>
      rw [List.foldl_cons, reads]
      by_cases empty : row raw = []
      · rw [rows_cons_of_idle empty, empty, idle s sound, ih sound]
      · rw [rows_cons_of_shown empty, List.foldl_cons, ih (keeps s _ sound)]

end IntentSpec.Document
