import IntentSpec.Proofs.Document.Recognise
import IntentSpec.Proofs.Text.Pieces

/-!
# What is read off a well-formed line

For each form of line it is said here what the recognisers read off a line of that form: the name in
a heading, the value of an attribute, and what stands in a quoted text or in a bracketed list.

These lemmas go from what was written to what is read, for lines as an outline writes them.  The full
description of the lines that a recogniser accepts, with every variation of blanks, is that of the
module on the forms of lines; for a line that an outline writes, the direct computation is shorter than
finding the parts that the description asks for.

* `heading?_append`, `validationHeading?_append` — headings.
* `labelled?_append` — attributes.
* `bracketList_listed`, `quotedOrBare_quoted` — the two forms of values.
* `systemName?_append` — the opening of the system, and `systemName?_of_notMem` — lines without one.
-/

namespace IntentSpec.Document

open Text

/-! ## Headings -/

theorem afterKeyword?_append (word : String) {s : List Char}
    (solid : s.head?.all (!isAsciiBlank ·) = true) :
    afterKeyword? word (word.toList ++ ' ' :: s) = some s := by
  unfold afterKeyword?
  rw [dropWord?_append]
  show some (skipAsciiBlanks s) = some s
  rw [skipAsciiBlanks, dropWhile_of_head? solid]

theorem takeWhile_append_of_head? {p : Char → Bool} {front rest : List Char}
    (run : ∀ c ∈ front, p c = true) (stop : rest.head?.any p = false) :
    (front ++ rest).takeWhile p = front := by
  rw [List.takeWhile_append_of_pos run]
  cases rest with
  | nil => simp
  | cons c rest => rw [List.takeWhile_cons_of_neg (by simpa using stop), List.append_nil]

theorem identifier?_append {id rest : List Char} (name : isIdentifier id = true)
    (stop : rest.head?.any isAsciiWord = false) : identifier? (id ++ rest) = some (id, rest) := by
  cases id with
  | nil => exact absurd name (by decide)
  | cons c s =>
      obtain ⟨letter, words⟩ : isAsciiLetter c = true ∧ ∀ d ∈ s, isAsciiWord d = true := by
        simpa [isIdentifier] using name
      have stop' : rest.head?.all (!isAsciiWord ·) = true := by
        cases rest with
        | nil => rfl
        | cons d rest => simpa using stop
      rw [List.cons_append, identifier?, if_pos letter, takeWhile_append_of_head? words stop,
        List.dropWhile_append_of_pos words, dropWhile_of_head? stop']

theorem hyphenated?_append {id rest : List Char} (name : isHyphenated id = true)
    (stop : rest.head?.any isNameChar = false) : hyphenated? (id ++ rest) = some id := by
  cases id with
  | nil => exact absurd name (by decide)
  | cons c s =>
      obtain ⟨⟨letter, names⟩, last⟩ :
          (isAsciiLetter c = true ∧ ∀ d ∈ s, isNameChar d = true) ∧
            (c :: s).getLast?.any isAsciiWord = true := by
        simpa only [isHyphenated, Bool.and_eq_true, List.all_eq_true] using name
      have run : (s ++ rest).takeWhile (fun d => isAsciiWord d || d == '-') = s :=
        takeWhile_append_of_head? names stop
      have kept : (s.reverse.dropWhile (· == '-')).reverse = s := by
        rw [dropWhile_of_head?, List.reverse_reverse]
        rw [List.head?_reverse]
        cases end' : s.getLast? with
        | none => rfl
        | some d =>
            have word : isAsciiWord d = true := by
              simpa [List.getLast?_cons, end'] using last
            have other : d ≠ '-' := by
              rintro rfl
              exact absurd word (by decide)
            simpa using other
      rw [List.cons_append, hyphenated?, if_pos letter]
      dsimp only
      rw [run, kept]

theorem head?_append_of_name {id : List Char} (name : isHyphenated id = true) (rest : List Char) :
    (id ++ rest).head?.all (!isAsciiBlank ·) = true := by
  cases id with
  | nil => exact absurd name (by decide)
  | cons c s =>
      have visible := visible_of_isNameChar (isNameChar_of_mem name List.mem_cons_self)
      simpa using isAsciiBlank_of_visible visible

theorem heading?_append (word : String) {id rest : List Char} (name : isIdentifier id = true)
    (stop : rest.head?.any isAsciiWord = false) :
    heading? word (word.toList ++ ' ' :: (id ++ rest)) = some (String.ofList id) := by
  unfold heading?
  rw [afterKeyword?_append word (head?_append_of_name (isHyphenated_of_isIdentifier name) rest)]
  show (identifier? (id ++ rest)).bind _ = _
  rw [identifier?_append name stop]
  rfl

theorem validationHeading?_append {id rest : List Char} (name : isHyphenated id = true)
    (stop : rest.head?.any isNameChar = false) :
    validationHeading? ("validate".toList ++ ' ' :: (id ++ rest)) = some (String.ofList id) := by
  unfold validationHeading?
  rw [afterKeyword?_append "validate" (head?_append_of_name name rest)]
  show (hyphenated? (id ++ rest)).bind _ = _
  rw [hyphenated?_append name stop]
  rfl

theorem wholeIdentifier?_of_name {id : List Char} (name : isIdentifier id = true) :
    wholeIdentifier? id = some (String.ofList id) := by
  have whole : identifier? (id ++ []) = some (id, []) := identifier?_append name rfl
  rw [List.append_nil] at whole
  unfold wholeIdentifier?
  rw [whole]

/-! ## Attributes -/

theorem labelled?_append (label : String) {value : List Char}
    (solid : value.head?.any (!isAsciiBlank ·) = true) :
    labelled? label (label.toList ++ (": ".toList ++ value)) = some value := by
  obtain ⟨c, value, rfl⟩ : ∃ c rest, value = c :: rest := by
    cases value with
    | nil => exact absurd solid (by decide)
    | cons c rest => exact ⟨c, rest, rfl⟩
  have first : (c :: value).head?.all (!isAsciiBlank ·) = true := solid
  unfold labelled?
  rw [dropWord?_append]
  show (if (skipAsciiBlanks (c :: value)).isEmpty then none
    else some (skipAsciiBlanks (c :: value))) = _
  rw [skipAsciiBlanks, dropWhile_of_head? first]
  rfl

/-! ## Quoted texts -/

theorem cutFirst?_append {mark : Char} {front : List Char} (new : mark ∉ front)
    (rest : List Char) : cutFirst? mark (front ++ mark :: rest) = some (front, rest) := by
  induction front with
  | nil => simp [cutFirst?]
  | cons c front ih =>
      obtain ⟨other, new⟩ := not_or.mp (mt List.mem_cons.mpr new)
      rw [List.cons_append, cutFirst?, if_neg (Ne.symm other), ih new]
      rfl

theorem quotedFront?_append {inner : List Char} (nonempty : inner ≠ []) (plain : '"' ∉ inner)
    (rest : List Char) : quotedFront? ('"' :: (inner ++ '"' :: rest)) = some (inner, rest) := by
  rw [quotedFront?, cutFirst?_append plain]
  simp [nonempty]

theorem quotedOrBare_quoted {inner : List Char} (nonempty : inner ≠ []) (plain : '"' ∉ inner)
    (trimmed : trim inner = inner) :
    quotedOrBare ('"' :: (inner ++ ['"'])) = some (String.ofList inner) := by
  have whole : trim ('"' :: (inner ++ ['"'])) = '"' :: (inner ++ ['"']) :=
    trim_of_trimmed ⟨rfl, by rw [← List.cons_append, List.getLast?_concat]; rfl⟩
  have bare : unquote '"' ('"' :: (inner ++ ['"'])) = some inner := by
    rw [unquote, if_pos rfl, cutFirst?_append plain]
    simp [nonempty]
  unfold quotedOrBare
  dsimp only
  rw [whole, bare]
  simp [trimmed, nonempty]

theorem predicateText?_quoted {inner : List Char} (nonempty : inner ≠ []) (plain : '"' ∉ inner) :
    Predicate.predicateText? ("predicate".toList ++ (": ".toList ++ '"' :: (inner ++ ['"']))) =
      some (String.ofList inner) := by
  unfold Predicate.predicateText?
  rw [dropWord?_append]
  show (quotedFront? ('"' :: (inner ++ ['"']))).bind _ = _
  rw [quotedFront?_append nonempty plain]
  rfl

/-! ## Lists -/

theorem cutLast?_concat (mark : Char) (s : List Char) :
    cutLast? mark (s ++ [mark]) = some (s, []) := by
  induction s with
  | nil => simp [cutLast?]
  | cons c s ih => rw [List.cons_append, cutLast?, ih]

/-- A text without quotes around it stays as it is. -/
theorem unwrap_of_head? {mark : Char} {s : List Char} (other : s.head? ≠ some mark) :
    unwrap mark s = s := by
  unfold unwrap
  split
  next c d rest =>
    rw [if_neg]
    rintro ⟨rfl, -⟩
    exact other rfl
  next => rfl

/-- The names in a list, with a comma and a space between them. -/
def listed (names : List (List Char)) : List Char := ", ".toList.intercalate names

theorem listed_cons_cons (x y : List Char) (xs : List (List Char)) :
    listed (x :: y :: xs) = x ++ ',' :: ' ' :: listed (y :: xs) := by
  simp [listed, List.intercalate_cons_cons]

theorem nonempty_of_name {s : List Char} (name : isHyphenated s = true) : s ≠ [] := by
  rintro rfl
  exact absurd name (by decide)

theorem trimmed_append {s s' : List Char} (first : Trimmed s) (last : Trimmed s') (some : s ≠ [])
    (some' : s' ≠ []) (between : List Char) : Trimmed (s ++ (between ++ s')) := by
  obtain ⟨c, s, rfl⟩ := List.exists_cons_of_ne_nil some
  refine ⟨first.1, ?_⟩
  have same : (c :: s ++ (between ++ s')).getLast? = s'.getLast? := by
    rw [← List.append_assoc, List.getLast?_append, List.getLast?_eq_some_getLast some',
      Option.some_or]
  rw [same]
  exact last.2

theorem listed_solid {x : List Char} {xs : List (List Char)}
    (names : ∀ y ∈ x :: xs, isHyphenated y = true) :
    Trimmed (listed (x :: xs)) ∧ listed (x :: xs) ≠ [] := by
  have name := names x List.mem_cons_self
  induction xs generalizing x with
  | nil =>
      rw [listed, List.intercalate_singleton]
      exact ⟨trimmed_of_name name, nonempty_of_name name⟩
  | cons y xs ih =>
      obtain ⟨trimmed, some⟩ := ih (fun z hz => names z (List.mem_cons_of_mem _ hz))
        (names y (List.mem_cons_of_mem _ List.mem_cons_self))
      rw [listed_cons_cons]
      refine ⟨?_, by simp⟩
      exact trimmed_append (trimmed_of_name name) trimmed (nonempty_of_name name) some [',', ' ']

theorem notMem_listed {names : List (List Char)} (all : ∀ y ∈ names, isHyphenated y = true)
    {c : Char} (other : isNameChar c = false) (apart : c ≠ ',' ∧ c ≠ ' ') : c ∉ listed names := by
  induction names with
  | nil => simp [listed]
  | cons x xs ih =>
      have first := notMem_of_name (all x List.mem_cons_self) other
      have rest := ih fun y hy => all y (List.mem_cons_of_mem _ hy)
      cases xs with
      | nil =>
          rw [listed, List.intercalate_singleton]
          exact first
      | cons y xs =>
          rw [listed_cons_cons]
          simp [first, rest, apart]

/-- The pieces between the commas of a list. -/
theorem splitAt_listed {before x : List Char} {xs : List (List Char)}
    (names : ∀ y ∈ x :: xs, isHyphenated y = true) (new : ',' ∉ before) :
    splitAt ',' (before ++ listed (x :: xs)) = (before ++ x) :: xs.map (' ' :: ·) := by
  have new' : ',' ∉ before ++ x := fun here => by
    rcases List.mem_append.mp here with hb | hx
    · exact new hb
    · exact notMem_of_name (names x List.mem_cons_self) (by decide) hx
  induction xs generalizing before x with
  | nil => rw [listed, List.intercalate_singleton, splitAt_of_notMem new', List.map_nil]
  | cons y xs ih =>
      have later : ∀ z ∈ y :: xs, isHyphenated z = true := fun z hz =>
        names z (List.mem_cons_of_mem _ hz)
      have blank : ',' ∉ ' ' :: y := fun here => by
        rcases List.mem_cons.mp here with same | hy
        · exact absurd same (by decide)
        · exact notMem_of_name (later y List.mem_cons_self) (by decide) hy
      have rest : splitAt ',' (' ' :: listed (y :: xs)) = (' ' :: y) :: xs.map (' ' :: ·) :=
        @ih [' '] y later (by decide) blank
      rw [listed_cons_cons, ← List.append_assoc, splitAt_append new', rest, List.map_cons]

/-- What a piece of a list stands for. -/
theorem item_of_name {before y : List Char} (blank : ∀ c ∈ before, isBlank c = true)
    (name : isHyphenated y = true) :
    (if (trim (before ++ y)).isEmpty then none
      else some (String.ofList (unwrap '\'' (unwrap '"' (trim (before ++ y)))))) =
    some (String.ofList y) := by
  have plain : ∀ mark, isNameChar mark = false → y.head? ≠ some mark :=
    fun mark other first => notMem_of_name name other (List.mem_of_head? first)
  have bare : trim (before ++ y) = y := by
    have only := trim_append (trimmed_of_name name) blank
      (List.forall_mem_nil _)
    rwa [List.append_nil] at only
  rw [bare, unwrap_of_head? (plain '"' (by decide)), unwrap_of_head? (plain '\'' (by decide)),
    if_neg (by simpa using nonempty_of_name name)]

theorem filterMap_pieces {f : List Char → Option String}
    (item : ∀ before y, (∀ c ∈ before, isBlank c = true) → isHyphenated y = true →
      f (before ++ y) = some (String.ofList y))
    {x : List Char} {xs : List (List Char)} (all : ∀ y ∈ x :: xs, isHyphenated y = true) :
    (x :: xs.map (' ' :: ·)).filterMap f = (x :: xs).map String.ofList := by
  have first : f x = some (String.ofList x) :=
    item [] x (List.forall_mem_nil _) (all x List.mem_cons_self)
  have rest : (xs.map (' ' :: ·)).filterMap f = xs.map String.ofList := by
    have names : ∀ y ∈ xs, isHyphenated y = true := fun y hy => all y (List.mem_cons_of_mem _ hy)
    clear all
    induction xs with
    | nil => rfl
    | cons y xs ih =>
        obtain ⟨name, names⟩ := List.forall_mem_cons.mp names
        have next : f (' ' :: y) = some (String.ofList y) :=
          item [' '] y (List.forall_mem_singleton.mpr rfl) name
        rw [List.map_cons, List.filterMap_cons_some next, ih names, List.map_cons]
  rw [List.filterMap_cons_some first, rest, List.map_cons]

/-- **A bracketed list holds the names between its commas.** Names have neither blanks at their ends
nor quotes around them, so nothing is taken off them. -/
theorem bracketList_listed {names : List (List Char)} (all : ∀ y ∈ names, isHyphenated y = true) :
    bracketList ('[' :: (listed names ++ [']'])) = names.map String.ofList := by
  have line : (listed names ++ [']']).takeWhile (· != '\n') = listed names ++ [']'] := by
    rw [List.takeWhile_append_of_pos]
    · rfl
    · intro c hc
      have other : c ≠ '\n' := by
        rintro rfl
        exact notMem_listed all (by decide) (by decide) hc
      simpa using other
  have inner : bracketed? ('[' :: (listed names ++ [']'])) = some (listed names) := by
    rw [bracketed?, if_pos rfl, line, cutLast?_concat]
  unfold bracketList
  rw [inner]
  dsimp only
  cases names with
  | nil => rfl
  | cons x xs =>
      obtain ⟨trimmed, -⟩ := listed_solid all
      have pieces : splitAt ',' (listed (x :: xs)) = x :: xs.map (' ' :: ·) :=
        @splitAt_listed [] x xs all (by decide)
      rw [trim_of_trimmed trimmed, pieces]
      exact filterMap_pieces (fun _ _ => item_of_name) all

/-! ## The opening of the system -/

theorem systemOpening?_append {name : List Char} (nonempty : name ≠ []) (plain : '"' ∉ name)
    (rest : List Char) :
    systemOpening? ("system".toList ++ ' ' :: '"' :: (name ++ '"' :: ' ' :: '\x7b' :: rest)) =
      some name := by
  unfold systemOpening?
  rw [afterKeyword?_append "system" rfl]
  show (quotedFront? _).bind _ = _
  rw [quotedFront?_append nonempty plain]
  rfl

theorem prefix_of_systemOpening? {s : List Char} (opens : (systemOpening? s).isSome = true) :
    "system".toList <+: s := by
  unfold systemOpening? afterKeyword? at opens
  cases found : dropWord? "system".toList s with
  | none =>
      rw [found] at opens
      exact absurd opens (by decide)
  | some rest => exact ⟨rest, ((dropWord?_eq_some_iff _ _ _).mp found).symm⟩

/-- A line without the letter y does not open the system. -/
theorem systemName?_of_notMem {s : List Char} (without : 'y' ∉ s) (inWord : Bool) :
    systemName? inWord s = none := by
  induction s generalizing inWord with
  | nil => rfl
  | cons c s ih =>
      have closed : systemOpening? (c :: s) = none := by
        cases opens : systemOpening? (c :: s) with
        | none => rfl
        | some name =>
            have word := prefix_of_systemOpening? (by rw [opens]; rfl)
            exact absurd (word.subset (by decide)) without
      unfold systemName?
      rw [closed, ite_self]
      exact ih (fun here => without (List.mem_cons_of_mem _ here)) _

/-- Blanks in front of the opening of the system are passed over. -/
theorem systemName?_append {before s name : List Char} (blank : ∀ c ∈ before, isBlank c = true)
    (opens : systemOpening? s = some name) : systemName? false (before ++ s) = some name := by
  induction before with
  | nil =>
      cases s with
      | nil => exact absurd (show none = some name from opens) (by simp)
      | cons c s =>
          rw [List.nil_append, systemName?, if_neg (by decide), opens]
  | cons c before ih =>
      obtain ⟨first, blank⟩ := List.forall_mem_cons.mp blank
      have other : isAsciiWord c = false := by
        by_contra word
        have range := toNat_of_isAsciiWord (by simpa using word)
        rw [isBlank_of_visible (by omega)] at first
        exact absurd first (by decide)
      have closed : systemOpening? (c :: (before ++ s)) = none := by
        cases found : systemOpening? (c :: (before ++ s)) with
        | none => rfl
        | some name =>
            obtain ⟨rest, split⟩ := prefix_of_systemOpening? (by rw [found]; rfl)
            obtain ⟨rfl, -⟩ := List.cons.inj split
            exact absurd other (by decide)
      rw [List.cons_append, systemName?, closed, ite_self, other]
      exact ih blank

end IntentSpec.Document
