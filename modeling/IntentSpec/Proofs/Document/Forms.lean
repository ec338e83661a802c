import IntentSpec.Proofs.Document.Opening

/-!
# The forms of headings and attributes

The rows that declare an entry or say something about one are described by the texts that have their form,
with everything that may vary: the blanks behind the keyword of a heading and around the colon of an
attribute, and what follows an identifier.

A statement about all documents, and not only about those that are laid out after an outline, needs to
know every row that a recogniser accepts.  The identifier in a heading goes on as far as it can, and
whatever follows it is not looked at, so a heading need not end in a brace.  The identifier of a
validation may have hyphens inside; those at its end are given back.

* `heading?_eq_some_iff`, `validationHeading?_eq_some_iff` — headings.
* `labelled?_eq_some_iff`, `severity?_eq_some_iff` — attributes with a value, and with an identifier.
* `hyphenated?_eq_some_iff`, `wholeIdentifier?_eq_some_iff` — the two kinds of identifiers.
-/

namespace IntentSpec.Document

open Text

/-! ## Identifiers -/

/-- What is left after the longest run of a class does not begin with the class. -/
theorem head?_dropWhile (p : Char → Bool) (s : List Char) : (s.dropWhile p).head?.any p = false := by
  have stops := List.head?_dropWhile_not p s
  cases behind : (s.dropWhile p).head? with
  | none => rfl
  | some c => simpa [behind] using stops

theorem identifier?_eq_some_iff (s id rest : List Char) :
    identifier? s = some (id, rest) ↔
      isIdentifier id = true ∧ rest.head?.any isAsciiWord = false ∧ s = id ++ rest := by
  constructor
  · intro found
    cases s with
    | nil => cases found
    | cons c s =>
        by_cases letter : isAsciiLetter c = true
        · rw [identifier?, if_pos letter] at found
          cases found
          have name : isIdentifier (c :: s.takeWhile isAsciiWord) = true := by
            rw [isIdentifier, letter, List.all_takeWhile]
            rfl
          refine ⟨name, head?_dropWhile isAsciiWord s, ?_⟩
          rw [List.cons_append, List.takeWhile_append_dropWhile]
        · rw [identifier?, if_neg letter] at found
          cases found
  · rintro ⟨name, stop, rfl⟩
    exact identifier?_append name stop

theorem wholeIdentifier?_eq_some_iff (s : List Char) (id : String) :
    wholeIdentifier? s = some id ↔ isIdentifier id.toList = true ∧ s = id.toList := by
  constructor
  · intro found
    unfold wholeIdentifier? at found
    split at found
    next name whole =>
      cases found
      obtain ⟨name, -, rfl⟩ := (identifier?_eq_some_iff ..).mp whole
      rw [String.toList_ofList, List.append_nil]
      exact ⟨name, rfl⟩
    next => cases found
  · rintro ⟨name, rfl⟩
    rw [wholeIdentifier?_of_name name, String.ofList_toList]

/-- A run is cut in front of the longest run of a class at its end. -/
theorem exists_reverse_dropWhile (p : Char → Bool) (s : List Char) :
    ∃ dropped, (∀ c ∈ dropped, p c = true) ∧ s = (s.reverse.dropWhile p).reverse ++ dropped := by
  refine ⟨(s.reverse.takeWhile p).reverse, fun c here => ?_, ?_⟩
  · exact List.all_eq_true.mp List.all_takeWhile c (List.mem_reverse.mp here)
  · rw [← List.reverse_append, List.takeWhile_append_dropWhile, List.reverse_reverse]

/-- A run of name characters behind a letter, without the hyphens at its end, is a name. -/
theorem isHyphenated_of_run {c : Char} (letter : isAsciiLetter c = true) {run : List Char}
    (names : ∀ d ∈ run, isNameChar d = true) :
    isHyphenated (c :: (run.reverse.dropWhile (· == '-')).reverse) = true := by
  have kept : ∀ d ∈ (run.reverse.dropWhile (· == '-')).reverse, isNameChar d = true := fun d here =>
    names d (List.mem_reverse.mp ((List.dropWhile_sublist _).subset (List.mem_reverse.mp here)))
  have last : (c :: (run.reverse.dropWhile (· == '-')).reverse).getLast?.any isAsciiWord = true := by
    have stop := head?_dropWhile (· == '-') run.reverse
    rw [List.getLast?_cons, List.getLast?_reverse]
    cases first : (run.reverse.dropWhile (· == '-')).head? with
    | none => exact isAsciiWord_of_isAsciiLetter letter
    | some d =>
        rw [first] at stop
        have other : (d == '-') = false := stop
        have name := kept d (List.mem_reverse.mpr (List.mem_of_mem_head? first))
        rw [isNameChar, other, Bool.or_false] at name
        exact name
  rw [isHyphenated, letter, List.all_eq_true.mpr kept, last]
  rfl

/-- A name with hyphens in it ends with a letter, a digit or an underscore; the hyphens behind it are left
out. -/
theorem hyphenated?_eq_some_iff (s id : List Char) :
    hyphenated? s = some id ↔ isHyphenated id = true ∧ ∃ hyphens rest,
      (∀ c ∈ hyphens, c = '-') ∧ rest.head?.any isNameChar = false ∧ s = id ++ (hyphens ++ rest) := by
  constructor
  · intro found
    cases s with
    | nil => cases found
    | cons c s =>
        by_cases letter : isAsciiLetter c = true
        · rw [hyphenated?, if_pos letter] at found
          cases found
          have names : ∀ d ∈ s.takeWhile isNameChar, isNameChar d = true :=
            List.all_eq_true.mp List.all_takeWhile
          obtain ⟨hyphens, dashes, split⟩ := exists_reverse_dropWhile (· == '-') (s.takeWhile isNameChar)
          refine ⟨isHyphenated_of_run letter names, hyphens, s.dropWhile isNameChar,
            fun d here => eq_of_beq (dashes d here), head?_dropWhile isNameChar s, ?_⟩
          show c :: s = c :: ((List.dropWhile (· == '-') (s.takeWhile isNameChar).reverse).reverse ++ _)
          rw [← List.append_assoc, ← split, List.takeWhile_append_dropWhile]
        · rw [hyphenated?, if_neg letter] at found
          cases found
  · rintro ⟨name, hyphens, rest, dashes, stop, rfl⟩
    have alone : hyphenated? (id ++ []) = some id := hyphenated?_append name rfl
    obtain ⟨c, s, rfl⟩ := List.exists_cons_of_ne_nil (nonempty_of_name name)
    have names : ∀ d ∈ s, isNameChar d = true := fun d here =>
      isNameChar_of_mem name (List.mem_cons_of_mem c here)
    have dashes' : ∀ d ∈ hyphens, isNameChar d = true := fun d here => by rw [dashes d here]; rfl
    have run : (s ++ (hyphens ++ rest)).takeWhile isNameChar = s ++ hyphens := by
      rw [← List.append_assoc]
      exact takeWhile_append_of_head? (List.forall_mem_append.mpr ⟨names, dashes'⟩) stop
    have run' : (s ++ []).takeWhile isNameChar = s := takeWhile_append_of_head? names rfl
    have dropped : (s ++ hyphens).reverse.dropWhile (· == '-') = s.reverse.dropWhile (· == '-') := by
      rw [List.reverse_append]
      refine List.dropWhile_append_of_pos fun d here => ?_
      exact beq_iff_eq.mpr (dashes d (List.mem_reverse.mp here))
    by_cases letter : isAsciiLetter c = true
    · rw [List.cons_append, hyphenated?, if_pos letter] at alone ⊢
      change some (c :: (((s ++ []).takeWhile isNameChar).reverse.dropWhile (· == '-')).reverse) = _
        at alone
      show some (c :: (((s ++ (hyphens ++ rest)).takeWhile isNameChar).reverse.dropWhile
        (· == '-')).reverse) = _
      rw [run'] at alone
      rw [run, dropped, alone]
    · rw [List.cons_append, hyphenated?, if_neg letter] at alone
      cases alone

/-! ## Headings -/

/-- An identifier does not begin with a blank. -/
theorem exists_cons_of_name {id : List Char} (name : isHyphenated id = true) :
    ∃ c rest, id = c :: rest ∧ isAsciiBlank c = false := by
  obtain ⟨c, rest, rfl⟩ := List.exists_cons_of_ne_nil (nonempty_of_name name)
  have visible := visible_of_isNameChar (isNameChar_of_mem name List.mem_cons_self)
  exact ⟨c, rest, rfl, isAsciiBlank_of_visible visible⟩

/-- A name stands behind a keyword and blanks. -/
theorem afterKeyword?_of_name {word : String} {gap id : List Char} (some : gap ≠ [])
    (blank : ∀ c ∈ gap, isAsciiBlank c = true) (name : isHyphenated id = true) (rest : List Char) :
    afterKeyword? word (word.toList ++ (gap ++ (id ++ rest))) = .some (id ++ rest) := by
  obtain ⟨c, id, rfl, solid⟩ := exists_cons_of_name name
  exact (afterKeyword?_eq_cons_iff solid _ _ _).mpr ⟨gap, some, blank, rfl⟩

theorem heading?_eq_some_iff (word : String) (r : List Char) (id : String) :
    heading? word r = some id ↔
      ∃ gap rest, gap ≠ [] ∧ (∀ c ∈ gap, isAsciiBlank c = true) ∧ isIdentifier id.toList = true ∧
        rest.head?.any isAsciiWord = false ∧ r = word.toList ++ (gap ++ (id.toList ++ rest)) := by
  constructor
  · intro found
    obtain ⟨behind, keyword, found⟩ := Option.bind_eq_some_iff.mp found
    obtain ⟨⟨name, rest⟩, first, found⟩ := Option.bind_eq_some_iff.mp found
    cases found
    obtain ⟨named, stop, rfl⟩ := (identifier?_eq_some_iff ..).mp first
    obtain ⟨c, name, rfl, solid⟩ := exists_cons_of_name (isHyphenated_of_isIdentifier named)
    obtain ⟨gap, some, blank, rfl⟩ := (afterKeyword?_eq_cons_iff solid _ _ _).mp keyword
    rw [String.toList_ofList]
    exact ⟨gap, rest, some, blank, named, stop, rfl⟩
  · rintro ⟨gap, rest, some, blank, name, stop, rfl⟩
    unfold heading?
    rw [afterKeyword?_of_name some blank (isHyphenated_of_isIdentifier name)]
    show (identifier? (id.toList ++ rest)).bind _ = _
    rw [identifier?_append name stop]
    exact congrArg Option.some String.ofList_toList

theorem validationHeading?_eq_some_iff (r : List Char) (id : String) :
    validationHeading? r = some id ↔
      ∃ gap hyphens rest, gap ≠ [] ∧ (∀ c ∈ gap, isAsciiBlank c = true) ∧ isHyphenated id.toList = true ∧
        (∀ c ∈ hyphens, c = '-') ∧ rest.head?.any isNameChar = false ∧
        r = "validate".toList ++ (gap ++ (id.toList ++ (hyphens ++ rest))) := by
  constructor
  · intro found
    obtain ⟨behind, keyword, found⟩ := Option.bind_eq_some_iff.mp found
    obtain ⟨name, first, found⟩ := Option.bind_eq_some_iff.mp found
    cases found
    obtain ⟨named, hyphens, rest, dashes, stop, rfl⟩ := (hyphenated?_eq_some_iff ..).mp first
    obtain ⟨c, name, rfl, solid⟩ := exists_cons_of_name named
    obtain ⟨gap, some, blank, rfl⟩ := (afterKeyword?_eq_cons_iff solid _ _ _).mp keyword
    rw [String.toList_ofList]
    exact ⟨gap, hyphens, rest, some, blank, named, dashes, stop, rfl⟩
  · rintro ⟨gap, hyphens, rest, some, blank, name, dashes, stop, rfl⟩
    unfold validationHeading?
    rw [afterKeyword?_of_name some blank name]
    show (hyphenated? (id.toList ++ (hyphens ++ rest))).bind _ = _
    rw [(hyphenated?_eq_some_iff ..).mpr ⟨name, hyphens, rest, dashes, stop, rfl⟩]
    exact congrArg Option.some String.ofList_toList

/-! ## Attributes -/

theorem labelled?_eq_some_iff (label : String) (r value : List Char) :
    labelled? label r = some value ↔
      ∃ gap gap', (∀ c ∈ gap, isAsciiBlank c = true) ∧ (∀ c ∈ gap', isAsciiBlank c = true) ∧
        value.head?.any (!isAsciiBlank ·) = true ∧
        r = label.toList ++ (gap ++ ':' :: (gap' ++ value)) := by
  constructor
  · intro labelled
    obtain ⟨behind, keyword, found⟩ := Option.bind_eq_some_iff.mp labelled
    split at found
    next rest colon =>
      obtain ⟨gap, blank, rfl⟩ := (skipAsciiBlanks_eq_cons_iff (by decide) _ _).mp colon
      obtain rfl := (dropWord?_eq_some_iff ..).mp keyword
      dsimp only at found
      split at found
      next => cases found
      next given =>
        cases found
        obtain ⟨c, value, split⟩ := List.exists_cons_of_ne_nil (by simpa using given)
        have solid := head?_dropWhile isAsciiBlank rest
        refine ⟨gap, rest.takeWhile isAsciiBlank, blank, List.all_eq_true.mp List.all_takeWhile, ?_, ?_⟩
        · change (skipAsciiBlanks rest).head?.any isAsciiBlank = false at solid
          rw [split] at solid ⊢
          simpa using solid
        · rw [skipAsciiBlanks, List.takeWhile_append_dropWhile]
    next => cases found
  · rintro ⟨gap, gap', blank, blank', solid, rfl⟩
    obtain ⟨c, value, rfl⟩ : ∃ c rest, value = c :: rest := by
      cases value with
      | nil => cases solid
      | cons c rest => exact ⟨c, rest, rfl⟩
    have solid' : isAsciiBlank c = false := by simpa using solid
    unfold labelled?
    rw [dropWord?_append, Option.bind_eq_bind, Option.bind_some,
      (skipAsciiBlanks_eq_cons_iff (by decide) _ _).mpr ⟨gap, blank, rfl⟩]
    show (if (skipAsciiBlanks (gap' ++ c :: value)).isEmpty = true then none
      else some (skipAsciiBlanks (gap' ++ c :: value))) = _
    rw [(skipAsciiBlanks_eq_cons_iff solid' _ _).mpr ⟨gap', blank', rfl⟩]
    rfl

theorem severity?_eq_some_iff (r : List Char) (id : String) :
    severity? r = some id ↔
      isIdentifier id.toList = true ∧ labelled? "severity" r = some id.toList := by
  unfold severity?
  rw [Option.bind_eq_bind, Option.bind_eq_some_iff]
  simp only [wholeIdentifier?_eq_some_iff]
  constructor
  · rintro ⟨value, labelled, name, rfl⟩
    exact ⟨name, labelled⟩
  · rintro ⟨name, labelled⟩
    exact ⟨_, labelled, name, rfl⟩

end IntentSpec.Document
