import IntentSpec.Proofs.Document.Forms
import IntentSpec.Proofs.Log.Search
import IntentSpec.Proofs.Rule.Signal

/-!
# The two forms of secrets in a text

A bearer token is the word, blanks, the characters of the token and the equals signs after it; it goes on as
far as it can.  The user information of a web address stands between the scheme and an at sign, and has none
in it.  Here the texts that are recognised at the front of a text are described by these parts.

Both forms are recognised without looking at case.  For the scheme this lets in one letter beyond ASCII, the
long s, which is an s when case is ignored, and the descriptions say so (`IsLetterS`).

What stands behind a text takes no form away from its front, and a form that ends within the text is
recognised without what stands behind it (`Local`).  The two begin with different letters (`headed_bearer`, `headed_userInfo`), so at no place can both be
recognised.

* `bearer?_eq_some_iff`, `bearer?_isSome_iff` — bearer tokens, and whether there is one.
* `userInfo?_eq_some_iff` — user information.
-/

namespace IntentSpec.Log

open Text Document Leak

/-! ## Characters -/

/-- What can be decided of every character can be decided of those of a text. -/
theorem forall_mem_of_all {P : Char → Prop} [DecidablePred P] {s : List Char}
    (holds : (s.all fun c => decide (P c)) = true) : ∀ c ∈ s, P c := fun c here =>
  of_decide_eq_true (List.all_eq_true.mp holds c here)

theorem isAsciiLetter_foldAscii (c : Char) : isAsciiLetter (foldAscii c) = isAsciiLetter c :=
  member_foldAscii (b := true) (fun _ letter => letter) c

theorem isBlank_of_isAsciiLetter {c : Char} (letter : isAsciiLetter c = true) : isBlank c = false := by
  have range := toNat_of_isAsciiLetter letter
  exact isBlank_of_visible (by omega)

theorem isTokenPart_of_isAsciiLetter {c : Char} (letter : isAsciiLetter c = true) : isTokenPart c = true := by
  simp [isTokenPart, isAsciiWord_of_isAsciiLetter letter]

theorem isBlank_of_isTokenPart {c : Char} (part : isTokenPart c = true) : isBlank c = false := by
  have kinds : (isAsciiWord c = true ∨ c = '.' ∨ c = '~' ∨ c = '+' ∨ c = '/' ∨ c = '-') ∨
      c.toNat = 0x130 ∨ c.toNat = 0x131 ∨ c.toNat = 0x17f ∨ c.toNat = 0x212a := by
    simpa [isTokenPart, letterVariants] using part
  rcases kinds with (word | rfl | rfl | rfl | rfl | rfl) | variant
  · have range := toNat_of_isAsciiWord word
    exact isBlank_of_visible (by omega)
  · decide
  · decide
  · decide
  · decide
  · decide
  · simp only [isBlank, inIntervals, blankIntervals, List.any_cons, List.any_nil, Bool.or_false,
      Bool.or_eq_false_iff, Bool.and_eq_false_iff, decide_eq_false_iff_not]
    omega

/-- A blank is no letter in either case. -/
theorem foldAscii_ne_of_isBlank {c letter : Char} (blank : isBlank c = true)
    (isLetter : isAsciiLetter letter = true) : foldAscii c ≠ letter := by
  rintro rfl
  rw [isAsciiLetter_foldAscii] at isLetter
  rw [isBlank_of_isAsciiLetter isLetter] at blank
  cases blank

theorem dropFolded?_eq_some_iff (word s rest : List Char) :
    dropFolded? word s = some rest ↔ ∃ front, s = front ++ rest ∧ front.map foldAscii = word := by
  induction word generalizing s with
  | nil => simp [dropFolded?, eq_comm]
  | cons w word ih =>
      cases s with
      | nil => simp [dropFolded?]
      | cons c s =>
          unfold dropFolded?
          by_cases same : w = foldAscii c
          · rw [if_pos (by simpa using same), ih]
            constructor
            · rintro ⟨front, rfl, folded⟩
              exact ⟨c :: front, rfl, by rw [List.map_cons, folded, same]⟩
            · rintro ⟨front, split, folded⟩
              obtain ⟨d, front, rfl, -, folded⟩ := List.map_eq_cons_iff.mp folded
              exact ⟨front, (List.cons.inj split).2, folded⟩
          · rw [if_neg (by simpa using same)]
            refine iff_of_false (by simp) ?_
            rintro ⟨front, split, folded⟩
            obtain ⟨d, front, rfl, isFolded, -⟩ := List.map_eq_cons_iff.mp folded
            obtain ⟨rfl, -⟩ := List.cons.inj split
            exact same isFolded.symm

/-- What is left after the longest run of a class. -/
theorem dropWhile_eq_iff (p : Char → Bool) (s rest : List Char) :
    s.dropWhile p = rest ↔ ∃ run, s = run ++ rest ∧ (∀ c ∈ run, p c = true) ∧ rest.head?.any p = false := by
  constructor
  · rintro rfl
    exact ⟨s.takeWhile p, List.takeWhile_append_dropWhile.symm, List.all_eq_true.mp List.all_takeWhile,
      head?_dropWhile p s⟩
  · rintro ⟨run, rfl, inside, stops⟩
    rw [List.dropWhile_append_of_pos inside]
    cases rest with
    | nil => rfl
    | cons c rest => exact List.dropWhile_cons_of_neg (by simpa using stops)

/-! ## Bearer tokens -/

/-- The text that stands for a bearer token. -/
def bearerMask : List Char := ("Bearer " ++ mask).toList

theorem bearerMask_eq : bearerMask = 'B' :: (['e', 'a', 'r', 'e', 'r', ' '] ++ mask.toList) := rfl

/-- The word of bearer tokens, in any case. -/
def IsBearerWord (word : List Char) : Prop := word.map foldAscii = ['b', 'e', 'a', 'r', 'e', 'r']

/-- Blanks, at least one. -/
def IsGap (gap : List Char) : Prop := gap ≠ [] ∧ ∀ c ∈ gap, isBlank c = true

/-- A text is a bearer token that ends before another text: the token goes on as far as it can, and so do the
equals signs after it. -/
def IsBearer (taken rest : List Char) : Prop :=
  ∃ word gap token signs, taken = word ++ (gap ++ (token ++ signs)) ∧ IsBearerWord word ∧ IsGap gap ∧
    (token ≠ [] ∧ ∀ c ∈ token, isTokenPart c = true) ∧ (signs ++ rest).head?.any isTokenPart = false ∧
    (∀ c ∈ signs, (c == '=') = true) ∧ rest.head?.any (· == '=') = false

theorem bearer?_eq_some_iff (s shown rest : List Char) :
    bearer? s = some (shown, rest) ↔ shown = bearerMask ∧ ∃ taken, s = taken ++ rest ∧ IsBearer taken rest := by
  unfold bearer?
  simp only [bind, Option.bind_eq_some_iff]
  constructor
  · rintro ⟨afterWord, dropped, found⟩
    obtain ⟨word, rfl, isWord⟩ := (dropFolded?_eq_some_iff ..).mp dropped
    obtain ⟨gap, gapSplit, blank, -⟩ := (dropWhile_eq_iff isBlank afterWord _).mp rfl
    obtain ⟨token, tokenSplit, part, stops⟩ :=
      (dropWhile_eq_iff isTokenPart (afterWord.dropWhile isBlank) _).mp rfl
    obtain ⟨signs, signsSplit, sign, ends⟩ :=
      (dropWhile_eq_iff (· == '=') ((afterWord.dropWhile isBlank).dropWhile isTokenPart) _).mp rfl
    split at found
    next => cases found
    next shorter =>
      split at found
      next => cases found
      next isPart =>
        cases found
        have isGap : gap ≠ [] := by
          rintro rfl
          exact shorter (congrArg List.length gapSplit).symm
        have given : token ≠ [] := by
          rintro rfl
          rw [List.nil_append] at tokenSplit
          rw [← tokenSplit] at stops
          simp [stops] at isPart
        rw [signsSplit] at stops
        refine ⟨rfl, word ++ (gap ++ (token ++ signs)), ?_, word, gap, token, signs, rfl, isWord, ⟨isGap, blank⟩,
          ⟨given, part⟩, stops, sign, ends⟩
        rw [List.append_assoc, List.append_assoc, List.append_assoc, ← signsSplit, ← tokenSplit, ← gapSplit]
  · rintro ⟨rfl, taken, rfl, word, gap, token, signs, rfl, isWord, ⟨isGap, blank⟩, ⟨given, part⟩, stops, sign,
      ends⟩
    refine ⟨gap ++ (token ++ (signs ++ rest)),
      (dropFolded?_eq_some_iff ..).mpr ⟨word, by simp only [List.append_assoc], isWord⟩, ?_⟩
    obtain ⟨c, token, rfl⟩ := List.exists_cons_of_ne_nil given
    have first : isTokenPart c = true := part c List.mem_cons_self
    have afterGap : (gap ++ (c :: token ++ (signs ++ rest))).dropWhile isBlank = c :: token ++ (signs ++ rest) :=
      (dropWhile_eq_iff ..).mpr ⟨gap, rfl, blank, by simp [isBlank_of_isTokenPart first]⟩
    have afterToken : (c :: token ++ (signs ++ rest)).dropWhile isTokenPart = signs ++ rest :=
      (dropWhile_eq_iff ..).mpr ⟨_, rfl, part, stops⟩
    have afterSigns : (signs ++ rest).dropWhile (· == '=') = rest := (dropWhile_eq_iff ..).mpr ⟨_, rfl, sign, ends⟩
    have shorter : (c :: token ++ (signs ++ rest)).length ≠ (gap ++ (c :: token ++ (signs ++ rest))).length := by
      have positive := List.length_pos_of_ne_nil isGap
      rw [@List.length_append _ gap]
      omega
    rw [afterGap, if_neg shorter, if_neg (by simp [first]), afterToken, afterSigns]
    rfl

theorem isBearer_of_found {taken masked rest : List Char} (found : bearer? (taken ++ rest) = some (masked, rest)) :
    masked = bearerMask ∧ IsBearer taken rest := by
  obtain ⟨rfl, taken', split, isBearer⟩ := (bearer?_eq_some_iff ..).mp found
  exact ⟨rfl, List.append_cancel_right split ▸ isBearer⟩

theorem headed_bearer : Headed bearer? 'b' := by
  intro s shown rest found
  obtain ⟨rfl, taken, rfl, word, gap, token, signs, rfl, isWord, -⟩ := (bearer?_eq_some_iff ..).mp found
  obtain ⟨c, word, rfl, isLetter, -⟩ := List.map_eq_cons_iff.mp isWord
  exact ⟨c, word ++ (gap ++ (token ++ signs)), 'B', _, by simp, bearerMask_eq, isLetter, by decide⟩

/-- Where a word reaches up to the end of a bearer token, the token has no equals sign behind it, and so it goes
on as far as it can. -/
theorem IsBearer.head?_of_wordEnd {taken rest : List Char} (isBearer : IsBearer taken rest)
    (reaches : wordEnd false taken = true) : rest.head?.any isTokenPart = false := by
  obtain ⟨word, gap, token, signs, rfl, -, -, -, stops, sign, -⟩ := isBearer
  rcases List.eq_nil_or_concat signs with rfl | ⟨signs, c, rfl⟩
  · exact stops
  · obtain rfl : c = '=' := by simpa using sign c (by simp)
    simp only [List.concat_eq_append, wordEnd_append, wordEnd_cons, wordEnd_nil] at reaches
    exact absurd reaches (by decide +kernel)

/-- A text begins with a bearer token. -/
def BeginsBearer (s : List Char) : Prop :=
  ∃ word gap c rest, s = word ++ (gap ++ c :: rest) ∧ IsBearerWord word ∧ IsGap gap ∧ isTokenPart c = true

theorem bearer?_isSome_iff (s : List Char) : (bearer? s).isSome = true ↔ BeginsBearer s := by
  constructor
  · intro found
    obtain ⟨⟨shown, rest⟩, found⟩ := Option.isSome_iff_exists.mp found
    obtain ⟨-, taken, rfl, word, gap, token, signs, rfl, isWord, isGap, ⟨given, part⟩, -⟩ :=
      (bearer?_eq_some_iff ..).mp found
    obtain ⟨c, token, rfl⟩ := List.exists_cons_of_ne_nil given
    exact ⟨word, gap, c, token ++ (signs ++ rest), by simp, isWord, isGap, part c List.mem_cons_self⟩
  · rintro ⟨word, gap, c, rest, rfl, isWord, isGap, isPart⟩
    obtain ⟨token, tokenSplit, part, stops⟩ := (dropWhile_eq_iff isTokenPart rest _).mp rfl
    obtain ⟨signs, signsSplit, sign, ends⟩ := (dropWhile_eq_iff (· == '=') (rest.dropWhile isTokenPart) _).mp rfl
    rw [signsSplit] at stops
    refine Option.isSome_iff_exists.mpr ⟨_, (bearer?_eq_some_iff ..).mpr ⟨rfl, _, ?_, word, gap, c :: token, signs,
      rfl, isWord, isGap, ⟨List.cons_ne_nil c token, List.forall_mem_cons.mpr ⟨isPart, part⟩⟩, stops, sign, ends⟩⟩
    rw [List.append_assoc, List.append_assoc, List.append_assoc, ← signsSplit, List.cons_append, ← tokenSplit]

theorem bearer?_eq_none_iff (s : List Char) : bearer? s = none ↔ ¬ BeginsBearer s := by
  rw [← bearer?_isSome_iff, Bool.not_eq_true, Option.isSome_eq_false_iff, Option.isNone_iff_eq_none]

theorem BeginsBearer.append {s : List Char} (begins : BeginsBearer s) (rest : List Char) :
    BeginsBearer (s ++ rest) := by
  obtain ⟨word, gap, c, behind, rfl, isWord, isGap, isPart⟩ := begins
  exact ⟨word, gap, c, behind ++ rest, by simp, isWord, isGap, isPart⟩

theorem local_bearer : Local bearer? where
  found taken s rest masked found := by
    have front {p : Char → Bool} (s : List Char) (stops : (s ++ rest).head?.any p = false) :
        s.head?.any p = false := by
      cases s with
      | nil => rfl
      | cons c s => exact stops
    obtain ⟨rfl, word, gap, token, signs, rfl, isWord, isGap, isToken, stops, sign, ends⟩ := isBearer_of_found found
    rw [← List.append_assoc] at stops
    exact (bearer?_eq_some_iff ..).mpr ⟨rfl, _, rfl, word, gap, token, signs, rfl, isWord, isGap, isToken,
      front (signs ++ s) stops, sign, front s ends⟩
  none s rest none := by
    rw [bearer?_eq_none_iff] at none ⊢
    exact fun begins => none (begins.append rest)

/-! ## User information -/

/-- At most one letter s, in any case.  The long s counts as one. -/
def IsLetterS (letter : List Char) : Prop := letter = [] ∨ ∃ c, letter = [c] ∧ (foldAscii c = 's' ∨ c.toNat = 0x17f)

/-- The scheme of a web address, in any case. -/
def IsScheme (scheme : List Char) : Prop :=
  ∃ front letter, scheme = front ++ letter ∧ front.map foldAscii = ['h', 't', 't', 'p'] ∧ IsLetterS letter

/-- The marks between a scheme and what follows it. -/
def marks : List Char := [':', '/', '/']

/-- The first letter of a scheme, and those behind it. -/
theorem IsScheme.split {scheme : List Char} (isScheme : IsScheme scheme) :
    ∃ c behind, scheme = c :: behind ∧ foldAscii c = 'h' ∧
      ∀ d ∈ behind, foldAscii d ∈ ['t', 'p', 's'] ∨ d = 'ſ' := by
  obtain ⟨front, letter, rfl, isHttp, isS⟩ := isScheme
  obtain ⟨c, front, rfl, isLetter, others⟩ := List.map_eq_cons_iff.mp isHttp
  refine ⟨c, front ++ letter, rfl, isLetter, fun d here => ?_⟩
  rcases List.mem_append.mp here with here | here
  · have folded : foldAscii d ∈ ['t', 't', 'p'] := others ▸ List.mem_map_of_mem here
    exact .inl (by revert folded; generalize foldAscii d = e; simp; tauto)
  · rcases isS with rfl | ⟨e, rfl, isS | isS⟩
    · cases here
    · obtain rfl := List.mem_singleton.mp here
      exact .inl (by simp [isS])
    · obtain rfl := List.mem_singleton.mp here
      exact .inr (Char.toNat_inj.mp isS)

/-- The letters of a scheme behind the first one are not another one like it. -/
theorem foldAscii_ne_of_scheme {d : Char} (isPart : foldAscii d ∈ ['t', 'p', 's'] ∨ d = 'ſ') {letter : Char}
    (other : letter ∉ ['t', 'p', 's', 'ſ']) : foldAscii d ≠ letter := by
  rintro rfl
  rcases isPart with isPart | rfl
  · simp at isPart other
    tauto
  · exact other (by decide)

/-- What holds of letters and of the long s holds of the characters of a scheme. -/
theorem IsScheme.forall_mem {scheme : List Char} (isScheme : IsScheme scheme) {P : Char → Prop}
    (letter : ∀ d, isAsciiLetter d = true → P d) (long : P 'ſ') : ∀ d ∈ scheme, P d := by
  obtain ⟨c, behind, rfl, first, others⟩ := isScheme.split
  have folded {d : Char} (isLetter : isAsciiLetter (foldAscii d) = true) : P d :=
    letter d (isAsciiLetter_foldAscii d ▸ isLetter)
  refine List.forall_mem_cons.mpr ⟨folded (first ▸ by decide), fun d here => ?_⟩
  rcases others d here with isPart | rfl
  · refine folded ?_
    revert isPart
    generalize foldAscii d = e
    simp only [List.mem_cons, List.not_mem_nil, or_false]
    rintro (rfl | rfl | rfl) <;> decide
  · exact long

theorem IsScheme.isUserPart {scheme : List Char} (isScheme : IsScheme scheme) :
    ∀ d ∈ scheme, isUserPart d = true := by
  refine isScheme.forall_mem (fun d letter => ?_) (by decide)
  have slash : d ≠ '/' := by rintro rfl; exact absurd letter (by decide)
  have sign : d ≠ '@' := by rintro rfl; exact absurd letter (by decide)
  simp [Log.isUserPart, slash, sign, isBlank_of_isAsciiLetter letter]

/-- Behind its first letter, an address has no such letter up to its user information. -/
theorem IsScheme.tail_ne {c : Char} {behind : List Char} (isScheme : IsScheme (c :: behind)) :
    ∀ d ∈ behind ++ marks, foldAscii d ≠ 'h' := by
  obtain ⟨c', behind', same, -, others⟩ := isScheme.split
  obtain ⟨rfl, rfl⟩ := List.cons.inj same
  exact List.forall_mem_append.mpr ⟨fun d here => foldAscii_ne_of_scheme (others d here) (by decide), forall_mem_of_all (by decide)⟩

/-- A text can be user information. -/
def IsUser (user : List Char) : Prop := user ≠ [] ∧ ∀ c ∈ user, isUserPart c = true

theorem dropLetterS_split (s : List Char) : ∃ letter, s = letter ++ dropLetterS s ∧ IsLetterS letter := by
  cases s with
  | nil => exact ⟨[], rfl, .inl rfl⟩
  | cons c s =>
      by_cases isS : (foldAscii c == 's' || c.toNat == 0x17f) = true
      · rw [dropLetterS, if_pos isS]
        exact ⟨[c], rfl, .inr ⟨c, rfl, by simpa using isS⟩⟩
      · rw [dropLetterS, if_neg isS]
        exact ⟨[], rfl, .inl rfl⟩

theorem dropLetterS_append {letter : List Char} (isS : IsLetterS letter) (rest : List Char) :
    dropLetterS (letter ++ (marks ++ rest)) = marks ++ rest := by
  rcases isS with rfl | ⟨c, rfl, isS⟩
  · rfl
  · rw [List.singleton_append, dropLetterS, if_pos (by simpa using isS)]

theorem userInfo?_eq_some_iff (s shown rest : List Char) :
    userInfo? s = some (shown, rest) ↔ ∃ scheme user, s = scheme ++ (marks ++ (user ++ '@' :: rest)) ∧
      IsScheme scheme ∧ IsUser user ∧ shown = scheme ++ (marks ++ (mask.toList ++ ['@'])) := by
  unfold userInfo?
  simp only [bind, Option.bind_eq_some_iff]
  constructor
  · rintro ⟨afterHttp, dropped, user, afterMarks, found⟩
    obtain ⟨front, rfl, isHttp⟩ := (dropFolded?_eq_some_iff ..).mp dropped
    obtain ⟨letter, letterSplit, isS⟩ := dropLetterS_split afterHttp
    have split : front ++ afterHttp = front ++ letter ++ marks ++ user := by
      rw [letterSplit, (dropWord?_eq_some_iff ..).mp afterMarks]
      simp [marks]
    split at found
    next c run rest' isRun isRest =>
      have whole := List.takeWhile_append_dropWhile (p := isUserPart) (l := user)
      rw [isRun, isRest] at whole
      cases found
      have inside : ∀ d ∈ c :: run, isUserPart d = true := isRun ▸ List.all_eq_true.mp List.all_takeWhile
      refine ⟨front ++ letter, c :: run, ?_, ⟨front, letter, rfl, isHttp, isS⟩, ⟨List.cons_ne_nil c run, inside⟩, ?_⟩
      · rw [split, ← whole]
        simp only [List.append_assoc]
      · rw [split, @List.length_append _ _ user, Nat.add_sub_cancel, List.take_left]
        simp only [List.append_assoc]
    next => cases found
  · rintro ⟨scheme, user, rfl, ⟨front, letter, rfl, isHttp, isS⟩, ⟨given, inside⟩, rfl⟩
    refine ⟨letter ++ (marks ++ (user ++ '@' :: rest)),
      (dropFolded?_eq_some_iff ..).mpr ⟨front, by simp only [List.append_assoc], isHttp⟩, user ++ '@' :: rest,
      by rw [dropLetterS_append isS]; exact dropWord?_append _ _, ?_⟩
    have after : (user ++ '@' :: rest).dropWhile isUserPart = '@' :: rest :=
      (dropWhile_eq_iff ..).mpr ⟨user, rfl, inside, rfl⟩
    have before : (user ++ '@' :: rest).takeWhile isUserPart = user := by
      have whole := List.takeWhile_append_dropWhile (p := isUserPart) (l := user ++ '@' :: rest)
      rw [after] at whole
      exact List.append_cancel_right whole
    obtain ⟨c, run, rfl⟩ := List.exists_cons_of_ne_nil given
    have front_ : front ++ letter ++ (marks ++ (c :: run ++ '@' :: rest)) =
        front ++ letter ++ marks ++ (c :: run ++ '@' :: rest) := by
      simp only [List.append_assoc]
    rw [before, after, front_, @List.length_append _ _ (c :: run ++ '@' :: rest), Nat.add_sub_cancel, List.take_left]
    simp only [List.append_assoc]

/-- A text is a web address up to its user information, and this is what is shown of it. -/
def IsAddress (taken masked : List Char) : Prop :=
  ∃ scheme user, taken = scheme ++ (marks ++ (user ++ ['@'])) ∧ IsScheme scheme ∧ IsUser user ∧
    masked = scheme ++ (marks ++ (mask.toList ++ ['@']))

/-- No word reaches up to the end of a text that ends in an at sign. -/
theorem wordEnd_sign (inWord : Bool) (s : List Char) : wordEnd inWord (s ++ ['@']) = false := by
  have sign : isWordPart '@' = false := by decide +kernel
  rw [wordEnd_append, wordEnd_cons, wordEnd_nil, sign]

theorem isAddress_of_found {taken masked rest : List Char}
    (found : userInfo? (taken ++ rest) = some (masked, rest)) : IsAddress taken masked := by
  obtain ⟨scheme, user, split, isScheme, isUser, rfl⟩ := (userInfo?_eq_some_iff ..).mp found
  have whole : taken ++ rest = scheme ++ (marks ++ (user ++ ['@'])) ++ rest := by simp [split]
  exact ⟨scheme, user, List.append_cancel_right whole, isScheme, isUser, rfl⟩

theorem headed_userInfo : Headed userInfo? 'h' := by
  intro s shown rest found
  obtain ⟨scheme, user, rfl, isScheme, -, rfl⟩ := (userInfo?_eq_some_iff ..).mp found
  obtain ⟨c, behind, rfl, isLetter, -⟩ := isScheme.split
  exact ⟨c, behind ++ (marks ++ (user ++ ['@'])), c, _, by simp, rfl, isLetter, isLetter⟩

theorem IsAddress.found {taken masked : List Char} (isAddress : IsAddress taken masked) (rest : List Char) :
    userInfo? (taken ++ rest) = some (masked, rest) := by
  obtain ⟨scheme, user, rfl, isScheme, isUser, rfl⟩ := isAddress
  exact (userInfo?_eq_some_iff ..).mpr ⟨scheme, user, by simp, isScheme, isUser, rfl⟩

theorem local_userInfo : Local userInfo? where
  found taken s rest masked found := (isAddress_of_found found).found s
  none s rest none := by
    cases found : userInfo? s with
    | none => rfl
    | some result =>
        obtain ⟨scheme, user, rfl, isScheme, isUser, -⟩ := (userInfo?_eq_some_iff _ result.1 result.2).mp found
        have more := (userInfo?_eq_some_iff _ _ (result.2 ++ rest)).mpr
          ⟨scheme, user, rfl, isScheme, isUser, rfl⟩
        simp only [List.append_assoc, List.cons_append] at none
        cases none.symm.trans more

end IntentSpec.Log
