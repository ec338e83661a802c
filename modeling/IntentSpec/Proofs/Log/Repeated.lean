import IntentSpec.Proofs.Log.Form
import IntentSpec.Proofs.Log.Secret

/-!
# Masking again

Neither of the two searches leaves a secret of its form, and the search for user information makes no bearer
token: a mask is joined to the text around it in such a way that no secret begins in the one and goes on in
the other.  So a text that has been masked has no bearer token, and no user information but the mask, and
masking it again changes nothing.

* `beginsBearer_of_shown` — a bearer token in what a search shows begins where one begins in the text.
* `bearer_maskEach`, `bearer_maskEach_userInfo`, `userInfo_maskEach` — what the searches leave.
* `HasBearer`, `HasUserInfo`, `Clean` — secrets that stand in a text, and a text without any.
* `redactText_eq_self_iff` — masking changes nothing in a text exactly if it is clean.
* `redactFields_settled` — the same for events, at any depth.
-/

namespace IntentSpec.Log

open Text

/-! ## Bearer tokens in what is shown -/

section

variable {secret? : Recogniser} {letter : Char} {inWord inWord' : Bool} {s shown s' : List Char}

/-- What is shown begins with a character of a token only if the text does. -/
theorem Search.any_isTokenPart (headed : Headed secret? letter) (isLetter : isAsciiLetter letter = true)
    (search : Search secret? inWord s shown inWord' s') (first : shown.head?.any isTokenPart = true) :
    s.head?.any isTokenPart = true := by
  cases search with
  | here => cases first
  | pass none others => exact first
  | hide given found others =>
      obtain ⟨c, taken, -, -, split, -, rfl, -⟩ := headed _ _ _ found
      rw [isAsciiLetter_foldAscii] at isLetter
      simp [split, isTokenPart_of_isAsciiLetter isLetter]

/-- **A bearer token in what is shown begins where one begins in the text**, if no secret begins with a letter of
the word. -/
theorem beginsBearer_of_shown (headed : Headed secret? letter) (isLetter : isAsciiLetter letter = true)
    (other : letter ∉ ['e', 'a', 'r', 'e', 'r']) {c : Char} (search : Search secret? inWord s shown inWord' s')
    (begins : BeginsBearer (c :: shown)) : BeginsBearer (c :: s) := by
  obtain ⟨word, gap, d, rest, split, isWord, isGap, isPart⟩ := begins
  obtain ⟨c', word, rfl, isB, isTail⟩ := List.map_eq_cons_iff.mp isWord
  obtain ⟨rfl, isShown⟩ := List.cons.inj split
  obtain rfl : shown = word ++ gap ++ d :: rest := isShown.trans (List.append_assoc ..).symm
  have plain : ∀ e ∈ word ++ gap, foldAscii e ≠ letter := by
    intro e here
    rcases List.mem_append.mp here with here | here
    · rintro rfl
      exact other (isTail ▸ List.mem_map_of_mem here)
    · exact foldAscii_ne_of_isBlank (isGap.2 e here) isLetter
  obtain ⟨behind, rfl, continued⟩ := search.of_shown headed plain
  have first := continued.any_isTokenPart headed isLetter (by simpa using isPart)
  obtain ⟨e, behind, rfl⟩ : ∃ e tail, behind = e :: tail := by
    cases behind with
    | nil => cases first
    | cons e tail => exact ⟨e, tail, rfl⟩
  exact ⟨c :: word, gap, e, behind, by simp, isWord, isGap, by simpa using first⟩

end

/-! ## What the searches leave -/

/-- No bearer token begins here. -/
def NoBearer (s : List Char) : Prop := bearer? s = none

theorem noBearer_iff (s : List Char) : NoBearer s ↔ ¬ BeginsBearer s := bearer?_eq_none_iff s

/-- The mask of a bearer token is none. -/
theorem noBearer_bearerMask (s : List Char) : NoBearer (bearerMask ++ s) := by
  rw [noBearer_iff]
  rintro ⟨word, gap, c, rest, split, isWord, ⟨given, blank⟩, isPart⟩
  have sixLetters : word.length = 6 := by
    have lengths := congrArg List.length isWord
    rwa [List.length_map] at lengths
  have halves : bearerMask ++ s = ['B', 'e', 'a', 'r', 'e', 'r'] ++ (' ' :: '*' :: (mask.toList.tail ++ s)) := rfl
  rw [halves] at split
  obtain ⟨-, behind⟩ := List.append_inj split.symm (by rw [sixLetters]; rfl)
  obtain ⟨d, gap, rfl⟩ := List.exists_cons_of_ne_nil given
  obtain ⟨-, behind⟩ := List.cons.inj behind
  cases gap with
  | nil =>
      obtain ⟨rfl, -⟩ := List.cons.inj behind
      exact absurd isPart (by decide)
  | cons e gap =>
      obtain ⟨rfl, -⟩ := List.cons.inj behind
      exact absurd (blank '*' (by simp)) (by decide)

/-- **The search for bearer tokens leaves none.** What stands for a token has no character of a
token behind its blank, so it is none itself. -/
theorem bearer_maskEach (inWord : Bool) (s : List Char) :
    AtWordStarts NoBearer inWord (maskEach bearer? inWord 0 s) := by
  obtain ⟨inWord', search⟩ := search_maskEach headed_bearer inWord s
  generalize maskEach bearer? inWord 0 s = shown at search ⊢
  generalize atEnd : ([] : List Char) = s' at search
  induction search with
  | here =>
      intro before after split _
      obtain ⟨-, rfl⟩ := List.append_eq_nil_iff.mp split.symm
      exact headed_bearer.nil_eq_none
  | pass none others ih =>
      refine .cons (fun starts => ?_) (ih atEnd)
      rw [noBearer_iff]
      intro begins
      have token := beginsBearer_of_shown headed_bearer (by decide) (by decide) others begins
      exact (noBearer_iff _).mp (none starts) token
  | @hide inWord' taken masked s shown s' given found others ih =>
      obtain ⟨rfl, isBearer⟩ := isBearer_of_found found
      refine .append (fun before c after split _ => ?_) ?_
      · cases before with
        | nil =>
            rw [← List.nil_append (c :: after), ← split]
            exact noBearer_bearerMask shown
        | cons d before =>
            rw [bearerMask_eq] at split
            have here : c ∈ ['e', 'a', 'r', 'e', 'r', ' '] ++ mask.toList := by
              rw [(List.cons.inj split).2]
              exact List.mem_append_right _ List.mem_cons_self
            have all : ∀ c ∈ ['e', 'a', 'r', 'e', 'r', ' '] ++ mask.toList, foldAscii c ≠ 'b' :=
              forall_mem_of_all (by decide)
            exact headed_bearer.eq_none (all c here) _
      · have noWord : wordEnd false bearerMask = false := by decide +kernel
        rw [noWord]
        have behind : NoBearer shown := by
          cases reaches : wordEnd false taken with
          | false => exact (ih atEnd).front reaches
          | true =>
              have stops := isBearer.head?_of_wordEnd reaches
              rw [noBearer_iff]
              rintro ⟨word, gap, d, rest, rfl, isWord, -⟩
              obtain ⟨c, word, rfl, isB, -⟩ := List.map_eq_cons_iff.mp isWord
              have letter : isAsciiLetter c = true := by
                rw [← isAsciiLetter_foldAscii, isB]
                decide
              have first := others.any_isTokenPart headed_bearer (by decide)
                (by simp [isTokenPart_of_isAsciiLetter letter])
              rw [stops] at first
              cases first
        exact (ih atEnd).of_front behind

/-- What is shown of an address has no b in it. -/
theorem IsAddress.foldAscii_ne {taken masked : List Char} (isAddress : IsAddress taken masked) :
    ∀ c ∈ masked, foldAscii c ≠ 'b' := by
  obtain ⟨scheme, user, -, isScheme, -, rfl⟩ := isAddress
  obtain ⟨c, behind, rfl, first, others⟩ := isScheme.split
  intro d here
  rcases List.mem_append.mp here with here | here
  · rcases List.mem_cons.mp here with rfl | here
    · rw [first]
      decide
    · exact foldAscii_ne_of_scheme (others d here) (by decide)
  · have all : ∀ d ∈ marks ++ (mask.toList ++ ['@']), foldAscii d ≠ 'b' := forall_mem_of_all (by decide)
    exact all d here

/-- Behind its first letter, what is shown of an address has no h in it. -/
theorem IsAddress.tail_ne {taken masked : List Char} (isAddress : IsAddress taken masked) :
    ∀ c ∈ masked.tail, foldAscii c ≠ 'h' := by
  obtain ⟨scheme, user, -, isScheme, -, rfl⟩ := isAddress
  obtain ⟨c, behind, rfl, -⟩ := isScheme.split
  rw [List.cons_append, List.tail_cons, ← List.append_assoc]
  exact List.forall_mem_append.mpr ⟨isScheme.tail_ne, forall_mem_of_all (by decide)⟩

/-- No word reaches up to the end of an address, or of what is shown of it. -/
theorem IsAddress.wordEnd {taken masked : List Char} (isAddress : IsAddress taken masked) (inWord : Bool) :
    Log.wordEnd inWord taken = false ∧ Log.wordEnd inWord masked = false := by
  obtain ⟨scheme, user, rfl, -, -, rfl⟩ := isAddress
  simp only [← List.append_assoc]
  exact ⟨wordEnd_sign inWord _, wordEnd_sign inWord _⟩

/-- **The search for user information makes no bearer token.** So the second search does not undo
what the first one has done. -/
theorem bearer_maskEach_userInfo {inWord : Bool} {s : List Char} (free : AtWordStarts NoBearer inWord s) :
    AtWordStarts NoBearer inWord (maskEach userInfo? inWord 0 s) := by
  obtain ⟨inWord', search⟩ := search_maskEach headed_userInfo inWord s
  generalize maskEach userInfo? inWord 0 s = shown at search ⊢
  generalize atEnd : ([] : List Char) = s' at search
  induction search with
  | here => exact atEnd ▸ free
  | pass none others ih =>
      refine .cons (fun starts => ?_) (ih (free.behind (s := [_])) atEnd)
      rw [noBearer_iff]
      intro begins
      have token := beginsBearer_of_shown headed_userInfo (by decide) (by decide) others begins
      exact (noBearer_iff _).mp (free.front starts) token
  | hide given found others ih =>
      have isAddress := isAddress_of_found found
      refine .append (fun before c after split _ => ?_) ?_
      · have here : c ∈ before ++ c :: after := List.mem_append_right before List.mem_cons_self
        exact headed_bearer.eq_none (isAddress.foldAscii_ne c (split ▸ here)) _
      · have behind := ih free.behind atEnd
        rw [(isAddress.wordEnd false).1] at behind
        rwa [(isAddress.wordEnd false).2]

/-- User information in what is shown stands in the text as well: a mask has a slash before the at sign. -/
theorem of_shown_user {user rest : List Char} (isUser : ∀ c ∈ user, isUserPart c = true) {inWord inWord' : Bool}
    {s s' : List Char} (search : Search userInfo? inWord s (user ++ '@' :: rest) inWord' s') :
    ∃ behind, s = user ++ '@' :: behind := by
  induction user generalizing inWord s with
  | nil =>
      obtain ⟨behind, split, -⟩ := search.of_shown headed_userInfo
        (forall_mem_of_all (by decide) : ∀ c ∈ ['@'], foldAscii c ≠ 'h')
      exact ⟨behind, split⟩
  | cons c user ih =>
      obtain ⟨-, others⟩ := List.forall_mem_cons.mp isUser
      generalize same : c :: user ++ '@' :: rest = shown at search
      cases search with
      | here => cases same
      | pass none continued =>
          obtain ⟨rfl, rfl⟩ := List.cons.inj same
          obtain ⟨behind, rfl⟩ := ih others continued
          exact ⟨behind, rfl⟩
      | @hide _ _ _ _ shown _ given found continued =>
          obtain ⟨scheme, masked, -, isScheme, -, rfl⟩ := isAddress_of_found found
          -- Behind the longest run of characters of user information stands an at sign, and a slash.
          have sign : (c :: user ++ '@' :: rest).dropWhile isUserPart = '@' :: rest :=
            (dropWhile_eq_iff ..).mpr ⟨_, rfl, isUser, rfl⟩
          rw [same] at sign
          have inside : ∀ d ∈ scheme ++ [':'], isUserPart d = true :=
            List.forall_mem_append.mpr ⟨isScheme.isUserPart, forall_mem_of_all (by decide)⟩
          have slash : (scheme ++ (marks ++ (mask.toList ++ ['@'])) ++ shown).dropWhile isUserPart =
              '/' :: '/' :: (mask.toList ++ ['@'] ++ shown) :=
            (dropWhile_eq_iff ..).mpr ⟨scheme ++ [':'], by simp [marks], inside, rfl⟩
          exact absurd (List.cons.inj (sign.symm.trans slash)).1 (by decide)

/-- What is recognised here as user information is shown as it is. -/
def ShownAsIs (s : List Char) : Prop := ∀ shown rest, userInfo? s = some (shown, rest) → shown ++ rest = s

/-- **The search for user information leaves nothing but the mask.** -/
theorem userInfo_maskEach (inWord : Bool) (s : List Char) :
    AtWordStarts ShownAsIs inWord (maskEach userInfo? inWord 0 s) := by
  obtain ⟨inWord', search⟩ := search_maskEach headed_userInfo inWord s
  generalize maskEach userInfo? inWord 0 s = shown at search ⊢
  generalize atEnd : ([] : List Char) = s' at search
  induction search with
  | here =>
      intro before after split _ shown rest found
      obtain ⟨-, rfl⟩ := List.append_eq_nil_iff.mp split.symm
      rw [headed_userInfo.nil_eq_none] at found
      cases found
  | @pass inWord inWord' c s shown s' none others ih =>
      refine .cons (fun starts masked rest found => ?_) (ih atEnd)
      -- What is recognised in what is shown would have been recognised in the text.
      exfalso
      obtain ⟨scheme, user, split, isScheme, isUser, -⟩ := (userInfo?_eq_some_iff ..).mp found
      obtain ⟨d, scheme, rfl, -⟩ := isScheme.split
      obtain ⟨rfl, isShown⟩ := List.cons.inj split
      obtain rfl : shown = scheme ++ marks ++ (user ++ '@' :: rest) := isShown.trans (List.append_assoc ..).symm
      obtain ⟨behind, rfl, continued⟩ := others.of_shown headed_userInfo isScheme.tail_ne
      obtain ⟨behind, rfl⟩ := of_shown_user isUser.2 continued
      have recognised := (userInfo?_eq_some_iff _ _ behind).mpr ⟨c :: scheme, user, rfl, isScheme, isUser, rfl⟩
      rw [List.append_assoc, ← List.cons_append] at none
      cases (none starts).symm.trans recognised
  | @hide inWord' taken masked s shown s' given found others ih =>
      have isAddress := isAddress_of_found found
      refine .append (fun before c after split _ => ?_) ?_
      · cases before with
        | nil =>
            rw [← List.nil_append (c :: after), ← split]
            obtain ⟨scheme, user, -, isScheme, -, rfl⟩ := isAddress
            have isUser : IsUser mask.toList := ⟨by decide, forall_mem_of_all (by decide)⟩
            have again : userInfo? (scheme ++ (marks ++ (mask.toList ++ ['@'])) ++ shown) =
                some (scheme ++ (marks ++ (mask.toList ++ ['@'])), shown) :=
              (userInfo?_eq_some_iff ..).mpr ⟨scheme, mask.toList, by simp, isScheme, isUser, rfl⟩
            intro masked rest found
            rw [again] at found
            cases found
            rfl
        | cons d before =>
            have here : c ∈ masked.tail := by
              rw [split]
              exact List.mem_append_right before List.mem_cons_self
            intro masked rest found
            rw [List.cons_append, headed_userInfo.eq_none (isAddress.tail_ne c here) (after ++ shown)] at found
            cases found
      · have behind := ih atEnd
        rw [(isAddress.wordEnd false).1] at behind
        rwa [(isAddress.wordEnd false).2]

/-! ## Texts -/

/-- A bearer token stands in a text, at the beginning of a word. -/
def HasBearer (text : String) : Prop :=
  ∃ before after, text.toList = before ++ after ∧ wordEnd false before = false ∧ BeginsBearer after

/-- A web address with user information stands in a text, at the beginning of a word. -/
def HasUserInfo (text user : String) : Prop :=
  ∃ before scheme rest, text.toList = before ++ (scheme ++ (marks ++ (user.toList ++ '@' :: rest))) ∧
    wordEnd false before = false ∧ IsScheme scheme ∧ IsUser user.toList

/-- A text has no bearer token, and no user information but the mask. -/
structure Clean (text : String) : Prop where
  bearer : ¬ HasBearer text
  /-- User information in it is the mask. -/
  user : ∀ user, HasUserInfo text user → user = mask

/-- **A masked text is clean.** -/
theorem redactText_clean (s : String) : Clean (redactText s) := by
  have noBearer := bearer_maskEach_userInfo (bearer_maskEach false s.toList)
  have shown := userInfo_maskEach false (maskEach bearer? false 0 s.toList)
  constructor
  · rintro ⟨before, after, split, starts, begins⟩
    rw [redactText, String.toList_ofList] at split
    exact (noBearer_iff after).mp (noBearer before after split starts) begins
  · rintro user ⟨before, scheme, rest, split, starts, isScheme, isUser⟩
    rw [redactText, String.toList_ofList] at split
    have recognised := (userInfo?_eq_some_iff _ _ rest).mpr ⟨scheme, user.toList, rfl, isScheme, isUser, rfl⟩
    have same := shown before _ split starts _ _ recognised
    simp only [List.append_assoc] at same
    have masked : mask.toList ++ ('@' :: rest) = user.toList ++ '@' :: rest :=
      List.append_cancel_left (List.append_cancel_left same)
    exact String.toList_inj.mp (List.append_cancel_right masked).symm

/-- **Masking changes nothing in a text exactly if it is clean.** -/
theorem redactText_eq_self_iff (s : String) : redactText s = s ↔ Clean s := by
  constructor
  · intro same
    exact same ▸ redactText_clean s
  · intro clean
    have noBearer : maskEach bearer? false 0 s.toList = s.toList := by
      refine maskEach_eq_self headed_bearer fun before after split starts masked rest found => ?_
      have begins : BeginsBearer after := (bearer?_isSome_iff after).mp (by rw [found]; rfl)
      exact absurd ⟨before, after, split, starts, begins⟩ clean.bearer
    have onlyMask : maskEach userInfo? false 0 s.toList = s.toList := by
      refine maskEach_eq_self headed_userInfo fun before after split starts masked rest found => ?_
      obtain ⟨scheme, user, rfl, isScheme, isUser, rfl⟩ := (userInfo?_eq_some_iff ..).mp found
      have isMask := clean.user (String.ofList user) ⟨before, scheme, rest, by rw [String.toList_ofList, split], starts,
        isScheme, by rwa [String.toList_ofList]⟩
      rw [← isMask, String.toList_ofList]
      simp only [List.append_assoc, List.singleton_append]
    rw [redactText, noBearer, onlyMask, String.ofList_toList]

/-- **Masking a text again changes nothing**, since a masked text is clean and a clean text stays as
it is. -/
theorem redactText_redactText (s : String) : redactText (redactText s) = redactText s :=
  (redactText_eq_self_iff _).mpr (redactText_clean s)

theorem redactText_mask : redactText mask = mask := by decide +kernel

/-! ## Events -/

mutual

/-- **Masking a value again changes nothing.** -/
theorem masked_masked : ∀ d : Datum, masked (masked d) = masked d
  | .text s => congrArg Datum.text (redactText_redactText s)
  | .list items | .tuple items => congrArg Datum.list (maskedItems_maskedItems items)
  | .mapping entries => congrArg Datum.mapping (maskedEntries_maskedEntries entries)
  | .null | .bool _ | .int _ | .number _ | .bytes _ | .moment _ | .record _ _ => rfl

theorem maskedItems_maskedItems : ∀ items : List Datum, maskedItems (maskedItems items) = maskedItems items
  | [] => rfl
  | item :: items => by
      rw [maskedItems, maskedItems, masked_masked item, maskedItems_maskedItems items]

theorem maskedEntries_maskedEntries :
    ∀ entries : List (Datum × Datum), maskedEntries (maskedEntries entries) = maskedEntries entries
  | [] => rfl
  | (key, value) :: entries => by
      rw [maskedEntries, maskedEntries, maskedEntries_maskedEntries entries]
      by_cases sensitive : isSensitive key.label = true
      · rw [if_pos sensitive, if_pos sensitive]
      · rw [if_neg sensitive, if_neg sensitive, masked_masked value]

end

mutual

/-- Masking comes to the same keys again. -/
theorem Legible.masked : ∀ {d : Datum}, Legible d → Legible (masked d)
  | .list _, legible | .tuple _, legible => LegibleItems.masked legible
  | .mapping _, legible => LegibleEntries.masked legible
  | .null, _ | .bool _, _ | .int _, _ | .number _, _ | .text _, _ | .bytes _, _ | .moment _, _ | .record _ _, _ =>
      trivial

theorem LegibleItems.masked : ∀ {items : List Datum}, LegibleItems items → LegibleItems (maskedItems items)
  | [], _ => trivial
  | _ :: _, ⟨first, others⟩ => ⟨first.masked, others.masked⟩

theorem LegibleEntries.masked : ∀ {entries : List (Datum × Datum)}, LegibleEntries entries →
    LegibleEntries (maskedEntries entries)
  | [], _ => trivial
  | (key, value) :: _, ⟨⟨written, value_legible⟩, others⟩ => by
      rw [maskedEntries, LegibleEntries]
      refine ⟨⟨written, ?_⟩, others.masked⟩
      by_cases sensitive : isSensitive key.label = true
      · exact .inl sensitive
      · rw [if_neg sensitive]
        exact .inr (value_legible.resolve_left sensitive).masked

end

/-- The text at a place, which is given by the positions that lead to it. -/
def textAt? : List Nat → Datum → Option String
  | [], .text s => some s
  | [], _ => none
  | n :: place, d => (child? n d).bind fun child => textAt? place child.2

/-- All texts in a masked value have been masked. -/
theorem exists_of_textAt?_masked {place : List Nat} {d : Datum} {text : String}
    (found : textAt? place (masked d) = some text) : ∃ s, text = redactText s := by
  induction place generalizing d with
  | nil =>
      cases d with
      | text s => exact ⟨s, (Option.some.inj found).symm⟩
      | _ => cases found
  | cons n place ih =>
      rw [textAt?, child?_masked] at found
      obtain ⟨child, here, found⟩ := Option.bind_eq_some_iff.mp found
      obtain ⟨⟨key, value⟩, -, rfl⟩ := Option.map_eq_some_iff.mp here
      unfold maskedChild at found
      split at found
      next =>
        cases place with
        | nil => exact ⟨mask, by rw [redactText_mask]; exact (Option.some.inj found).symm⟩
        | cons n place => cases found
      next => exact ih found

theorem maskedField_maskedField (field : String × Datum) : maskedField (maskedField field) = maskedField field := by
  by_cases sensitive : isSensitive field.1 = true
  · simp only [maskedField, sensitive, if_true]
  · simp only [maskedField, if_neg sensitive, masked_masked]

theorem LegibleFields.masked {fields : List (String × Datum)} (legible : LegibleFields fields) :
    LegibleFields (fields.map maskedField) := by
  refine List.forall_mem_map.mpr fun field here => ?_
  by_cases sensitive : isSensitive field.1 = true
  · exact .inl sensitive
  · refine .inr ?_
    rw [maskedField, if_neg sensitive]
    exact ((legible field here).resolve_left sensitive).masked

/-- **Masking settles an event**: masking it again changes nothing, and no text in it, at any depth, has a bearer
token, or user information but the mask.  There is a masked event exactly if the keys that tell the secrets can be
written, and masking comes to the same keys the second time, so it does not fail on what it has made itself. -/
theorem redactFields_settled (fields : List (String × Datum)) :
    ((∃ shown, redactFields fields = .ok shown) ↔ LegibleFields fields) ∧
      ∀ shown, redactFields fields = .ok shown →
        redactFields shown = .ok shown ∧
          ∀ place text, textAt? place (.object shown) = some text → Clean text := by
  refine ⟨(gives_redactFields fields).exists_ok_iff, fun shown returns => ?_⟩
  obtain ⟨legible, rfl⟩ := (gives_redactFields fields).eq_ok_iff.mp returns
  constructor
  · rw [(gives_redactFields _).ok legible.masked, List.map_map]
    exact congrArg Except.ok (List.map_congr_left fun field _ => maskedField_maskedField field)
  · intro place text found
    rw [← masked_object] at found
    obtain ⟨s, rfl⟩ := exists_of_textAt?_masked found
    exact redactText_clean s

end IntentSpec.Log
