import IntentSpec.Predicate.Params
import IntentSpec.Proofs.Document.Opening
import IntentSpec.Proofs.Document.Table
import IntentSpec.Proofs.Text.Lines

/-!
# Which parameters a predicate gives

The words of a predicate are the capability and one word for each parameter: a key, an equals sign, and
a value, which may hold equals signs of its own and may be empty.  The words are looked at one after
another, so the first one that is of another form is the one that is reported.  A key that is given more
than once keeps its first place and takes its last value.

* `Params.GivesPair`, `Params.pairOf` — the words that give a parameter, and what they give.
* `Params.LastWins` — what parameters are in terms of the pairs that were given.
* `Params.Refused` — the reasons for which a predicate gives no parameters.
* `Params.ofPredicate_lastWins` — all of this together, and that a predicate that is laid out from pairs
  gives them back.
-/

namespace IntentSpec.Params

open Text
open Document (enlist foldl_enlist_nil cutFirst?_eq_some_iff takeWhile_append_of_head?)

/-! ## Words that give a parameter -/

/-- The word has an equals sign, and does not begin with it. -/
structure GivesPair (word : List Char) : Prop where
  sign : '=' ∈ word
  /-- Something stands in front of it. -/
  key : word.head? ≠ some '='

/-- What stands in front of the first equals sign of a word, and what stands behind it. -/
def pairOf (word : List Char) : String × String :=
  (String.ofList (word.takeWhile (· ≠ '=')), String.ofList (word.dropWhile (· ≠ '=')).tail)

/-- What is wrong with a word that gives no parameter. -/
def offence (word : List Char) : Fault :=
  if '=' ∈ word then .emptyKey (String.ofList word) else .malformedToken (String.ofList word)

/-- A key without equals signs is told from its value by the first one. -/
theorem pairOf_append {key : List Char} (plain : '=' ∉ key) (value : List Char) :
    pairOf (key ++ '=' :: value) = (String.ofList key, String.ofList value) := by
  have run : ∀ c ∈ key, decide (c ≠ '=') = true := by
    rintro c here
    exact decide_eq_true fun same => plain (same ▸ here)
  have front : (key ++ '=' :: value).takeWhile (· ≠ '=') = key :=
    takeWhile_append_of_head? run rfl
  have back : (key ++ '=' :: value).dropWhile (· ≠ '=') = '=' :: value := by
    rw [List.dropWhile_append_of_pos run]
    rfl
  rw [pairOf, front, back]
  rfl

theorem givesPair_append {key : List Char} (named : key ≠ []) (plain : '=' ∉ key)
    (value : List Char) : GivesPair (key ++ '=' :: value) where
  sign := by simp
  key := by
    obtain ⟨c, rest, rfl⟩ := List.exists_cons_of_ne_nil named
    rintro first
    exact plain (by simpa using Or.inl (Option.some.inj first).symm)

/-- The words that give a parameter are a key, an equals sign and a value. -/
theorem GivesPair.split {word : List Char} (gives : GivesPair word) :
    ∃ key value, word = key ++ '=' :: value ∧ key ≠ [] ∧ '=' ∉ key := by
  obtain ⟨key, value, rfl, plain⟩ := List.eq_append_cons_of_mem gives.sign
  refine ⟨key, value, rfl, ?_, plain⟩
  rintro rfl
  exact gives.key rfl

/-! ## One word after another -/

/-- The parameters so far, with one more pair. -/
def record (done : Params) (pair : String × String) : Params := setValue pair.1 pair.2 done

theorem ofWords_cons_of_gives {word : List Char} (gives : GivesPair word) (done : Params)
    (rest : List (List Char)) : ofWords done (word :: rest) = ofWords (record done (pairOf word)) rest := by
  obtain ⟨key, value, rfl, named, plain⟩ := gives.split
  have cut : cutFirst? '=' (key ++ '=' :: value) = some (key, value) :=
    (cutFirst?_eq_some_iff ..).mpr ⟨rfl, plain⟩
  have nonempty : ¬ key.isEmpty = true := by simpa using named
  rw [ofWords, cut, pairOf_append plain]
  exact if_neg nonempty

theorem ofWords_cons_of_not_gives {word : List Char} (stray : ¬ GivesPair word) (done : Params)
    (rest : List (List Char)) : ofWords done (word :: rest) = .error (offence word) := by
  rw [ofWords, offence]
  cases cut : cutFirst? '=' word with
  | none =>
      have plain : '=' ∉ word := by
        intro sign
        obtain ⟨key, value, split, new⟩ := List.eq_append_cons_of_mem sign
        rw [(cutFirst?_eq_some_iff ..).mpr ⟨split, new⟩] at cut
        cases cut
      rw [if_neg plain]
  | some pieces =>
      obtain ⟨key, value⟩ := pieces
      obtain ⟨rfl, plain⟩ := (cutFirst?_eq_some_iff ..).mp cut
      have unnamed : key = [] := by
        by_contra named
        exact stray (givesPair_append named plain value)
      subst unnamed
      have sign : '=' ∈ [] ++ '=' :: value := List.mem_cons_self
      rw [if_pos sign]
      rfl

/-- Words that all give a parameter are recorded one after another. -/
theorem ofWords_of_all {ws : List (List Char)} (each : ∀ word ∈ ws, GivesPair word) (done : Params) :
    ofWords done ws = .ok ((ws.map pairOf).foldl record done) := by
  induction ws generalizing done with
  | nil => rfl
  | cons word ws ih =>
      obtain ⟨first, others⟩ := List.forall_mem_cons.mp each
      rw [ofWords_cons_of_gives first, ih others, List.map_cons, List.foldl_cons]

/-- The first word that gives no parameter is reported. -/
theorem ofWords_of_first {front : List (List Char)} (each : ∀ word ∈ front, GivesPair word)
    {word : List Char} (stray : ¬ GivesPair word) (back : List (List Char)) (done : Params) :
    ofWords done (front ++ word :: back) = .error (offence word) := by
  induction front generalizing done with
  | nil => exact ofWords_cons_of_not_gives stray done back
  | cons first front ih =>
      obtain ⟨gives, others⟩ := List.forall_mem_cons.mp each
      rw [List.cons_append, ofWords_cons_of_gives gives, ih others]

/-- Either all words give a parameter, or there is a first one that does not. -/
theorem all_or_first (ws : List (List Char)) :
    (∀ word ∈ ws, GivesPair word) ∨
      ∃ front word back, ws = front ++ word :: back ∧ (∀ word ∈ front, GivesPair word) ∧
        ¬ GivesPair word := by
  induction ws with
  | nil => exact Or.inl (List.forall_mem_nil _)
  | cons first ws ih =>
      by_cases gives : GivesPair first
      · rcases ih with each | ⟨front, word, back, rfl, each, stray⟩
        · exact Or.inl (List.forall_mem_cons.mpr ⟨gives, each⟩)
        · exact Or.inr ⟨first :: front, word, back, rfl, List.forall_mem_cons.mpr ⟨gives, each⟩, stray⟩
      · exact Or.inr ⟨[], first, ws, rfl, List.forall_mem_nil _, gives⟩

/-! ## The last value of a key counts -/

/-- The parameters hold each key of the pairs once, where it occurs first, with the value of the pair
that has it last. -/
structure LastWins (pairs : List (String × String)) (params : Params) : Prop where
  /-- The keys, in the order of their first occurrences. -/
  order : params.map Prod.fst = (pairs.map Prod.fst).eraseDups
  /-- The value of a key is the last that is given for it. -/
  value : ∀ key, value? key params = ((pairs.filter (·.1 = key)).getLast?).map Prod.snd

theorem keys_setValue (key value : String) (params : Params) :
    (setValue key value params).map Prod.fst = enlist (params.map Prod.fst) key := by
  induction params with
  | nil => rfl
  | cons first params ih =>
      obtain ⟨key', value'⟩ := first
      unfold setValue
      by_cases same : key' = key
      · subst same
        have known : key' ∈ ((key', value') :: params).map Prod.fst := List.mem_cons_self
        rw [if_pos rfl, enlist, if_pos known]
        rfl
      · rw [if_neg same, List.map_cons, ih, List.map_cons]
        unfold enlist
        by_cases known : key ∈ params.map Prod.fst
        · rw [if_pos known, if_pos (List.mem_cons_of_mem _ known)]
        · rw [if_neg known, if_neg (List.not_mem_cons_of_ne_of_not_mem (Ne.symm same) known),
            List.cons_append]

/-- **Pairs that are recorded one after another** give parameters in which the last value counts. -/
theorem lastWins_foldl (pairs : List (String × String)) : LastWins pairs (pairs.foldl record []) where
  order := by
    have keys : ∀ done : Params, (pairs.foldl record done).map Prod.fst =
        (pairs.map Prod.fst).foldl enlist (done.map Prod.fst) := by
      intro done
      induction pairs generalizing done with
      | nil => rfl
      | cons pair pairs ih =>
          rw [List.foldl_cons, ih, record, keys_setValue, List.map_cons, List.foldl_cons]
    rw [keys [], List.map_nil, foldl_enlist_nil]
  value key := by
    induction pairs using List.reverseRecOn with
    | nil => rfl
    | append_singleton pairs pair ih =>
        rw [List.foldl_append, List.foldl_cons, List.foldl_nil, record, Predicate.value?_setValue, ih,
          List.filter_append]
        by_cases same : pair.1 = key
        · simp [same]
        · simp [same, Ne.symm same]

/-! ## The whole predicate -/

/-- The reasons for which words give no parameters of a capability. -/
inductive Refused (capability : String) (tokens : List (List Char)) : String → Prop
  /-- The first word is another one, or there is none. -/
  | mismatch (other : tokens.head? ≠ some capability.toList) :
      Refused capability tokens ("capability_mismatch:expected=" ++ capability ++ ",actual=" ++
        String.ofList (tokens.headD []))
  /-- The first word that gives no parameter has no equals sign. -/
  | malformed {front back : List (List Char)} {word : List Char}
      (split : tokens = capability.toList :: (front ++ word :: back))
      (each : ∀ w ∈ front, GivesPair w) (plain : '=' ∉ word) :
      Refused capability tokens ("malformed_token:" ++ String.ofList word)
  /-- The first word that gives no parameter begins with its equals sign. -/
  | emptyKey {front back : List (List Char)} {word : List Char}
      (split : tokens = capability.toList :: (front ++ word :: back))
      (each : ∀ w ∈ front, GivesPair w) (unnamed : word.head? = some '=') :
      Refused capability tokens ("empty_key:" ++ String.ofList word)

section Predicate

variable {predicate capability : String} (given : capability ≠ "")

include given in
theorem ofPredicate_of_other (other : (words predicate.toList).head? ≠ some capability.toList) :
    ofPredicate predicate capability =
      .error (.capabilityMismatch capability (String.ofList ((words predicate.toList).headD []))) := by
  have first : String.ofList ((words predicate.toList).headD []) ≠ capability := by
    rintro same
    cases tokens : words predicate.toList with
    | nil => exact given (by rw [← same, tokens]; rfl)
    | cons word rest =>
        rw [tokens] at same other
        refine other (congrArg some ?_)
        rw [← same, String.toList_ofList]
        rfl
  unfold ofPredicate
  exact if_pos first

theorem ofPredicate_of_capability {rest : List (List Char)}
    (split : words predicate.toList = capability.toList :: rest) :
    ofPredicate predicate capability = ofWords [] rest := by
  have first : ¬ String.ofList ((words predicate.toList).headD []) ≠ capability := by
    rw [split, List.headD_cons, String.ofList_toList]
    exact not_not_intro rfl
  unfold ofPredicate
  rw [if_neg first, split, List.tail_cons]

include given in
/-- A predicate gives parameters when its words are the capability and words that each give one. -/
theorem ofPredicate_eq_ok_iff (params : Params) :
    ofPredicate predicate capability = .ok params ↔
      ∃ rest, words predicate.toList = capability.toList :: rest ∧ (∀ word ∈ rest, GivesPair word) ∧
        params = (rest.map pairOf).foldl record [] := by
  by_cases first : (words predicate.toList).head? = some capability.toList
  · obtain ⟨rest, split⟩ := List.head?_eq_some_iff.mp first
    rw [ofPredicate_of_capability split, split]
    rcases all_or_first rest with each | ⟨front, word, back, rfl, each, stray⟩
    · rw [ofWords_of_all each]
      constructor
      · rintro ⟨⟩
        exact ⟨rest, rfl, each, rfl⟩
      · rintro ⟨rest', ⟨⟩, -, rfl⟩
        rfl
    · rw [ofWords_of_first each stray]
      refine iff_of_false (by simp) ?_
      rintro ⟨rest', ⟨⟩, every, -⟩
      exact stray (every word (by simp))
  · rw [ofPredicate_of_other given first]
    refine iff_of_false (by simp) ?_
    rintro ⟨rest, split, -⟩
    exact first (by rw [split]; rfl)

include given in
/-- A predicate is refused for the first of its words that is not as it should be. -/
theorem refused_iff (reason : String) :
    (ofPredicate predicate capability).mapError Fault.reason = .error reason ↔
      Refused capability (words predicate.toList) reason := by
  constructor
  · intro reported
    by_cases first : (words predicate.toList).head? = some capability.toList
    · obtain ⟨rest, split⟩ := List.head?_eq_some_iff.mp first
      rw [ofPredicate_of_capability split] at reported
      rcases all_or_first rest with each | ⟨front, word, back, rfl, each, stray⟩
      · rw [ofWords_of_all each] at reported
        cases reported
      · rw [ofWords_of_first each stray, offence] at reported
        split at reported
        next sign =>
          cases reported
          refine .emptyKey split each ?_
          by_contra named
          exact stray ⟨sign, named⟩
        next plain =>
          cases reported
          exact .malformed split each plain
    · rw [ofPredicate_of_other given first] at reported
      cases reported
      exact .mismatch first
  · intro refused
    cases refused with
    | mismatch other =>
        rw [ofPredicate_of_other given other]
        rfl
    | malformed split each plain =>
        have stray := fun gives : GivesPair _ => plain gives.sign
        rw [ofPredicate_of_capability split, ofWords_of_first each stray, offence, if_neg plain]
        rfl
    | emptyKey split each unnamed =>
        have stray := fun gives : GivesPair _ => gives.key unnamed
        rw [ofPredicate_of_capability split, ofWords_of_first each stray, offence,
          if_pos (List.mem_of_mem_head? unnamed)]
        rfl

end Predicate

/-! ## Predicates that are laid out from pairs -/

/-- A parameter as it is written: blanks, a key, an equals sign and a value. -/
structure SpacedPair where
  gap : List Char
  key : List Char
  value : List Char
  /-- Something separates the parameter from what stands before it. -/
  spaced : gap ≠ []
  blank : ∀ c ∈ gap, isBlank c = true
  named : key ≠ []
  /-- There is no equals sign in it. -/
  plain : '=' ∉ key
  /-- There are no blanks in it. -/
  solidKey : ∀ c ∈ key, isBlank c = false
  /-- There are no blanks in the value. -/
  solidValue : ∀ c ∈ value, isBlank c = false

namespace SpacedPair

/-- The word of a parameter. -/
def word (p : SpacedPair) : List Char := p.key ++ '=' :: p.value

/-- The characters of a parameter, with the blanks in front. -/
def chars (p : SpacedPair) : List Char := p.gap ++ p.word

/-- The key and the value. -/
def pair (p : SpacedPair) : String × String := (String.ofList p.key, String.ofList p.value)

theorem solid (p : SpacedPair) : ∀ c ∈ p.word, isBlank c = false :=
  List.forall_mem_append.mpr ⟨p.solidKey, List.forall_mem_cons.mpr ⟨by decide, p.solidValue⟩⟩

theorem gives (p : SpacedPair) : GivesPair p.word := givesPair_append p.named p.plain p.value

theorem pairOf_word (p : SpacedPair) : pairOf p.word = p.pair := pairOf_append p.plain p.value

/-- Blanks follow a word that stands in front of further parameters, or nothing does. -/
theorem head_isBlank (pairs : List SpacedPair) {trail : List Char}
    (blank : ∀ c ∈ trail, isBlank c = true) :
    (pairs.flatMap chars ++ trail).head?.all isBlank = true := by
  cases pairs with
  | nil =>
      cases trail with
      | nil => rfl
      | cons c trail => exact blank c List.mem_cons_self
  | cons p pairs =>
      obtain ⟨c, gap, starts⟩ := List.exists_cons_of_ne_nil p.spaced
      have first : isBlank c = true := p.blank c (starts ▸ List.mem_cons_self)
      rw [List.flatMap_cons, chars, starts]
      exact first

/-- The words of written parameters, whatever blanks stand around them. -/
theorem words_flatMap (pairs : List SpacedPair) {trail : List Char}
    (blank : ∀ c ∈ trail, isBlank c = true) :
    words (pairs.flatMap chars ++ trail) = pairs.map word := by
  induction pairs with
  | nil => exact words_of_blank blank
  | cons p pairs ih =>
      have given : p.word ≠ [] := by simp [word]
      rw [List.flatMap_cons, chars, List.append_assoc, List.append_assoc,
        words_append_of_blank p.blank, words_append_of_solid given p.solid (head_isBlank pairs blank),
        ih, List.map_cons]

end SpacedPair

/-- **What a predicate gives.**  It gives parameters when its words are the capability and then words
with an equals sign that is not their first character; of several values for one key the last counts, at
the place of the first.  Otherwise the reason names the other capability or the first word of another
form.  So a predicate that is written from pairs, with any blanks between them and around them, gives
these pairs. -/
theorem ofPredicate_lastWins (capability : String) (given : capability ≠ "")
    (solid : ∀ c ∈ capability.toList, isBlank c = false) :
    (∀ predicate : String,
      ((∃ params, ofPredicate predicate capability = .ok params) ↔
        ∃ rest, words predicate.toList = capability.toList :: rest ∧ ∀ word ∈ rest, GivesPair word) ∧
      (∀ params, ofPredicate predicate capability = .ok params →
        LastWins ((words predicate.toList).tail.map pairOf) params) ∧
      ∀ reason, (ofPredicate predicate capability).mapError Fault.reason = .error reason ↔
        Refused capability (words predicate.toList) reason) ∧
    ∀ (lead trail : List Char) (pairs : List SpacedPair), (∀ c ∈ lead, isBlank c = true) →
      (∀ c ∈ trail, isBlank c = true) →
      ∃ params, ofPredicate
          (String.ofList (lead ++ (capability.toList ++ (pairs.flatMap SpacedPair.chars ++ trail))))
          capability = .ok params ∧
        LastWins (pairs.map SpacedPair.pair) params := by
  refine ⟨fun predicate => ⟨?_, ?_, refused_iff given⟩, ?_⟩
  · constructor
    · rintro ⟨params, answered⟩
      obtain ⟨rest, split, each, -⟩ := (ofPredicate_eq_ok_iff given params).mp answered
      exact ⟨rest, split, each⟩
    · rintro ⟨rest, split, each⟩
      exact ⟨_, (ofPredicate_eq_ok_iff given _).mpr ⟨rest, split, each, rfl⟩⟩
  · intro params answered
    obtain ⟨rest, split, -, rfl⟩ := (ofPredicate_eq_ok_iff given params).mp answered
    rw [split, List.tail_cons]
    exact lastWins_foldl _
  · intro lead trail pairs blankLead blankTrail
    have split : words (String.ofList
        (lead ++ (capability.toList ++ (pairs.flatMap SpacedPair.chars ++ trail)))).toList =
        capability.toList :: pairs.map SpacedPair.word := by
      have named : capability.toList ≠ [] := fun empty => given (String.toList_eq_nil_iff.mp empty)
      rw [String.toList_ofList, words_append_of_blank blankLead,
        words_append_of_solid named solid (SpacedPair.head_isBlank pairs blankTrail),
        SpacedPair.words_flatMap pairs blankTrail]
    have each : ∀ word ∈ pairs.map SpacedPair.word, GivesPair word :=
      List.forall_mem_map.mpr fun p _ => p.gives
    have back : (pairs.map SpacedPair.word).map pairOf = pairs.map SpacedPair.pair := by
      rw [List.map_map]
      exact List.map_congr_left fun p _ => p.pairOf_word
    refine ⟨_, (ofPredicate_eq_ok_iff given _).mpr ⟨_, split, each, rfl⟩, ?_⟩
    rw [back]
    exact lastWins_foldl _

/-- Three parameters with blanks of several kinds, two of them with one key: a value with an equals sign
in it, an empty value, and the value that counts. -/
def paddedPairs : List SpacedPair :=
  [{ gap := ['\t'], key := "path".toList, value := "/a=b".toList
     spaced := by decide
     blank := List.all_eq_true.mp (by decide)
     named := by decide
     plain := by decide
     solidKey := solid_of_any (by decide)
     solidValue := solid_of_any (by decide) },
    { gap := ['\u2003', ' '], key := "mode".toList, value := []
      spaced := by decide
      blank := List.all_eq_true.mp (by decide)
      named := by decide
      plain := by decide
      solidKey := solid_of_any (by decide)
      solidValue := solid_of_any (by decide) },
    { gap := [' '], key := "path".toList, value := "/c".toList
      spaced := by decide
      blank := List.all_eq_true.mp (by decide)
      named := by decide
      plain := by decide
      solidKey := solid_of_any (by decide)
      solidValue := solid_of_any (by decide) }]

/-- The padded predicate gives its pairs, and the last path counts. -/
theorem ofPredicate_lastWins_paddedPairs :
    "check_file_exists" ≠ "" ∧ (∀ c ∈ "check_file_exists".toList, isBlank c = false) ∧
    ∃ params, ofPredicate
        (String.ofList (['\u00a0'] ++ ("check_file_exists".toList ++
          (paddedPairs.flatMap SpacedPair.chars ++ ['\n']))))
        "check_file_exists" = .ok params ∧
      LastWins [("path", "/a=b"), ("mode", ""), ("path", "/c")] params := by
  have solid : ∀ c ∈ "check_file_exists".toList, isBlank c = false :=
    solid_of_any (by decide)
  refine ⟨by decide, solid, ?_⟩
  obtain ⟨-, laidOut⟩ := ofPredicate_lastWins "check_file_exists" (by decide) solid
  exact laidOut ['\u00a0'] ['\n'] paddedPairs (List.all_eq_true.mp (by decide))
    (List.all_eq_true.mp (by decide))

/-- An equals sign behind the first character is not enough: if the first character is one too, the key is
empty, and the predicate is refused. -/
theorem not_given_iff_laterSign :
    ¬ ∀ predicate capability : String, capability ≠ "" →
      (∀ c ∈ capability.toList, isBlank c = false) →
      ((∃ params, ofPredicate predicate capability = .ok params) ↔
        ∃ rest, words predicate.toList = capability.toList :: rest ∧ ∀ word ∈ rest, '=' ∈ word.tail) := by
  intro everywhere
  have refused : ofPredicate "check_file_exists =a=b" "check_file_exists" = .error (.emptyKey "=a=b") := by
    decide +kernel
  have solid : ∀ c ∈ "check_file_exists".toList, isBlank c = false := solid_of_any (by decide)
  have given := (everywhere "check_file_exists =a=b" "check_file_exists" (by decide) solid).mpr
    ⟨["=a=b".toList], by decide, List.forall_mem_singleton.mpr (by decide)⟩
  rw [refused] at given
  obtain ⟨params, ⟨⟩⟩ := given

end IntentSpec.Params
