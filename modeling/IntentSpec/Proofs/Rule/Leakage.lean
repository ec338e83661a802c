import IntentSpec.Proofs.Document.Artifacts
import IntentSpec.Proofs.Rule.Signal
import IntentSpec.Proofs.Rule.Verdict

/-!
# Where a signal is found

`Leak.found` walks over a text and tries every signal at every place.  Here it is said without the
walk between which characters a signal has to stand (`Stands`).

A boundary lies between a word character and another one.  All signals begin with a word character,
so nothing that continues a word is found.  What follows depends on how the signal ends:

* the six signals that end in a word character are found where no word character follows, that is,
  where they stand alone;
* the two bounds on running time end in a parenthesis, behind which a boundary lies only in front
  of a word character.  A bound that stands alone is passed over, and one that a word is glued to
  is found (`not_found_linearLookups`).

`validateText_leak` says what a signal means for the report on a document.
-/

namespace IntentSpec.Leak

open Text Document Report Rule

/-- One of the signals stands in the text, no word character right before it, and right after it a
word character or none, as `followed` says. -/
def Stands (among : List Signal) (followed : Bool) (s : List Char) : Prop :=
  ∃ signal ∈ among, ∃ before occurrence after, s = before ++ (occurrence ++ after) ∧
    signal.Spells occurrence ∧ before.getLast?.any isAsciiWord = false ∧
    after.head?.any isAsciiWord = followed

/-- Some signal stands alone in the text. -/
def StandsAlone (text : String) : Prop := Stands signals false text.toList

/-- The signals that end in a word character. -/
def wordSignals : List Signal := signals.filter Signal.endsInWord

/-- The bounds on running time, which end in a parenthesis. -/
def boundSignals : List Signal := signals.filter fun signal => !signal.endsInWord

/-! ## The walk over a text -/

/-- The text begins with a signal that ends at a boundary. -/
def Opens (s : List Char) : Prop :=
  ∃ signal ∈ signals, ∃ occurrence after, s = occurrence ++ after ∧ signal.Spells occurrence ∧
    after.head?.any isAsciiWord = !signal.endsInWord

theorem begins_iff {signal : Signal} (known : signal ∈ signals) (s : List Char) :
    signal.begins s = true ↔ ∃ occurrence after, s = occurrence ++ after ∧
      signal.Spells occurrence ∧ after.head?.any isAsciiWord = !signal.endsInWord := by
  have ends : ∀ after, boundary signal.endsInWord after = true ↔
      after.head?.any isAsciiWord = !signal.endsInWord := by
    intro after
    unfold boundary
    cases signal.endsInWord <;> simp
  unfold Signal.begins
  rw [List.any_eq_true]
  simp only [ends, Signal.mem_rests_iff (separated_of_mem signal known)]
  constructor
  · rintro ⟨after, ⟨occurrence, split, spelled⟩, next⟩
    exact ⟨occurrence, after, split, spelled, next⟩
  · rintro ⟨occurrence, after, split, spelled, next⟩
    exact ⟨after, ⟨occurrence, split, spelled⟩, next⟩

/-- A text that begins with a signal begins with a word character. -/
theorem Opens.word {s : List Char} (opens : Opens s) :
    ∃ c rest, s = c :: rest ∧ isAsciiWord c = true := by
  obtain ⟨signal, known, occurrence, after, rfl, spelled, -⟩ := opens
  obtain ⟨c, rest, rfl, word⟩ := avoids_of_mem signal known occurrence spelled
  exact ⟨c, rest ++ after, rfl, by simpa using word⟩

theorem foundFrom_cons (inWord : Bool) (c : Char) (s : List Char) :
    foundFrom inWord (c :: s) = true ↔
      inWord = false ∧ Opens (c :: s) ∨ foundFrom (isAsciiWord c) s = true := by
  have opens : signals.any (·.begins (c :: s)) = true ↔ Opens (c :: s) := by
    rw [List.any_eq_true]
    exact exists_congr fun signal => and_congr_right fun known => begins_iff known _
  rw [foundFrom, Bool.or_eq_true, Bool.and_eq_true, opens]
  -- in front of a word character there is a boundary just where no word goes on
  refine or_congr_left (and_congr_left fun h => ?_)
  obtain ⟨d, rest, split, word⟩ := h.word
  obtain ⟨rfl, -⟩ := List.cons.inj split
  cases inWord <;> simp [boundary, word]

/-- What stands before a part of a text, if `inWord` says how the text goes on from what is before
it. -/
def wordBefore (inWord : Bool) (before : List Char) : Bool :=
  (before.getLast?.map isAsciiWord).getD inWord

theorem wordBefore_cons (inWord : Bool) (c : Char) (before : List Char) :
    wordBefore inWord (c :: before) = wordBefore (isAsciiWord c) before := by
  unfold wordBefore
  rw [List.getLast?_cons]
  cases before.getLast? <;> rfl

/-- The walk finds every place where a signal begins that continues no word. -/
theorem foundFrom_iff (inWord : Bool) (s : List Char) :
    foundFrom inWord s = true ↔
      ∃ before behind, s = before ++ behind ∧ wordBefore inWord before = false ∧ Opens behind := by
  induction s generalizing inWord with
  | nil =>
      refine iff_of_false (by simp [foundFrom]) ?_
      rintro ⟨before, behind, split, -, opens⟩
      obtain ⟨c, rest, rfl, -⟩ := opens.word
      exact absurd split (by simp)
  | cons c s ih =>
      rw [foundFrom_cons, ih]
      constructor
      · rintro (⟨fresh, opens⟩ | ⟨before, behind, rfl, fresh, opens⟩)
        · exact ⟨[], c :: s, rfl, fresh, opens⟩
        · exact ⟨c :: before, behind, rfl, (wordBefore_cons ..).trans fresh, opens⟩
      · rintro ⟨before, behind, split, fresh, opens⟩
        cases before with
        | nil =>
            obtain rfl : c :: s = behind := split
            exact Or.inl ⟨fresh, opens⟩
        | cons d before =>
            obtain ⟨rfl, rfl⟩ := List.cons.inj split
            exact Or.inr ⟨before, behind, rfl, (wordBefore_cons ..).symm.trans fresh, opens⟩

theorem wordBefore_false (before : List Char) :
    wordBefore false before = before.getLast?.any isAsciiWord := by
  unfold wordBefore
  cases before.getLast? <;> rfl

/-- **Where a signal is found.**  Signals that end in a word character are found where they stand
alone, the others where a word character follows. -/
theorem found_iff (text : String) :
    found text = true ↔
      Stands wordSignals false text.toList ∨ Stands boundSignals true text.toList := by
  unfold found
  simp only [foundFrom_iff, wordBefore_false]
  constructor
  · rintro ⟨before, behind, split, fresh, signal, known, occurrence, after, rfl, spelled, next⟩
    cases ends : signal.endsInWord with
    | true =>
        rw [ends] at next
        exact Or.inl ⟨signal, List.mem_filter.mpr ⟨known, ends⟩, before, occurrence, after, split,
          spelled, fresh, next⟩
    | false =>
        rw [ends] at next
        exact Or.inr ⟨signal, List.mem_filter.mpr ⟨known, by simp [ends]⟩, before, occurrence, after,
          split, spelled, fresh, next⟩
  · rintro (⟨signal, known, before, occurrence, after, split, spelled, fresh, next⟩ |
      ⟨signal, known, before, occurrence, after, split, spelled, fresh, next⟩)
    · obtain ⟨known, ends⟩ := List.mem_filter.mp known
      exact ⟨before, _, split, fresh, signal, known, occurrence, after, rfl, spelled,
        by rw [next, ends, Bool.not_true]⟩
    · obtain ⟨known, ends⟩ := List.mem_filter.mp known
      exact ⟨before, _, split, fresh, signal, known, occurrence, after, rfl, spelled,
        next.trans ends.symm⟩

theorem standsAlone_iff (text : String) :
    StandsAlone text ↔
      Stands wordSignals false text.toList ∨ Stands boundSignals false text.toList := by
  unfold StandsAlone Stands wordSignals boundSignals
  simp only [List.mem_filter]
  rw [← exists_or]
  refine exists_congr fun signal => ?_
  cases signal.endsInWord <;> simp

/-! ## The report on a document with a signal -/

theorem mem_of_mapM {α β ε : Type} {f : α → Except ε β} {as : List α} {bs : List β}
    (all : as.mapM f = .ok bs) {a : α} (here : a ∈ as) : ∃ b ∈ bs, f a = .ok b := by
  induction as generalizing bs with
  | nil => exact absurd here (by simp)
  | cons first as ih =>
      rw [List.mapM_cons] at all
      cases one : f first with
      | error e => simp [one, bind, Except.bind] at all
      | ok b =>
          cases rest : as.mapM f with
          | error e => simp [one, rest, bind, Except.bind] at all
          | ok bs' =>
              obtain rfl : b :: bs' = bs := by
                simpa [one, rest, bind, Except.bind, pure, Except.pure] using all
              rcases List.mem_cons.mp here with rfl | later
              · exact ⟨b, List.mem_cons_self, one⟩
              · obtain ⟨c, hc, found⟩ := ih rest later
                exact ⟨c, List.mem_cons_of_mem _ hc, found⟩

/-- A signal anywhere in a document of a supported version violates V-M5. -/
theorem validateText_leak {text : String}
    (supported : (Spec.parse text).version ∈ supportedVersions) :
    ∃ r, validateText text = .ok r ∧
      (∃ o ∈ r.outcomes, o.validation = "V-M5" ∧ (o.status = .unsatisfied ↔ found text = true)) ∧
      (found text = true → r.verdict = .invalid) := by
  obtain ⟨fs, r, findings, -, validated, outcomes, -, invalid, -⟩ :=
    validate_supported (Spec.parse text) supported
  refine ⟨r, validated, ?_, fun leaks => ?_⟩
  · have rule : ("V-M5", implementationLeakage) ∈ Rule.all := by
      simp [Rule.all]
    obtain ⟨f, answered, answer⟩ := implementationLeakage_answer (Spec.parse text)
    obtain ⟨g, here, answered'⟩ := mem_of_mapM findings rule
    obtain rfl : f = g := Except.ok.inj (answered.symm.trans answered')
    refine ⟨f.outcome, outcomes ▸ List.mem_map_of_mem here, answer.named, ?_⟩
    rw [← answer.violated, answer.adds, parse_text]
    cases found text <;> simp
  · rw [invalid, ne_eq, faults_eq_nil_iff, not_not]
    exact Or.inr (Or.inr (by rwa [parse_text]))

/-- **What the search finds.**  It finds a signal that ends in a word character where it stands
alone, and a bound where a word character follows it.  That is the same as finding some signal that
stands alone just for the texts in which one of the former does, or in which a bound stands alone if
and only if a bound is followed by a word character.  What is found in a document of a supported
version violates V-M5 and makes the report invalid. -/
theorem found_stands (text : String) :
    (found text = true ↔
        Stands wordSignals false text.toList ∨ Stands boundSignals true text.toList) ∧
      ((found text = true ↔ StandsAlone text) ↔
        Stands wordSignals false text.toList ∨
          (Stands boundSignals false text.toList ↔ Stands boundSignals true text.toList)) ∧
      ((Spec.parse text).version ∈ supportedVersions →
        ∃ r, validateText text = .ok r ∧
          (∃ o ∈ r.outcomes, o.validation = "V-M5" ∧
            (o.status = .unsatisfied ↔ found text = true)) ∧
          (found text = true → r.verdict = .invalid)) := by
  refine ⟨found_iff text, ?_, validateText_leak⟩
  rw [found_iff, standsAlone_iff]
  tauto

/-- A bound that stands alone is passed over. -/
theorem not_found_linearLookups :
    StandsAlone "O(n) lookups" ∧ ¬ found "O(n) lookups" = true := by
  refine ⟨⟨[.letters "O(", .gap, .letters "n", .gap, .letters ")"], by decide, [], "O(n)".toList,
    " lookups".toList, rfl, ?_, rfl, rfl⟩, by decide⟩
  exact ⟨"O(".toList, "n)".toList, rfl, rfl, [], "n)".toList, rfl, List.forall_mem_nil _,
    "n".toList, ")".toList, rfl, rfl, [], ")".toList, rfl, List.forall_mem_nil _, ")".toList, [],
    rfl, rfl, rfl⟩

end IntentSpec.Leak
