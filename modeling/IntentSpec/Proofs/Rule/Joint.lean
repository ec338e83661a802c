import IntentSpec.Proofs.Rule.Ending

/-!
# Signals at the joints of a text

A text is put together from parts that end in a line feed.  The signals of a prescribed implementation
are looked for in the whole text, and some of them may run across a line feed.  But behind a blank a
signal goes on with one of few characters (`resumes`), so none runs into a part that begins with
another one, and what is found in the whole is what is found in the parts.

* `Fresh` — texts into which no signal runs.
* `Signal.resumes_of_spells` — how a signal goes on behind a blank.
* `foundFrom_append` — nothing is found across a joint.
-/

namespace IntentSpec.Leak

open Text

/-! ## How a signal goes on behind a blank -/

/-- A character that a signal may go on with behind blanks: the first letter of `log`, `n` or `minute`
in either case, a closing parenthesis or a digit. -/
def resumes (c : Char) : Bool := ['l', 'L', 'n', 'N', 'm', 'M', ')'].contains c || isAsciiDigit c

theorem resumes_foldAscii (c : Char) : resumes (foldAscii c) = resumes c := by
  have cases : ∀ n : Fin 26, resumes (Char.ofNat (65 + n + 32)) = resumes (Char.ofNat (65 + n)) := by
    decide
  rcases foldAscii_shift c with same | ⟨n, here, moved⟩
  · rw [same]
  · rw [moved, here, cases n]

theorem visible_of_resumes {c : Char} (resumed : resumes c = true) :
    33 ≤ c.toNat ∧ c.toNat ≤ 126 := by
  rcases Bool.or_eq_true_iff.mp resumed with listed | digit
  · have letters : c = 'l' ∨ c = 'L' ∨ c = 'n' ∨ c = 'N' ∨ c = 'm' ∨ c = 'M' ∨ c = ')' := by
      simpa using listed
    rcases letters with rfl | rfl | rfl | rfl | rfl | rfl | rfl <;> decide
  · have range := toNat_of_isAsciiDigit digit
    omega

/-- A part that stands for blanks. -/
def Part.isBlank : Part → Bool
  | gap | space => true
  | letters _ | digits | optional _ => false

/-- Behind every part that stands for blanks the signal goes on with one of those characters. -/
def Signal.Resumes : Signal → Prop
  | [] => True
  | part :: signal =>
    (part.isBlank = true → Signal.Avoids (fun c => !resumes c) signal) ∧ Signal.Resumes signal

/-- No letters of a signal are blanks. -/
theorem solid_of_mem : ∀ signal ∈ signals, ∀ part ∈ signal,
    part.spelling.all (!isAsciiBlank ·) = true := by
  decide

theorem resumes_letters {w : String} {signal : Signal} (rest : signal.Resumes) :
    Signal.Resumes (.letters w :: signal) :=
  ⟨nofun, rest⟩

theorem resumes_blanks {part : Part} {w : String} {l : Char} (first : w.toList.head? = some l)
    (resumed : resumes l = true) {signal : Signal} (rest : Signal.Resumes (.letters w :: signal)) :
    Signal.Resumes (part :: .letters w :: signal) := by
  have folds : ∀ c, (!resumes (foldAscii c)) = !resumes c := fun c => by
    rw [resumes_foldAscii]
  exact ⟨fun _ => avoids_letters folds first (by simp [resumed]), rest⟩

/-- Every signal goes on so. -/
theorem resumes_of_mem : ∀ signal ∈ signals, Signal.Resumes signal := by
  have word : ∀ w, Signal.Resumes [.letters w] := fun _ => resumes_letters trivial
  have closing : Signal.Resumes [.gap, .letters ")"] := resumes_blanks rfl rfl (word ")")
  have bound : Signal.Resumes [.gap, .letters "n", .gap, .letters ")"] :=
    resumes_blanks rfl rfl (resumes_letters closing)
  have logBound : Signal.Resumes [.gap, .letters "log", .gap, .letters "n", .gap, .letters ")"] :=
    resumes_blanks rfl rfl (resumes_letters bound)
  have schedule : Signal.Resumes
      [.letters "every", .space, .digits, .space, .letters "minute", .optional "s"] := by
    have digits : ∀ s, Part.digits.Spells s → s ≠ [] ∧ ∀ c ∈ s, isAsciiDigit c = true :=
      fun _ spelled => spelled
    have apart : ∀ c, isAsciiDigit c = true → (!resumes c) = false := fun c digit => by
      simp [resumes, digit]
    have ends : Signal.Resumes [.letters "minute", .optional "s"] := resumes_letters ⟨nofun, trivial⟩
    refine resumes_letters ⟨fun _ => avoids_run digits apart _, nofun, ?_⟩
    exact resumes_blanks rfl rfl ends
  intro signal known
  simp only [signals, List.mem_cons, List.not_mem_nil, or_false] at known
  rcases known with rfl | rfl | rfl | rfl | rfl | rfl | rfl | rfl
  · exact word "B-Tree"
  · exact word "LRU"
  · exact resumes_letters logBound
  · exact resumes_letters bound
  · exact word "rebalance"
  · exact word "background"
  · exact word "compaction"
  · exact schedule

theorem not_blank_of_folded {w s : List Char} (solid : w.all (!isAsciiBlank ·) = true)
    (folded : s.map foldAscii = w.map foldAscii) : ∀ c ∈ s, isAsciiBlank c = false := by
  intro c here
  obtain ⟨l, inWord, same⟩ := List.mem_map.mp (folded ▸ List.mem_map_of_mem here)
  have folds := member_foldAscii isAsciiBlank_of_isAsciiLetter
  rw [← folds c, ← same, folds l]
  simpa using List.all_eq_true.mp solid l inWord

/-- A part that does not stand for blanks spells none. -/
theorem Part.not_blank_of_spells {part : Part} (solid : part.spelling.all (!isAsciiBlank ·) = true)
    (other : part.isBlank = false) {s : List Char} (spelled : part.Spells s) :
    ∀ c ∈ s, isAsciiBlank c = false := by
  cases part with
  | letters w => exact not_blank_of_folded solid spelled
  | gap => cases other
  | space => cases other
  | digits => exact fun c here => isAsciiBlank_of_isAsciiDigit c (spelled.2 c here)
  | optional w =>
      rcases spelled with rfl | folded
      · exact List.forall_mem_nil _
      · exact not_blank_of_folded solid folded

theorem Part.blank_of_spells {part : Part} (blank : part.isBlank = true) {s : List Char}
    (spelled : part.Spells s) : ∀ c ∈ s, isAsciiBlank c = true := by
  cases part with
  | gap => exact spelled
  | space => exact spelled.2
  | letters w => cases blank
  | digits => cases blank
  | optional w => cases blank

/-- **Behind a blank a signal goes on**, perhaps after more blanks, with one of the characters that it
may go on with. -/
theorem Signal.resumes_of_spells {signal : Signal}
    (solid : ∀ part ∈ signal, part.spelling.all (!isAsciiBlank ·) = true) (ready : signal.Resumes)
    {front back : List Char} {c : Char} (blank : isAsciiBlank c = true)
    (spelled : signal.Spells (front ++ c :: back)) :
    ∃ gap d rest, back = gap ++ d :: rest ∧ (∀ e ∈ gap, isAsciiBlank e = true) ∧
      resumes d = true := by
  induction signal generalizing front with
  | nil => exact absurd spelled (by simp [Signal.Spells])
  | cons part signal ih =>
      obtain ⟨first, solid⟩ := List.forall_mem_cons.mp solid
      obtain ⟨resumed, ready⟩ := ready
      obtain ⟨here, later, split, spelled, others⟩ := spelled
      rcases List.append_eq_append_iff.mp split with ⟨inside, rfl, rest⟩ | ⟨between, rfl, rfl⟩
      · cases inside with
        | nil =>
            obtain rfl : c :: back = later := rest
            exact @ih solid ready [] others
        | cons e inside =>
            obtain ⟨rfl, rfl⟩ := List.cons.inj rest
            -- the blank is spelled by this part, which therefore stands for blanks
            have isBlank : part.isBlank = true := by
              by_contra other
              have notBlank := Part.not_blank_of_spells first (by simpa using other) spelled
              rw [notBlank c (by simp)] at blank
              cases blank
            obtain ⟨d, behind, rfl, next⟩ := resumed isBlank later others
            refine ⟨inside, d, behind, rfl, fun e among => ?_, by simpa using next⟩
            exact Part.blank_of_spells isBlank spelled e (by simp [among])
      · exact ih solid ready others

/-! ## Joints -/

/-- Behind its leading blanks the text begins with no character that a signal may go on with. -/
def Fresh (s : List Char) : Prop := (s.dropWhile isAsciiBlank).head?.all (!resumes ·) = true

theorem not_fresh {gap rest : List Char} {d : Char} (blank : ∀ e ∈ gap, isAsciiBlank e = true)
    (resumed : resumes d = true) : ¬ Fresh (gap ++ d :: rest) := by
  unfold Fresh
  rw [dropWhile_append_cons blank (isAsciiBlank_of_visible (visible_of_resumes resumed))]
  simp [resumed]

/-- A text is fresh if behind blanks of any kind it begins with another character. -/
theorem fresh_of_blanks {gap rest : List Char} {d : Char} (blank : ∀ e ∈ gap, isBlank e = true)
    (solid : isAsciiBlank d = false) (other : resumes d = false) : Fresh (gap ++ d :: rest) := by
  induction gap with
  | nil =>
      unfold Fresh
      rw [List.nil_append, List.dropWhile_cons_of_neg (by simp [solid])]
      simp [other]
  | cons e gap ih =>
      obtain ⟨first, blank⟩ := List.forall_mem_cons.mp blank
      by_cases ascii : isAsciiBlank e = true
      · unfold Fresh
        rw [List.cons_append, List.dropWhile_cons_of_pos ascii]
        exact ih blank
      · unfold Fresh
        rw [List.cons_append, List.dropWhile_cons_of_neg ascii]
        have plain : resumes e = false := by
          by_contra resumed
          rw [isBlank_of_visible (visible_of_resumes (by simpa using resumed))] at first
          cases first
        simp [plain]

/-- A signal at the front of a part that ends in a line feed does not run into a fresh text. -/
theorem opens_append {part s : List Char} (feed : part.getLast? = some '\n') (fresh : Fresh s) :
    Opens (part ++ s) ↔ Opens part := by
  have goesOn : ∀ signal ∈ signals, ∀ front back, signal.Spells (front ++ '\n' :: back) →
      ∃ gap d rest, back = gap ++ d :: rest ∧ (∀ e ∈ gap, isAsciiBlank e = true) ∧
        resumes d = true := fun signal known front back spelled =>
    Signal.resumes_of_spells (solid_of_mem signal known) (resumes_of_mem signal known) rfl spelled
  obtain ⟨front, rfl⟩ := List.getLast?_eq_some_iff.mp feed
  constructor
  · rintro ⟨signal, known, occurrence, after, split, spelled, next⟩
    rcases List.append_eq_append_iff.mp split with ⟨more, rfl, rfl⟩ | ⟨between, whole, rfl⟩
    · rw [List.append_assoc, List.singleton_append] at spelled
      obtain ⟨gap, d, rest, rfl, blank, resumed⟩ := goesOn signal known front more spelled
      rw [List.append_assoc, List.cons_append] at fresh
      exact absurd fresh (not_fresh blank resumed)
    · cases between with
      | nil =>
          obtain rfl : front ++ ['\n'] = occurrence := by simpa using whole
          obtain ⟨gap, d, rest, none, -⟩ := goesOn signal known front [] spelled
          exact absurd none (by simp)
      | cons c between => exact ⟨signal, known, occurrence, c :: between, whole, spelled, next⟩
  · rintro ⟨signal, known, occurrence, after, split, spelled, next⟩
    cases after with
    | nil =>
        obtain rfl : front ++ ['\n'] = occurrence := by simpa using split
        obtain ⟨gap, d, rest, none, -⟩ := goesOn signal known front [] spelled
        exact absurd none (by simp)
    | cons c after =>
        refine ⟨signal, known, occurrence, c :: after ++ s, ?_, spelled, next⟩
        rw [split, List.append_assoc]

/-- **Nothing is found across a joint**: in front of a fresh text, a part that ends in a line feed has
the signals that it has alone. -/
theorem foundFrom_append {part s : List Char} (feed : part.getLast? = some '\n') (fresh : Fresh s)
    (inWord : Bool) :
    foundFrom inWord (part ++ s) = true ↔ foundFrom inWord part = true ∨ foundFrom false s = true := by
  induction part generalizing inWord with
  | nil => cases feed
  | cons c part ih =>
      cases part with
      | nil =>
          obtain rfl : c = '\n' := by simpa using feed
          rw [List.singleton_append, foundFrom_skip rfl, foundFrom_skip rfl]
          simp [foundFrom]
      | cons d part =>
          have feed' : (d :: part).getLast? = some '\n' := by
            rwa [List.getLast?_cons_cons] at feed
          have opens := opens_append feed fresh
          rw [List.cons_append] at opens ⊢
          rw [foundFrom_cons, foundFrom_cons, opens, ih feed', or_assoc]

end IntentSpec.Leak
