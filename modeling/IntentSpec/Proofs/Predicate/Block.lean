import IntentSpec.Predicate.Extract
import Mathlib.Data.List.Induction

/-!
# The predicates that the extraction finds

The extraction keeps a count of braces and the validation that it is reading.  What it finds can
be said without its state, by the lines in front of a line:

* a block opens at every line that begins with its opening, wherever that line stands, and it is
  open as long as the lines after it leave a brace open (`Block`);
* the validation that is being read is the one of the last heading since which a block has been
  open (`Current`);
* a predicate is taken on a line inside a block, for the validation that is being read (`Taken`),
  and the last one that is taken counts (`value?_extract_iff`).
-/

namespace IntentSpec.Predicate

open Text Document

/-! ## Kinds of lines exclude one another -/

theorem eq_append_of_dropWord? {word s rest : List Char} (h : dropWord? word s = some rest) :
    s = word ++ rest := by
  induction word generalizing s with
  | nil => exact Option.some.inj h
  | cons w word ih =>
      cases s with
      | nil => exact absurd h (by simp [dropWord?])
      | cons c s =>
          unfold dropWord? at h
          split at h
          next same => rw [eq_of_beq same, ih h, List.cons_append]
          next => exact absurd h (by simp)

theorem prefix_of_dropWord? {word s rest : List Char} (h : dropWord? word s = some rest) :
    word <+: s :=
  ⟨rest, (eq_append_of_dropWord? h).symm⟩

/-- A line as the extraction reads it: without its comment and the blanks at its ends. -/
def row (raw : List Char) : List Char := trim (stripComment raw)

theorem prefix_of_opensValidations {s : List Char} (h : opensValidations s = true) :
    "validations".toList <+: s := by
  unfold opensValidations at h
  split at h
  next rest found => exact prefix_of_dropWord? found
  next => exact absurd h (by decide)

theorem prefix_of_validationHeading? {s : List Char} {v : String}
    (h : validationHeading? s = some v) :
    "validate".toList <+: s := by
  unfold validationHeading? afterKeyword? at h
  cases found : dropWord? "validate".toList s with
  | none =>
      rw [found] at h
      exact absurd h (by simp)
  | some rest => exact prefix_of_dropWord? found

theorem prefix_of_predicateText? {s : List Char} {p : String} (h : predicateText? s = some p) :
    "predicate".toList <+: s := by
  unfold predicateText? at h
  cases found : dropWord? "predicate".toList s with
  | none =>
      rw [found] at h
      exact absurd h (by simp)
  | some rest => exact prefix_of_dropWord? found

/-- A line does not begin with two words of which neither begins with the other. -/
theorem not_two_prefixes {w w' s : List Char} (h : w <+: s) (h' : w' <+: s)
    (apart : ¬ w <+: w' ∧ ¬ w' <+: w) : False := by
  rcases List.prefix_or_prefix_of_prefix h h' with less | more
  · exact apart.1 less
  · exact apart.2 more

/-- The opening of a block is no heading. -/
theorem validationHeading?_of_opens {s : List Char} (h : opensValidations s = true) :
    validationHeading? s = none := by
  cases heading : validationHeading? s with
  | none => rfl
  | some v =>
      have word := prefix_of_validationHeading? heading
      exact (not_two_prefixes (prefix_of_opensValidations h) word (by decide)).elim

/-- The opening of a block carries no predicate. -/
theorem predicateText?_of_opens {s : List Char} (h : opensValidations s = true) :
    predicateText? s = none := by
  cases text : predicateText? s with
  | none => rfl
  | some p =>
      have word := prefix_of_predicateText? text
      exact (not_two_prefixes (prefix_of_opensValidations h) word (by decide)).elim

/-- A heading carries no predicate. -/
theorem predicateText?_of_heading {s : List Char} {v : String} (h : validationHeading? s = some v) :
    predicateText? s = none := by
  cases text : predicateText? s with
  | none => rfl
  | some p =>
      have word := prefix_of_predicateText? text
      exact (not_two_prefixes (prefix_of_validationHeading? h) word (by decide)).elim

/-! ## What a line does -/

variable {e : Extraction} {raw : List Char}

theorem step_of_opens (opens : opensValidations (row raw) = true) :
    e.step raw = { e with inside := true, depth := 1 } := by
  show (if opensValidations (row raw) then _ else _) = _
  rw [if_pos opens]

theorem step_of_outside (opens : opensValidations (row raw) = false) (outside : e.inside = false) :
    e.step raw = e := by
  unfold Extraction.step
  unfold row at opens
  simp [opens, outside]

theorem step_of_closes (opens : opensValidations (row raw) = false) (inside : e.inside = true)
    (closes : e.depth + balance (row raw) ≤ 0) :
    e.step raw =
      { e with inside := false, depth := e.depth + balance (row raw), current := none } := by
  unfold Extraction.step
  unfold row at opens closes ⊢
  simp [opens, inside, closes]

/-- The predicates after a line inside a block. -/
def record (text : Option String) (current : Option String) (found : List (String × String)) :
    List (String × String) :=
  match text, current with
  | some p, some v => setValue v p found
  | _, _ => found

theorem step_of_stays (opens : opensValidations (row raw) = false) (inside : e.inside = true)
    (stays : 0 < e.depth + balance (row raw)) :
    e.step raw =
      { inside := true
        depth := e.depth + balance (row raw)
        current := (validationHeading? (row raw)).or e.current
        found := record (predicateText? (row raw)) e.current e.found } := by
  have open' : ¬ e.depth + balance (row raw) ≤ 0 := by omega
  cases heading : validationHeading? (row raw) with
  | some v =>
      have silent := predicateText?_of_heading heading
      unfold Extraction.step
      unfold row at *
      simp [opens, inside, open', heading, silent, record]
  | none =>
      unfold Extraction.step record
      unfold row at *
      cases text : predicateText? (trim (stripComment raw)) <;> cases current : e.current <;>
        simp [opens, inside, open', heading, text]

/-- **A line opens a block, is passed over outside of blocks, stays in the block or closes it.** -/
theorem step_cases (e : Extraction) (raw : List Char) :
    (opensValidations (row raw) = true ∧ e.step raw = { e with inside := true, depth := 1 }) ∨
    (opensValidations (row raw) = false ∧ e.inside = false ∧ e.step raw = e) ∨
    (opensValidations (row raw) = false ∧ e.inside = true ∧ 0 < e.depth + balance (row raw) ∧
      e.step raw =
        { inside := true
          depth := e.depth + balance (row raw)
          current := (validationHeading? (row raw)).or e.current
          found := record (predicateText? (row raw)) e.current e.found }) ∨
    (opensValidations (row raw) = false ∧ e.inside = true ∧ e.depth + balance (row raw) ≤ 0 ∧
      e.step raw =
        { e with inside := false, depth := e.depth + balance (row raw), current := none }) := by
  cases opens : opensValidations (row raw) with
  | true => exact Or.inl ⟨rfl, step_of_opens opens⟩
  | false =>
      cases inside : e.inside with
      | false => exact Or.inr (Or.inl ⟨rfl, rfl, step_of_outside opens inside⟩)
      | true =>
          rcases Int.lt_or_le 0 (e.depth + balance (row raw)) with stays | closes
          · exact Or.inr (Or.inr (Or.inl ⟨rfl, rfl, stays, step_of_stays opens inside stays⟩))
          · exact Or.inr (Or.inr (Or.inr ⟨rfl, rfl, closes, step_of_closes opens inside closes⟩))

/-- The state after some lines. -/
def run (ls : List (List Char)) : Extraction := ls.foldl Extraction.step {}

theorem run_concat (ls : List (List Char)) (raw : List Char) :
    run (ls ++ [raw]) = (run ls).step raw := by
  unfold run
  rw [List.foldl_append]
  rfl

/-- A list with a last item, cut at some item: the cut is at the last item or in front of it. -/
theorem concat_eq_append_cons {α : Type} {l front back : List α} {a b : α}
    (h : l ++ [a] = front ++ b :: back) :
    (back = [] ∧ front = l ∧ b = a) ∨ ∃ back', back = back' ++ [a] ∧ l = front ++ b :: back' := by
  rcases List.eq_nil_or_concat back with rfl | ⟨back', c, rfl⟩
  · obtain ⟨fronts, lasts⟩ := List.append_inj' h rfl
    exact Or.inl ⟨rfl, fronts.symm, (List.cons.inj lasts).1.symm⟩
  · rw [List.concat_eq_append] at h ⊢
    rw [← List.cons_append, ← List.append_assoc] at h
    obtain ⟨fronts, lasts⟩ := List.append_inj' h rfl
    obtain rfl : a = c := (List.cons.inj lasts).1
    exact Or.inr ⟨back', rfl, fronts⟩

/-- What holds of the beginnings of a list with a last item: it holds of those without the item and
of the whole. -/
theorem forall_take_concat {α : Type} (good : List α → Prop) {l : List α} {a : α} :
    (∀ n ≤ (l ++ [a]).length, good ((l ++ [a]).take n)) ↔
      (∀ n ≤ l.length, good (l.take n)) ∧ good (l ++ [a]) := by
  rw [List.length_append, List.length_singleton]
  constructor
  · intro every
    refine ⟨fun n hn => ?_, ?_⟩
    · have here := every n (by omega)
      rwa [List.take_append_of_le_length hn] at here
    · have whole := every (l.length + 1) (Nat.le_refl _)
      rwa [List.take_of_length_le (by simp)] at whole
  · rintro ⟨before, whole⟩ n hn
    by_cases shorter : n ≤ l.length
    · rw [List.take_append_of_le_length shorter]
      exact before n shorter
    · rw [List.take_of_length_le (by rw [List.length_append, List.length_singleton]; omega)]
      exact whole

/-- What holds of the items of a list with a last item. -/
theorem forall_mem_concat {α : Type} {good : α → Prop} {l : List α} {a : α} :
    (∀ b ∈ l ++ [a], good b) ↔ (∀ b ∈ l, good b) ∧ good a := by
  rw [List.forall_mem_append, List.forall_mem_singleton]

/-! ## Blocks -/

/-- The braces that lines open and do not close. -/
def rise : List (List Char) → Int
  | [] => 0
  | raw :: back => balance (row raw) + rise back

theorem rise_concat (back : List (List Char)) (raw : List Char) :
    rise (back ++ [raw]) = rise back + balance (row raw) := by
  induction back with
  | nil => simp [rise]
  | cons first back ih =>
      rw [List.cons_append, rise, rise, ih]
      omega

/-- The lines end inside a block with so many braces open: a line opened the block, no line opened
another one since, and a brace of the block was open after each line. -/
def Block (ls : List (List Char)) (depth : Int) : Prop :=
  ∃ front opening back, ls = front ++ opening :: back ∧ opensValidations (row opening) = true ∧
    (∀ raw ∈ back, opensValidations (row raw) = false) ∧
    (∀ n ≤ back.length, 0 < 1 + rise (back.take n)) ∧ depth = 1 + rise back

theorem not_block_nil (depth : Int) : ¬ Block [] depth := by
  rintro ⟨front, opening, back, h, -⟩
  exact absurd h (by simp)

/-- The last line opens a block, or it leaves a brace open in the block that it is in. -/
theorem block_concat (ls : List (List Char)) (raw : List Char) (depth : Int) :
    Block (ls ++ [raw]) depth ↔ (opensValidations (row raw) = true ∧ depth = 1) ∨
      (opensValidations (row raw) = false ∧ 0 < depth ∧ Block ls (depth - balance (row raw))) := by
  constructor
  · rintro ⟨front, opening, back, split, opens, others, still, rfl⟩
    rcases concat_eq_append_cons split with ⟨rfl, -, rfl⟩ | ⟨back, rfl, rfl⟩
    · exact Or.inl ⟨opens, by simp [rise]⟩
    · obtain ⟨others, other⟩ := forall_mem_concat.mp others
      obtain ⟨still, last⟩ := (forall_take_concat fun l => 0 < 1 + rise l).mp still
      refine Or.inr ⟨other, last, front, opening, back, rfl, opens, others, still, ?_⟩
      rw [rise_concat]
      omega
  · rintro (⟨opens, rfl⟩ | ⟨other, positive, front, opening, back, rfl, opens, others, still, same⟩)
    · exact ⟨ls, raw, [], rfl, opens, by simp, by simp [rise], by simp [rise]⟩
    · have total : depth = 1 + rise (back ++ [raw]) := by
        rw [rise_concat]
        omega
      rw [total] at positive
      exact ⟨front, opening, back ++ [raw], by simp, opens, forall_mem_concat.mpr ⟨others, other⟩,
        (forall_take_concat fun l => 0 < 1 + rise l).mpr ⟨still, positive⟩, total⟩

/-- **The extraction is inside exactly when a block is open, and counts its braces.** An opening
inside a block starts a new one, so the block is that of the last opening. -/
theorem run_inside_iff (ls : List (List Char)) (depth : Int) :
    ((run ls).inside = true ∧ (run ls).depth = depth) ↔ Block ls depth := by
  -- The depth is counted outside of blocks, too, where it means nothing; so both are said at once.
  induction ls using List.reverseRecOn generalizing depth with
  | nil =>
      refine ⟨fun h => absurd h.1 (by decide), fun h => absurd h (not_block_nil depth)⟩
  | append_singleton ls raw ih =>
      rw [run_concat, block_concat, ← ih]
      rcases step_cases (run ls) raw with ⟨opens, step⟩ | ⟨opens, inside, step⟩ |
        ⟨opens, inside, stays, step⟩ | ⟨opens, inside, closes, step⟩
      · rw [step, opens]
        simp only [true_and, Bool.true_eq_false, false_and, or_false]
        exact eq_comm
      · rw [step, opens]
        simp [inside]
      · rw [step, opens]
        simp only [inside, true_and, Bool.false_eq_true, false_and, false_or]
        omega
      · -- a closed block has no depth that is positive
        rw [step, opens]
        simp only [inside, Bool.false_eq_true, false_and, true_and, false_or, false_iff]
        omega

/-- The lines end inside a block. -/
def Within (ls : List (List Char)) : Prop := ∃ depth, Block ls depth

theorem within_iff (ls : List (List Char)) : Within ls ↔ (run ls).inside = true := by
  constructor
  · rintro ⟨depth, block⟩
    exact ((run_inside_iff ls depth).mpr block).1
  · intro inside
    exact ⟨(run ls).depth, (run_inside_iff ls _).mp ⟨inside, rfl⟩⟩

/-! ## The validation that is being read -/

/-- The lines have a heading of the validation, no other heading after it, and a block open ever
since. -/
def Current (ls : List (List Char)) (v : String) : Prop :=
  ∃ front heading back, ls = front ++ heading :: back ∧ validationHeading? (row heading) = some v ∧
    (∀ raw ∈ back, validationHeading? (row raw) = none) ∧
    ∀ n ≤ back.length, Within (front ++ heading :: back.take n)

theorem current_concat (ls : List (List Char)) (raw : List Char) (v : String) :
    Current (ls ++ [raw]) v ↔ Within (ls ++ [raw]) ∧ (validationHeading? (row raw) = some v ∨
      (validationHeading? (row raw) = none ∧ Current ls v)) := by
  constructor
  · rintro ⟨front, heading, back, split, names, others, still⟩
    rcases concat_eq_append_cons split with ⟨rfl, rfl, rfl⟩ | ⟨back, rfl, rfl⟩
    · exact ⟨by simpa using still 0 (Nat.le_refl 0), Or.inl names⟩
    · obtain ⟨others, other⟩ := forall_mem_concat.mp others
      obtain ⟨still, last⟩ := (forall_take_concat fun l => Within (front ++ heading :: l)).mp still
      rw [← List.cons_append, ← List.append_assoc] at last
      exact ⟨last, Or.inr ⟨other, front, heading, back, rfl, names, others, still⟩⟩
  · rintro ⟨within, names | ⟨other, front, heading, back, rfl, names, others, still⟩⟩
    · exact ⟨ls, raw, [], rfl, names, by simp, fun n _ => by simpa using within⟩
    · rw [List.append_assoc, List.cons_append] at within
      exact ⟨front, heading, back ++ [raw], by simp, names, forall_mem_concat.mpr ⟨others, other⟩,
        (forall_take_concat fun l => Within (front ++ heading :: l)).mpr ⟨still, within⟩⟩

/-- Outside of blocks no validation is being read. -/
theorem run_current_eq_none {ls : List (List Char)} (outside : (run ls).inside = false) :
    (run ls).current = none := by
  induction ls using List.reverseRecOn with
  | nil => rfl
  | append_singleton ls raw ih =>
      rw [run_concat] at outside ⊢
      rcases step_cases (run ls) raw with ⟨-, step⟩ | ⟨-, still, step⟩ | ⟨-, -, -, step⟩ |
        ⟨-, -, -, step⟩
      · rw [step] at outside
        exact absurd outside (by simp)
      · rw [step]
        exact ih still
      · rw [step] at outside
        exact absurd outside (by simp)
      · rw [step]

/-- **The extraction reads the validation of the last heading since which a block has been open.**
An opening in between does not end it, but the end of a block does. -/
theorem run_current_iff (ls : List (List Char)) (v : String) :
    (run ls).current = some v ↔ Current ls v := by
  induction ls using List.reverseRecOn with
  | nil =>
      constructor
      · intro h
        exact absurd h (Option.some_ne_none v).symm
      · rintro ⟨front, heading, back, h, -⟩
        exact absurd h (by simp)
  | append_singleton ls raw ih =>
      rw [current_concat, within_iff, ← ih, run_concat]
      rcases step_cases (run ls) raw with ⟨opens, step⟩ | ⟨-, outside, step⟩ | ⟨-, -, -, step⟩ |
        ⟨-, -, -, step⟩
      · rw [step, validationHeading?_of_opens opens]
        simp
      · rw [step, run_current_eq_none outside]
        simp [outside]
      · rw [step]
        cases validationHeading? (row raw) <;> simp
      · rw [step]
        simp

/-! ## The last line that carries a text -/

/-- The text of the last line that carries one, where what a line carries depends on the lines in
front. -/
def LastText (reads : List (List Char) → List Char → String → Prop) (ls : List (List Char))
    (p : String) : Prop :=
  ∃ front raw back, ls = front ++ raw :: back ∧ reads front raw p ∧
    ∀ middle later rest, back = middle ++ later :: rest →
      ∀ q, ¬ reads (front ++ raw :: middle) later q

theorem not_lastText_nil (reads : List (List Char) → List Char → String → Prop) (p : String) :
    ¬ LastText reads [] p := by
  rintro ⟨front, raw, back, h, -⟩
  exact absurd h (by simp)

theorem lastText_concat (reads : List (List Char) → List Char → String → Prop)
    (ls : List (List Char)) (raw : List Char) (p : String) :
    LastText reads (ls ++ [raw]) p ↔
      reads ls raw p ∨ ((∀ q, ¬ reads ls raw q) ∧ LastText reads ls p) := by
  constructor
  · rintro ⟨front, first, back, split, carries, silent⟩
    rcases concat_eq_append_cons split with ⟨rfl, rfl, rfl⟩ | ⟨back, rfl, rfl⟩
    · exact Or.inl carries
    · refine Or.inr ⟨silent back raw [] rfl, front, first, back, rfl, carries, ?_⟩
      rintro middle later rest rfl
      exact silent middle later (rest ++ [raw]) (by simp)
  · rintro (carries | ⟨quiet, front, first, back, rfl, carries, silent⟩)
    · refine ⟨ls, raw, [], rfl, carries, ?_⟩
      intro middle later rest h
      exact absurd h (by simp)
    · refine ⟨front, first, back ++ [raw], by simp, carries, ?_⟩
      intro middle later rest split
      rcases concat_eq_append_cons split with ⟨rfl, rfl, rfl⟩ | ⟨rest, rfl, rfl⟩
      · exact quiet
      · exact silent middle later rest rfl

/-! ## The predicates that are taken -/

/-- The line stands inside a block, in which the validation is being read, and carries the
predicate. -/
def Taken (v : String) (front : List (List Char)) (raw : List Char) (p : String) : Prop :=
  Within (front ++ [raw]) ∧ Current front v ∧ predicateText? (row raw) = some p

theorem value?_setValue (v k p : String) (l : List (String × String)) :
    value? v (setValue k p l) = if v = k then some p else value? v l := by
  induction l with
  | nil =>
      by_cases same : v = k
      · simp [setValue, value?, same]
      · simp [setValue, value?, same, Ne.symm same]
  | cons m l ih =>
      obtain ⟨k', p'⟩ := m
      have look : ∀ (k p : String) l,
          value? v ((k, p) :: l) = if k = v then some p else value? v l := by
        intro k p l
        unfold value?
        by_cases here : k = v
        · simp [here]
        · simp [beq_false_of_ne here, here]
      unfold setValue
      by_cases found : k' = k
      · rw [if_pos found, look, look]
        by_cases same : k = v
        · simp [same]
        · simp [same, Ne.symm same, found]
      · rw [if_neg found, look, look, ih]
        by_cases same : k' = v
        · have other : v ≠ k := fun e => found (same.trans e)
          simp [same, other]
        · simp [same]

/-- A line inside a block changes what is found for the validation that is being read, if the line
carries a predicate. -/
theorem value?_record_iff (v p : String) (text current : Option String)
    (found : List (String × String)) :
    value? v (record text current found) = some p ↔ (current = some v ∧ text = some p) ∨
      ((∀ q, ¬ (current = some v ∧ text = some q)) ∧ value? v found = some p) := by
  cases text with
  | none => simp [record]
  | some q =>
      cases current with
      | none => simp [record]
      | some w =>
          simp only [record, value?_setValue]
          by_cases same : v = w
          · simp [same]
          · simp [same, Ne.symm same]

/-- **What the extraction finds for a validation is the predicate that was taken last for it.** -/
theorem value?_run_iff (ls : List (List Char)) (v p : String) :
    value? v (run ls).found = some p ↔ LastText (Taken v) ls p := by
  -- From the end: the last line carries the predicate, or it carries none and leaves the rest.
  induction ls using List.reverseRecOn with
  | nil =>
      constructor
      · intro h
        exact absurd h (by simp [run, value?])
      · intro h
        exact absurd h (not_lastText_nil _ p)
  | append_singleton ls raw ih =>
      rw [lastText_concat, ← ih]
      unfold Taken
      rw [within_iff, ← run_current_iff, run_concat]
      rcases step_cases (run ls) raw with ⟨opens, step⟩ | ⟨-, outside, step⟩ | ⟨-, -, -, step⟩ |
        ⟨-, -, -, step⟩
      · rw [step, predicateText?_of_opens opens]
        simp
      · rw [step, run_current_eq_none outside]
        simp
      · rw [step]
        simp only [true_and]
        exact value?_record_iff v p _ _ _
      · rw [step]
        simp

/-- The predicates of a text. -/
theorem value?_extract_iff (text v p : String) :
    value? v (extract text) = some p ↔ LastText (Taken v) (lines text.toList) p :=
  value?_run_iff (lines text.toList) v p

end IntentSpec.Predicate
