import IntentSpec.Text.Pieces

/-!
# Pieces between separators

Cutting a text at a separator is what the library does under another name (`splitAt_eq_splitOn`).  So the
pieces with the separator between them are the text again (`intercalate_splitAt`), and pieces without the
separator in them come back out of the text that they are put together to (`splitAt_intercalate`).

Looking for a text in another is the infix relation of the library (`occurs_iff`).  What has no separator in it
is found in a text that has been put together exactly if it is found in one of the pieces
(`infix_intercalate_iff`); what has one may also be found across them.
-/

namespace IntentSpec.Text

variable {mark : Char}

theorem splitAt_eq_splitOn (mark : Char) (s : List Char) : splitAt mark s = s.splitOn mark := by
  induction s with
  | nil => exact (List.splitOn_nil mark).symm
  | cons c s ih =>
      obtain ⟨piece, pieces, split⟩ := List.exists_cons_of_ne_nil (List.splitOn_ne_nil mark s)
      rw [splitAt, List.splitOn_cons_eq_if_modifyHead, ih, split]
      by_cases here : c = mark
      · rw [if_pos here, if_pos (beq_iff_eq.mpr here)]
      · rw [if_neg here, if_neg (mt beq_iff_eq.mp here)]
        rfl

theorem splitAt_ne_nil (mark : Char) (s : List Char) : splitAt mark s ≠ [] := by
  rw [splitAt_eq_splitOn]
  exact List.splitOn_ne_nil mark s

theorem splitAt_of_notMem {s : List Char} (new : mark ∉ s) : splitAt mark s = [s] := by
  rw [splitAt_eq_splitOn, List.splitOn_eq_singleton new]

theorem splitAt_append {front : List Char} (new : mark ∉ front) (rest : List Char) :
    splitAt mark (front ++ mark :: rest) = front :: splitAt mark rest := by
  rw [splitAt_eq_splitOn, splitAt_eq_splitOn, List.splitOn_append_cons_self_of_not_mem new]

theorem splitAt_replicate (mark : Char) (n : Nat) (s : List Char) :
    splitAt mark (List.replicate n mark ++ s) = List.replicate n [] ++ splitAt mark s := by
  induction n with
  | zero => rfl
  | succ n ih =>
      rw [List.replicate_succ, List.replicate_succ, List.cons_append, splitAt, if_pos rfl, ih,
        List.cons_append]

theorem mem_of_mem_prepend {c d : Char} {ls : List (List Char)} {line : List Char}
    (here : line ∈ prepend c ls) (inside : d ∈ line) : d = c ∨ ∃ line ∈ ls, d ∈ line := by
  cases ls with
  | nil =>
      obtain rfl := List.mem_singleton.mp here
      exact .inl (List.mem_singleton.mp inside)
  | cons first rest =>
      rcases List.mem_cons.mp here with rfl | later
      · rcases List.mem_cons.mp inside with same | further
        · exact .inl same
        · exact .inr ⟨first, List.mem_cons_self, further⟩
      · exact .inr ⟨line, List.mem_cons_of_mem _ later, inside⟩

/-- The characters of a piece are characters of the text, and none of them is the mark. -/
theorem ne_and_mem_of_mem_splitAt {s piece : List Char} {d : Char} (listed : piece ∈ splitAt mark s)
    (here : d ∈ piece) : d ≠ mark ∧ d ∈ s := by
  induction s generalizing piece with
  | nil =>
      obtain rfl := List.mem_singleton.mp listed
      cases here
  | cons c s ih =>
      unfold splitAt at listed
      split at listed
      next =>
        rcases List.mem_cons.mp listed with rfl | later
        · cases here
        · exact (ih later here).imp_right (List.mem_cons_of_mem c)
      next other =>
        rcases mem_of_mem_prepend listed here with rfl | ⟨piece, later, here⟩
        · exact ⟨other, List.mem_cons_self⟩
        · exact (ih later here).imp_right (List.mem_cons_of_mem c)

theorem notMem_of_mem_splitAt {s piece : List Char} (listed : piece ∈ splitAt mark s) : mark ∉ piece :=
  fun here => (ne_and_mem_of_mem_splitAt listed here).1 rfl

/-- Pieces without the mark are what is between the marks that are put between them. -/
theorem splitAt_intercalate {pieces : List (List Char)} (some : pieces ≠ [])
    (plain : ∀ piece ∈ pieces, mark ∉ piece) : splitAt mark ([mark].intercalate pieces) = pieces := by
  rw [splitAt_eq_splitOn, List.splitOn_intercalate mark plain some]

/-- The pieces with the mark between them are the text. -/
theorem intercalate_splitAt (mark : Char) (s : List Char) : [mark].intercalate (splitAt mark s) = s := by
  rw [splitAt_eq_splitOn, List.intercalate_splitOn]

/-! ## Occurrences -/

theorem occurs_iff (needle s : List Char) : occurs needle s = true ↔ needle <:+: s := by
  induction s with
  | nil => rw [occurs, List.isEmpty_iff, List.infix_nil]
  | cons c s ih => rw [occurs, Bool.or_eq_true, List.isPrefixOf_iff_prefix, ih, List.infix_cons_iff]

/-- What has no mark in it does not reach across one. -/
theorem infix_append_cons_iff {needle front rest : List Char} (given : needle ≠ []) (plain : mark ∉ needle) :
    needle <:+: front ++ mark :: rest ↔ needle <:+: front ∨ needle <:+: rest := by
  constructor
  · rintro ⟨before, after, split⟩
    rw [List.append_assoc] at split
    rcases List.append_eq_append_iff.mp split with ⟨c, isFront, inside⟩ | ⟨c, rfl, behind⟩
    · rcases List.append_eq_append_iff.mp inside with ⟨d, rfl, -⟩ | ⟨d, rfl, reaches⟩
      · exact .inl ⟨before, d, by rw [isFront, List.append_assoc]⟩
      · cases d with
        | nil => exact .inl ⟨before, [], by simp [isFront]⟩
        | cons m d =>
            obtain rfl : mark = m := (List.cons.inj reaches).1
            exact absurd (List.mem_append_right _ List.mem_cons_self) plain
    · cases c with
      | nil =>
          obtain ⟨m, needle, rfl⟩ := List.exists_cons_of_ne_nil given
          obtain rfl : mark = m := (List.cons.inj behind).1
          exact absurd List.mem_cons_self plain
      | cons m c =>
          obtain ⟨-, rfl⟩ := List.cons.inj behind
          exact .inr ⟨c, after, List.append_assoc ..⟩
  · rintro (⟨before, after, rfl⟩ | ⟨before, after, rfl⟩)
    · exact ⟨before, after ++ mark :: rest, by simp⟩
    · exact ⟨front ++ mark :: before, after, by simp⟩

/-- **What has no mark in it is found in one of the pieces**, if it is found in what they are put together to. -/
theorem infix_intercalate_iff {needle : List Char} (given : needle ≠ []) (plain : mark ∉ needle)
    (pieces : List (List Char)) :
    needle <:+: [mark].intercalate pieces ↔ ∃ piece ∈ pieces, needle <:+: piece := by
  induction pieces with
  | nil => simp [given]
  | cons piece pieces ih =>
      cases pieces with
      | nil => simp
      | cons other pieces =>
          rw [List.intercalate_cons_cons, List.append_assoc, List.singleton_append,
            infix_append_cons_iff given plain, ih]
          simp only [List.mem_cons, exists_eq_or_imp]

end IntentSpec.Text
