import IntentSpec.Json.Printer

/-!
# Reading back quoted texts

In the styles that do not escape characters beyond ASCII, thirty-four characters are escaped: the
control characters, the quotation mark and the backslash.  No escape is the beginning of another,
and every other character stands for itself, so a quoted text can be told from what follows it
(`quote_cancel`).

The closing quotation mark is what ends a text, and it can be told from everything inside, since a
quotation mark inside is written with a backslash in front of it.  That the escapes are prefix-free is a
statement about finitely many texts and is decided; the characters that stand for themselves are too
many for that, and for them it is enough that none of them is a backslash.
-/

namespace IntentSpec.Json

/-- The characters that every style escapes. -/
def escapedChars : List Char := (List.range 0x20).map Char.ofNat ++ ['"', '\\']

theorem mem_escapedChars {c : Char} (h : c.toNat < 0x20) : c ∈ escapedChars := by
  refine List.mem_append_left _ (List.mem_map.mpr ⟨c.toNat, List.mem_range.mpr h, ?_⟩)
  exact Char.ofNat_toNat c

/-- A character that is not escaped stands for itself. -/
theorem escapeChar_of_notMem {c : Char} (h : c ∉ escapedChars) : escapeChar false c = [c] := by
  have control : ¬ c.toNat < 0x20 := fun low => h (mem_escapedChars low)
  unfold escapeChar
  split
  · exact absurd (by decide) h
  · exact absurd (by decide) h
  · exact absurd (by decide) h
  · exact absurd (by decide) h
  · exact absurd (by decide) h
  · exact absurd (by decide) h
  · exact absurd (by decide) h
  · dsimp only
    rw [if_neg control]
    rfl

/-- An escape starts with a backslash. -/
theorem head_escapeChar {c : Char} (hc : c ∈ escapedChars) :
    (escapeChar false c).head? = some '\\' := by
  have table : (escapedChars.all fun c => (escapeChar false c).head? == some '\\') = true := by
    decide
  exact eq_of_beq (List.all_eq_true.mp table c hc)

/-- No escape is the beginning of another. -/
theorem escapeChar_prefixFree {c d : Char} (hc : c ∈ escapedChars) (hd : d ∈ escapedChars)
    (h : escapeChar false c <+: escapeChar false d) : c = d := by
  have table : (escapedChars.all fun c => escapedChars.all fun d =>
      !(escapeChar false c).isPrefixOf (escapeChar false d) || c == d) = true := by
    decide +kernel
  have entry := List.all_eq_true.mp (List.all_eq_true.mp table c hc) d hd
  rw [List.isPrefixOf_iff_prefix.mpr h] at entry
  exact eq_of_beq entry

/-- What an escape starts is not what a character starts that stands for itself. -/
theorem escapeChar_append_ne {c d : Char} (hc : c ∈ escapedChars) (hd : d ≠ '\\')
    (rest rest' : List Char) : escapeChar false c ++ rest ≠ d :: rest' := by
  intro h
  have first : ('\\' : Char) = d := by
    have heads := congrArg List.head? h
    rw [List.head?_append, head_escapeChar hc] at heads
    exact Option.some.inj heads
  exact hd first.symm

/-- The written form of a character is told from what follows it. -/
theorem escapeChar_cancel {c d : Char} {rest rest' : List Char}
    (h : escapeChar false c ++ rest = escapeChar false d ++ rest') : c = d ∧ rest = rest' := by
  have backslash : '\\' ∈ escapedChars := by decide
  have same : c = d := by
    by_cases hc : c ∈ escapedChars
    · by_cases hd : d ∈ escapedChars
      · have begins : escapeChar false d <+: escapeChar false c ++ rest :=
          h ▸ List.prefix_append (escapeChar false d) rest'
        rcases List.prefix_or_prefix_of_prefix (List.prefix_append (escapeChar false c) rest) begins
          with less | more
        · exact escapeChar_prefixFree hc hd less
        · exact (escapeChar_prefixFree hd hc more).symm
      · rw [escapeChar_of_notMem hd] at h
        have other : d ≠ '\\' := fun e => hd (e ▸ backslash)
        exact absurd h (escapeChar_append_ne hc other rest rest')
    · rw [escapeChar_of_notMem hc] at h
      by_cases hd : d ∈ escapedChars
      · have other : c ≠ '\\' := fun e => hc (e ▸ backslash)
        exact absurd h.symm (escapeChar_append_ne hd other rest' rest)
      · rw [escapeChar_of_notMem hd] at h
        exact (List.cons.inj h).1
  subst same
  exact ⟨rfl, List.append_cancel_left h⟩

/-- The quotation mark ends a text: no character is written so that it starts with it. -/
theorem escapeChar_append_ne_quote (c : Char) (rest rest' : List Char) :
    escapeChar false c ++ rest ≠ '"' :: rest' := by
  by_cases hc : c ∈ escapedChars
  · exact escapeChar_append_ne hc (by decide) rest rest'
  · rw [escapeChar_of_notMem hc]
    intro h
    have mark : c = '"' := (List.cons.inj h).1
    exact hc (mark ▸ by decide)

/-- A quoted text is told from what follows it. -/
theorem quote_cancel {s t : String} {rest rest' : List Char}
    (h : quote false s ++ rest = quote false t ++ rest') : s = t ∧ rest = rest' := by
  have body : ∀ l m : List Char,
      l.flatMap (escapeChar false) ++ '"' :: rest = m.flatMap (escapeChar false) ++ '"' :: rest' →
        l = m ∧ rest = rest' := by
    intro l
    induction l with
    | nil =>
        intro m h
        cases m with
        | nil => exact ⟨rfl, (List.cons.inj h).2⟩
        | cons d m =>
            rw [List.flatMap_cons, List.append_assoc] at h
            exact absurd h.symm (escapeChar_append_ne_quote d _ _)
    | cons c l ih =>
        intro m h
        cases m with
        | nil =>
            rw [List.flatMap_cons, List.append_assoc] at h
            exact absurd h (escapeChar_append_ne_quote c _ _)
        | cons d m =>
            rw [List.flatMap_cons, List.flatMap_cons, List.append_assoc, List.append_assoc] at h
            obtain ⟨rfl, tail⟩ := escapeChar_cancel h
            obtain ⟨rfl, last⟩ := ih m tail
            exact ⟨rfl, last⟩
  unfold quote at h
  simp only [List.cons_append, List.append_assoc, List.cons.injEq, true_and, List.nil_append] at h
  obtain ⟨same, last⟩ := body s.toList t.toList h
  exact ⟨String.toList_inj.mp same, last⟩

end IntentSpec.Json
