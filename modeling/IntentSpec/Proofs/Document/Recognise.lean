import IntentSpec.Proofs.Predicate.Routing
import IntentSpec.Proofs.Text.Class

/-!
# What the recognisers accept

The recognisers of lines read a text from its front and hand on what follows.  Here they are
described by the texts that they accept, so that later proofs argue about the shape of a line and do
not open a recogniser again.

A keyword is followed by what is not part of it, and for most of them this has to be asked for.  The
names of sections are the exception: none of them begins with another one (`SectionKind.eq_of_prefix`),
so a line opens one section at most and the order in which the names are tried does not matter.

* `dropWord?_eq_some_iff` — a fixed word.
* `Trimmed`, `trim_append` — what trimming leaves of a line with blanks at its ends.
* `isIdentifier`, `isHyphenated` — identifiers, and those that may have hyphens inside.
* `sectionOpening?_eq_some_iff` — the opening of a section: its name, blanks and a brace.
* `balance_of_sectionOpening?` — it opens one brace, whatever the section.
-/

namespace IntentSpec.Document

open Text
open Predicate (eq_append_of_dropWord? not_two_prefixes count_dropWhile)

theorem dropWord?_append (word rest : List Char) : dropWord? word (word ++ rest) = some rest := by
  induction word with
  | nil => rfl
  | cons c word ih => rw [List.cons_append, dropWord?, if_pos (beq_self_eq_true c), ih]

theorem dropWord?_eq_some_iff (word s rest : List Char) :
    dropWord? word s = some rest ↔ s = word ++ rest := by
  constructor
  · exact eq_append_of_dropWord?
  · rintro rfl
    exact dropWord?_append word rest

/-! ## Trimming -/

theorem exists_trim (s : List Char) :
    ∃ before after, s = before ++ (trim s ++ after) ∧ (∀ c ∈ before, isBlank c = true) ∧
      ∀ c ∈ after, isBlank c = true := by
  refine ⟨s.takeWhile isBlank, ((trimStart s).reverse.takeWhile isBlank).reverse, ?_,
    List.all_eq_true.mp List.all_takeWhile, fun c hc => ?_⟩
  · unfold trim trimEnd
    rw [← List.reverse_append, List.takeWhile_append_dropWhile, List.reverse_reverse, trimStart,
      List.takeWhile_append_dropWhile]
  · exact List.all_eq_true.mp List.all_takeWhile c (List.mem_reverse.mp hc)

/-- Whether a text neither begins nor ends with a blank. -/
def Trimmed (s : List Char) : Prop :=
  s.head?.all (!isBlank ·) = true ∧ s.getLast?.all (!isBlank ·) = true

instance (s : List Char) : Decidable (Trimmed s) := inferInstanceAs (Decidable (_ ∧ _))

theorem dropWhile_of_head? {p : Char → Bool} {s : List Char} (first : s.head?.all (!p ·) = true) :
    s.dropWhile p = s := by
  cases s with
  | nil => rfl
  | cons c s => exact List.dropWhile_cons_of_neg (by simpa using first)

/-- Blanks at the end are trimmed away. -/
theorem trim_append_right {after : List Char} (blank : ∀ c ∈ after, isBlank c = true)
    (s : List Char) : trim (s ++ after) = trim s := by
  unfold trim trimEnd trimStart
  rw [List.dropWhile_append]
  split
  next nothing =>
    have none : (after ++ []).dropWhile isBlank = [] := by
      rw [List.dropWhile_append_of_pos blank, List.dropWhile_nil]
    rw [List.append_nil] at none
    rw [List.isEmpty_iff.mp nothing, none]
  next =>
    rw [List.reverse_append, List.dropWhile_append_of_pos fun c here =>
      blank c (List.mem_reverse.mp here)]

theorem trim_append_left {before : List Char} (blank : ∀ c ∈ before, isBlank c = true)
    (s : List Char) : trim (before ++ s) = trim s := by
  unfold trim trimStart
  rw [List.dropWhile_append_of_pos blank]

theorem trim_of_trimmed {s : List Char} (trimmed : Trimmed s) : trim s = s := by
  have last : s.reverse.head?.all (!isBlank ·) = true := by
    rw [List.head?_reverse]
    exact trimmed.2
  unfold trim trimEnd trimStart
  rw [dropWhile_of_head? trimmed.1, dropWhile_of_head? last, List.reverse_reverse]

theorem trim_append {before s after : List Char} (trimmed : Trimmed s)
    (blank : ∀ c ∈ before, isBlank c = true) (blank' : ∀ c ∈ after, isBlank c = true) :
    trim (before ++ (s ++ after)) = s := by
  rw [trim_append_left blank, trim_append_right blank', trim_of_trimmed trimmed]

theorem trim_trim (s : List Char) : trim (trim s) = trim s := by
  obtain ⟨before, after, split, blank, blank'⟩ := exists_trim s
  calc trim (trim s) = trim (before ++ (trim s ++ after)) := by
        rw [trim_append_left blank, trim_append_right blank']
    _ = trim s := by rw [← split]

/-! ## Names -/

/-- The characters of a name: word characters and hyphens. -/
def isNameChar (c : Char) : Bool := isAsciiWord c || c == '-'

/-- An identifier: a letter and then word characters. -/
def isIdentifier : List Char → Bool
  | [] => false
  | c :: s => isAsciiLetter c && s.all isAsciiWord

/-- An identifier with inner hyphens. -/
def isHyphenated : List Char → Bool
  | [] => false
  | c :: s => isAsciiLetter c && s.all isNameChar && (c :: s).getLast?.any isAsciiWord

theorem isNameChar_of_isAsciiWord {c : Char} (word : isAsciiWord c = true) :
    isNameChar c = true := by
  simp [isNameChar, word]

theorem isHyphenated_of_isIdentifier {s : List Char} (name : isIdentifier s = true) :
    isHyphenated s = true := by
  cases s with
  | nil => exact absurd name (by decide)
  | cons c s =>
      obtain ⟨letter, rest⟩ : isAsciiLetter c = true ∧ ∀ d ∈ s, isAsciiWord d = true := by
        simpa [isIdentifier] using name
      have words : ∀ d ∈ c :: s, isAsciiWord d = true :=
        List.forall_mem_cons.mpr ⟨isAsciiWord_of_isAsciiLetter letter, rest⟩
      have last := words _ (List.getLast_mem (List.cons_ne_nil c s))
      have names : ∀ d ∈ s, isNameChar d = true := fun d hd => isNameChar_of_isAsciiWord (rest d hd)
      simpa [isHyphenated, letter, List.getLast?_eq_some_getLast] using ⟨names, last⟩

theorem isNameChar_of_mem {s : List Char} (name : isHyphenated s = true) {c : Char} (here : c ∈ s) :
    isNameChar c = true := by
  cases s with
  | nil => exact absurd here (by simp)
  | cons d s =>
      obtain ⟨⟨letter, rest⟩, -⟩ : (isAsciiLetter d = true ∧ ∀ e ∈ s, isNameChar e = true) ∧ _ := by
        simpa only [isHyphenated, Bool.and_eq_true, List.all_eq_true] using name
      rcases List.mem_cons.mp here with rfl | later
      · exact isNameChar_of_isAsciiWord (isAsciiWord_of_isAsciiLetter letter)
      · exact rest c later

theorem notMem_of_name {s : List Char} (name : isHyphenated s = true) {c : Char}
    (other : isNameChar c = false) : c ∉ s := fun here => by
  rw [isNameChar_of_mem name here] at other
  exact absurd other (by decide)

theorem visible_of_isNameChar {c : Char} (name : isNameChar c = true) :
    33 ≤ c.toNat ∧ c.toNat ≤ 126 := by
  have kinds : isAsciiWord c = true ∨ c = '-' := by
    simpa [isNameChar] using name
  rcases kinds with word | rfl
  · have range := toNat_of_isAsciiWord word
    omega
  · decide

theorem trimmed_of_name {s : List Char} (name : isHyphenated s = true) : Trimmed s := by
  have solid : ∀ c ∈ s, (!isBlank c) = true := fun c here => by
    rw [isBlank_of_visible (visible_of_isNameChar (isNameChar_of_mem name here))]
    rfl
  constructor
  · cases first : s.head? with
    | none => rfl
    | some c => exact solid c (List.mem_of_head? first)
  · cases last : s.getLast? with
    | none => rfl
    | some c => exact solid c (List.mem_of_getLast? last)

/-! ## Openings of sections -/

/-- No name of a section begins with another one. -/
theorem SectionKind.eq_of_prefix {kind kind' : SectionKind}
    (less : kind.name.toList <+: kind'.name.toList) : kind = kind' := by
  cases kind <;> cases kind' <;> first | rfl | exact absurd less (by decide)

theorem SectionKind.eq_of_prefixes {kind kind' : SectionKind} {s : List Char}
    (h : kind.name.toList <+: s) (h' : kind'.name.toList <+: s) : kind = kind' := by
  rcases List.prefix_or_prefix_of_prefix h h' with less | more
  · exact SectionKind.eq_of_prefix less
  · exact (SectionKind.eq_of_prefix more).symm

theorem skipAsciiBlanks_eq_singleton_iff (s : List Char) :
    skipAsciiBlanks s = ['\x7b'] ↔
      ∃ gap, (∀ c ∈ gap, isAsciiBlank c = true) ∧ s = gap ++ ['\x7b'] := by
  constructor
  · intro brace
    refine ⟨s.takeWhile isAsciiBlank, List.all_eq_true.mp List.all_takeWhile, ?_⟩
    rw [← brace, skipAsciiBlanks, List.takeWhile_append_dropWhile]
  · rintro ⟨gap, blank, rfl⟩
    rw [skipAsciiBlanks, List.dropWhile_append_of_pos blank]
    rfl

/-- **A section is opened by its name, blanks and a brace.** The brace ends the line; a section that
is opened and closed on one line is not recognised. -/
theorem sectionOpening?_eq_some_iff (s : List Char) (kind : SectionKind) :
    sectionOpening? s = some kind ↔
      ∃ gap, (∀ c ∈ gap, isAsciiBlank c = true) ∧ s = kind.name.toList ++ (gap ++ ['\x7b']) := by
  have opened : ∀ {kind : SectionKind}, sectionOpening? s = some kind →
      ∃ gap, (∀ c ∈ gap, isAsciiBlank c = true) ∧ s = kind.name.toList ++ (gap ++ ['\x7b']) := by
    intro kind found
    have accepted := List.find?_some found
    split at accepted
    next rest word =>
      obtain ⟨gap, blank, rfl⟩ := (skipAsciiBlanks_eq_singleton_iff rest).mp (eq_of_beq accepted)
      exact ⟨gap, blank, eq_append_of_dropWord? word⟩
    next => exact absurd accepted (by decide)
  constructor
  · exact opened
  · rintro ⟨gap, blank, rfl⟩
    have some : (sectionOpening? (kind.name.toList ++ (gap ++ ['\x7b']))).isSome = true := by
      refine List.find?_isSome.mpr ⟨kind, by cases kind <;> decide, ?_⟩
      rw [dropWord?_append]
      exact beq_iff_eq.mpr ((skipAsciiBlanks_eq_singleton_iff _).mpr ⟨gap, blank, rfl⟩)
    obtain ⟨kind', found⟩ := Option.isSome_iff_exists.mp some
    obtain ⟨gap', -, split⟩ := opened found
    rw [found, SectionKind.eq_of_prefixes ⟨_, rfl⟩ ⟨_, split.symm⟩]

theorem balance_append (s s' : List Char) : balance (s ++ s') = balance s + balance s' := by
  unfold balance
  rw [List.count_append, List.count_append]
  omega

theorem balance_of_notMem {s : List Char} (opens : '\x7b' ∉ s) (closes : '\x7d' ∉ s) :
    balance s = 0 := by
  unfold balance
  rw [List.count_eq_zero_of_not_mem opens, List.count_eq_zero_of_not_mem closes]
  rfl

/-- The opening of a section opens one brace. -/
theorem balance_of_sectionOpening? {s : List Char} {kind : SectionKind}
    (h : sectionOpening? s = some kind) : balance s = 1 := by
  obtain ⟨gap, blank, rfl⟩ := (sectionOpening?_eq_some_iff s kind).mp h
  have name : balance kind.name.toList = 0 := by
    cases kind <;> decide
  have between : balance gap = 0 := by
    refine balance_of_notMem (fun h => ?_) fun h => ?_
    · exact absurd (blank _ h) (by decide)
    · exact absurd (blank _ h) (by decide)
  rw [balance_append, balance_append, name, between]
  decide

end IntentSpec.Document
