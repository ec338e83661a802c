import IntentSpec.Proofs.Json.Word
import Mathlib.Data.List.Forall2

/-!
# Entries between brackets

Arrays and objects are written in one way: an opening bracket, the entries with a comma between
them, and a closing bracket, with line breaks in the styles that have them.  If every entry can be
told from what follows it, then so can the whole sequence (`enclosed_cancel`).

That different values are written differently is proved by cancelling and not by way of a reader: where
two texts agree that start with the written forms of two entries, the entries are alike and so is what
follows them (`Cancels`).  This form goes
through an induction over sequences, as the rest of one entry is the start of the next; plain injectivity
would not, because two entries could agree in sum without agreeing one by one.

Which relation entries are in that are written alike is left open, because numbers and objects need a
coarser one than equality.
-/

namespace IntentSpec.Json

/-- A style whose texts can be read back: characters beyond ASCII stand for themselves, and the sign
between two entries starts with a comma. -/
structure Style.Readable (style : Style) : Prop where
  /-- Characters beyond ASCII are not escaped. -/
  ascii : style.ascii = false
  /-- The sign between two entries starts with a comma. -/
  comma : style.comma.toList.head? = some ','

theorem Style.readable_compact : Style.compact.Readable := ⟨rfl, by decide⟩

theorem Style.readable_lined : Style.lined.Readable := ⟨rfl, by decide⟩

/-- What stands in front of a further entry. -/
def Style.lead (style : Style) (depth : Nat) : List Char := style.comma.toList ++ style.gap depth

/-- What closes a sequence. -/
def Style.close (style : Style) (depth : Nat) (bracket : Char) : List Char :=
  style.gap depth ++ [bracket]

/-- Further entries, each behind its comma. -/
def followed (lead : List Char) (entries : List (List Char)) : List Char :=
  entries.flatMap fun entry => lead ++ entry

/-- Written entries between brackets. -/
def enclosed (style : Style) (depth : Nat) (opening closing : Char) : List (List Char) → List Char
  | [] => [opening, closing]
  | entry :: entries =>
    opening :: (style.gap (depth + 1) ++ (entry ++
      (followed (style.lead (depth + 1)) entries ++ style.close depth closing)))

/-- The written form of a member. -/
def spelledMember (style : Style) (depth : Nat) (m : String × Json) : List Char :=
  quote style.ascii m.1 ++ (style.colon.toList ++ m.2.spelled style depth)

theorem followed_cons (lead entry : List Char) (entries : List (List Char)) (rest : List Char) :
    followed lead (entry :: entries) ++ rest =
      lead ++ (entry ++ (followed lead entries ++ rest)) := by
  simp [followed]

theorem spelledItems_eq_followed (style : Style) (depth : Nat) (items : List Json) :
    spelledItems style depth items = followed (style.lead depth) (items.map (spelled style depth)) := by
  induction items with
  | nil =>
      rw [spelledItems]
      rfl
  | cons item items ih =>
      rw [spelledItems, ih]
      rfl

theorem spelledMembers_eq_followed (style : Style) (depth : Nat) (members : List (String × Json)) :
    spelledMembers style depth members =
      followed (style.lead depth) (members.map (spelledMember style depth)) := by
  induction members with
  | nil =>
      rw [spelledMembers]
      rfl
  | cons m members ih =>
      rw [spelledMembers, ih]
      simp [followed, spelledMember, Style.lead]

theorem spelled_array (style : Style) (depth : Nat) (items : List Json) :
    (array items).spelled style depth =
      enclosed style depth '[' ']' (items.map (spelled style (depth + 1))) := by
  cases items with
  | nil =>
      rw [spelled]
      rfl
  | cons item items =>
      rw [spelled, spelledItems_eq_followed]
      simp [enclosed, Style.close]

theorem spelled_object (style : Style) (depth : Nat) (members : List (String × Json)) :
    (object members).spelled style depth =
      enclosed style depth '\x7b' '\x7d' (members.map (spelledMember style (depth + 1))) := by
  cases members with
  | nil =>
      rw [spelled]
      rfl
  | cons m members =>
      rw [spelled, spelledMembers_eq_followed]
      simp [enclosed, spelledMember, Style.close]

/-! ## Reading back -/

section Cancel

variable {α : Type}

/-- An entry as `write` puts it down can be told from what follows it; entries that are written
alike are related. The texts that follow are quantified over, as they differ from one place in a
sequence to the next. -/
def Cancels (write : α → List Char) (R : α → α → Prop) (a : α) : Prop :=
  ∀ b rest rest', EndsWord rest → EndsWord rest' → write a ++ rest = write b ++ rest' →
    R a b ∧ rest = rest'

/-- Entries behind commas, up to what closes the sequence. -/
theorem followed_cancel {write : α → List Char} {R : α → α → Prop}
    {lead close rest rest' : List Char} (comma : ∀ r, (lead ++ r).head? = some ',')
    (last : ∀ r, EndsWord (close ++ r))
    (noComma : ∀ r, (close ++ r).head? ≠ some ',') {l : List α}
    (cancels : ∀ a ∈ l, Cancels write R a) (l' : List α)
    (h : followed lead (l.map write) ++ (close ++ rest) =
      followed lead (l'.map write) ++ (close ++ rest')) :
    List.Forall₂ R l l' ∧ rest = rest' := by
  have ends : ∀ (m : List α) r, EndsWord (followed lead (m.map write) ++ (close ++ r)) := by
    intro m r
    cases m with
    | nil => exact last r
    | cons b m =>
        intro c hc
        rw [List.map_cons, followed_cons, comma] at hc
        obtain rfl := Option.some.inj hc
        rfl
  induction l generalizing l' with
  | nil =>
      cases l' with
      | nil => exact ⟨List.Forall₂.nil, List.append_cancel_left h⟩
      | cons b l' =>
          have heads := congrArg List.head? h
          rw [List.map_cons, followed_cons, comma] at heads
          exact absurd heads (noComma rest)
  | cons a l ih =>
      obtain ⟨first, others⟩ := List.forall_mem_cons.mp cancels
      cases l' with
      | nil =>
          have heads := congrArg List.head? h
          rw [List.map_cons, followed_cons, comma] at heads
          exact absurd heads.symm (noComma rest')
      | cons b l' =>
          rw [List.map_cons, followed_cons, List.map_cons, followed_cons] at h
          have entries := List.append_cancel_left h
          obtain ⟨related, tails⟩ := first b _ _ (ends l rest) (ends l' rest') entries
          obtain ⟨all, same⟩ := ih others l' tails
          exact ⟨List.Forall₂.cons related all, same⟩

/-- What closes a sequence starts with a line feed or with the bracket itself. -/
theorem Style.head_close (style : Style) (depth : Nat) (bracket : Char) (rest : List Char) :
    (style.close depth bracket ++ rest).head? = some '\n' ∨
      (style.close depth bracket ++ rest).head? = some bracket := by
  unfold Style.close Style.gap
  split
  · exact Or.inl rfl
  · exact Or.inr rfl

theorem Style.endsWord_close (style : Style) (depth : Nat) {bracket : Char}
    (closes : bracket = ']' ∨ bracket = '\x7d') (rest : List Char) :
    EndsWord (style.close depth bracket ++ rest) := by
  intro c hc
  rcases style.head_close depth bracket rest with first | first
  · obtain rfl := Option.some.inj (first.symm.trans hc)
    rfl
  · obtain rfl := Option.some.inj (first.symm.trans hc)
    rcases closes with rfl | rfl <;> rfl

theorem Style.head_close_ne_comma (style : Style) (depth : Nat) {bracket : Char}
    (closes : bracket = ']' ∨ bracket = '\x7d') (rest : List Char) :
    (style.close depth bracket ++ rest).head? ≠ some ',' := by
  intro hc
  rcases style.head_close depth bracket rest with first | first
  · exact absurd (first.symm.trans hc) (by decide)
  · rcases closes with rfl | rfl <;> exact absurd (first.symm.trans hc) (by decide)

theorem Style.head_lead {style : Style} (readable : style.Readable) (depth : Nat)
    (rest : List Char) : (style.lead depth ++ rest).head? = some ',' := by
  unfold Style.lead
  rw [List.append_assoc, List.head?_append, readable.comma]
  rfl

/-- **A sequence between brackets is told from what follows it**, if its entries are and none of
them starts with the closing bracket. -/
theorem enclosed_cancel {style : Style} (readable : style.Readable) (depth : Nat)
    {opening closing : Char} (bracket : closing = ']' ∨ closing = '\x7d') {write : α → List Char}
    {R : α → α → Prop} (starts : ∀ a r, (write a ++ r).head? ≠ some closing)
    {l : List α} (cancels : ∀ a ∈ l, Cancels write R a) (l' : List α) {rest rest' : List Char}
    (h : enclosed style depth opening closing (l.map write) ++ rest =
      enclosed style depth opening closing (l'.map write) ++ rest') :
    List.Forall₂ R l l' ∧ rest = rest' := by
  -- an empty sequence closes where a filled one has a line feed or an entry
  have filled : ∀ a r s, closing :: s ≠ style.gap (depth + 1) ++ (write a ++ r) := by
    intro a r s h
    unfold Style.gap at h
    split at h
    · have feed : closing = '\n' := (List.cons.inj h).1
      rcases bracket with rfl | rfl <;> exact absurd feed (by decide)
    · exact starts a r (congrArg List.head? h).symm
  cases l with
  | nil =>
      cases l' with
      | nil => exact ⟨List.Forall₂.nil, List.append_cancel_left h⟩
      | cons b l' =>
          simp only [enclosed, List.map_nil, List.map_cons, List.cons_append, List.nil_append,
            List.append_assoc, List.cons.injEq, true_and] at h
          exact absurd h (filled b _ _)
  | cons a l =>
      cases l' with
      | nil =>
          simp only [enclosed, List.map_nil, List.map_cons, List.cons_append, List.nil_append,
            List.append_assoc, List.cons.injEq, true_and] at h
          exact absurd h.symm (filled a _ _)
      | cons b l' =>
          -- the first entry has no comma; with one in front it is like the others
          simp only [enclosed, List.map_cons, List.cons_append, List.append_assoc, List.cons.injEq,
            true_and] at h
          refine followed_cancel (Style.head_lead readable (depth + 1))
            (style.endsWord_close depth bracket) (style.head_close_ne_comma depth bracket)
            cancels (b :: l') ?_
          rw [List.map_cons, followed_cons, List.map_cons, followed_cons]
          exact congrArg _ (List.append_cancel_left h)

end Cancel

end IntentSpec.Json
