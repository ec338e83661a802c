import IntentSpec.Sorting
import Mathlib.Data.List.Forall2

/-!
# Laws of stable sorting

A list sorted by insertion is a permutation of the list, is in increasing order, and depends on
the order of the list only through elements that compare equal.  The last point has two sides, and
both are needed to say when a sorted output is canonical.

* If elements that compare equal agree under a function `f`, then the sorted list, seen through
  `f`, is the same for every permutation (`map_sortBy_eq_of_perm`).
* If two elements compare equal, then exchanging them in front of the list exchanges them in the
  sorted list, where they are neighbours (`exists_insertBy_insertBy`).

What is selected from a sorted list is sorted as it would be alone (`filter_sortBy`).  So sorting by a
key and sorting by the key and more can be compared one key at a time
(`map_sortBy_eq_map_sortBy_iff`).
-/

namespace IntentSpec

variable {α β : Type}

/-- A comparison that is total and transitive.  Different elements may compare equal. -/
structure Comparison (le : α → α → Bool) : Prop where
  /-- Any two elements can be compared. -/
  total : ∀ a b, le a b = true ∨ le b a = true
  trans : ∀ a b c, le a b = true → le b c = true → le a c = true

/-- Elements are compared through a key. -/
theorem Comparison.on {le : β → β → Bool} (order : Comparison le) (key : α → β) :
    Comparison fun a b => le (key a) (key b) where
  total a b := order.total (key a) (key b)
  trans a b c := order.trans (key a) (key b) (key c)

/-! ## The orders of texts and of pairs of texts -/

theorem textLe_iff (a b : String) : textLe a b = true ↔ a ≤ b := by
  simp [textLe]

theorem textLe_comparison : Comparison textLe where
  total a b := by
    simpa only [textLe_iff] using String.le_total a b
  trans a b c := by
    simpa only [textLe_iff] using String.le_trans

theorem textLe_antisymm {a b : String} (h : textLe a b = true) (h' : textLe b a = true) : a = b :=
  String.le_antisymm ((textLe_iff a b).mp h) ((textLe_iff b a).mp h')

theorem pairLe_iff (a b : String × String) :
    pairLe a b = true ↔ a.1 < b.1 ∨ (a.1 = b.1 ∧ a.2 ≤ b.2) := by
  simp [pairLe, textLe_iff]

/-- Two texts stand in one of three ways. -/
theorem text_lt_or_eq_or_lt (a b : String) : a < b ∨ a = b ∨ b < a := by
  by_cases hab : a ≤ b
  · by_cases hba : b ≤ a
    · exact Or.inr (Or.inl (String.le_antisymm hab hba))
    · exact Or.inl (String.not_le.mp hba)
  · exact Or.inr (Or.inr (String.not_le.mp hab))

theorem pairLe_comparison : Comparison pairLe where
  total a b := by
    simp only [pairLe_iff]
    rcases text_lt_or_eq_or_lt a.1 b.1 with below | same | above
    · exact Or.inl (Or.inl below)
    · rcases String.le_total a.2 b.2 with h | h
      · exact Or.inl (Or.inr ⟨same, h⟩)
      · exact Or.inr (Or.inr ⟨same.symm, h⟩)
    · exact Or.inr (Or.inl above)
  trans a b c := by
    simp only [pairLe_iff]
    rintro (hab | ⟨eab, hab⟩) (hbc | ⟨ebc, hbc⟩)
    · exact Or.inl (String.lt_trans hab hbc)
    · exact Or.inl (ebc ▸ hab)
    · exact Or.inl (eab ▸ hbc)
    · exact Or.inr ⟨eab.trans ebc, String.le_trans hab hbc⟩

theorem pairLe_antisymm {a b : String × String} (h : pairLe a b = true) (h' : pairLe b a = true) :
    a = b := by
  rw [pairLe_iff] at h h'
  rcases h with hab | ⟨eab, hab⟩
  · rcases h' with hba | ⟨eba, -⟩
    · exact absurd hba (String.lt_asymm hab)
    · exact absurd eba.symm (String.ne_of_lt hab)
  · rcases h' with hba | ⟨-, hba⟩
    · exact absurd eab.symm (String.ne_of_lt hba)
    · exact Prod.ext eab (String.le_antisymm hab hba)

/-! ## Sorted lists -/

section Sorted

variable {le : α → α → Bool}

theorem insertBy_perm (a : α) (l : List α) : (insertBy le a l).Perm (a :: l) := by
  induction l with
  | nil => exact List.Perm.refl _
  | cons b l ih =>
      unfold insertBy
      split
      · exact List.Perm.refl _
      · exact (ih.cons b).trans (List.Perm.swap a b l)

theorem sortBy_perm (l : List α) : (sortBy le l).Perm l := by
  induction l with
  | nil => exact List.Perm.refl _
  | cons a l ih => exact (insertBy_perm a _).trans (ih.cons a)

theorem insertBy_pairwise (order : Comparison le) (a : α) {l : List α}
    (sorted : l.Pairwise fun x y => le x y = true) :
    (insertBy le a l).Pairwise fun x y => le x y = true := by
  induction l with
  | nil => simp [insertBy]
  | cons b l ih =>
      obtain ⟨first, rest⟩ := List.pairwise_cons.mp sorted
      unfold insertBy
      split
      next hab =>
        refine List.pairwise_cons.mpr ⟨fun c hc => ?_, sorted⟩
        rcases List.mem_cons.mp hc with rfl | hc
        · exact hab
        · exact order.trans a b c hab (first c hc)
      next hab =>
        have hba : le b a = true := (order.total b a).resolve_right hab
        refine List.pairwise_cons.mpr ⟨fun c hc => ?_, ih rest⟩
        rcases List.mem_cons.mp ((insertBy_perm a l).mem_iff.mp hc) with rfl | hc
        · exact hba
        · exact first c hc

theorem sortBy_pairwise (order : Comparison le) (l : List α) :
    (sortBy le l).Pairwise fun x y => le x y = true := by
  induction l with
  | nil => exact List.Pairwise.nil
  | cons a l ih => exact insertBy_pairwise order a ih

/-- What comes before all elements is put in front of them. -/
theorem insertBy_eq_cons {a : α} {l : List α} (first : ∀ b ∈ l, le a b = true) :
    insertBy le a l = a :: l := by
  cases l with
  | nil => rfl
  | cons b l => exact if_pos (first b List.mem_cons_self)

/-- What is in increasing order is not changed by sorting. -/
theorem sortBy_eq_self {l : List α} (sorted : l.Pairwise fun a b => le a b = true) :
    sortBy le l = l := by
  induction l with
  | nil => rfl
  | cons a l ih =>
      obtain ⟨first, rest⟩ := List.pairwise_cons.mp sorted
      rw [sortBy, ih rest, insertBy_eq_cons first]

theorem filter_insertBy (order : Comparison le) (p : α → Bool) (a : α) {l : List α}
    (sorted : l.Pairwise fun x y => le x y = true) :
    (insertBy le a l).filter p = if p a = true then insertBy le a (l.filter p) else l.filter p := by
  induction l with
  | nil => by_cases kept : p a = true <;> simp [insertBy, kept]
  | cons b l ih =>
      obtain ⟨first, rest⟩ := List.pairwise_cons.mp sorted
      by_cases before : le a b = true
      · have inFront : ∀ c ∈ b :: l, le a c = true := by
          intro c hc
          rcases List.mem_cons.mp hc with rfl | hc
          · exact before
          · exact order.trans a b c before (first c hc)
        rw [insertBy_eq_cons inFront, insertBy_eq_cons fun c hc => inFront c (List.mem_filter.mp hc).1,
          List.filter_cons]
      · have behind : ∀ m, insertBy le a (b :: m) = b :: insertBy le a m := fun m => if_neg before
        rw [behind, List.filter_cons, ih rest, List.filter_cons]
        by_cases kept : p b = true
        · rw [if_pos kept, if_pos kept, behind]
          split <;> rfl
        · rw [if_neg kept, if_neg kept]

/-- **Sorting and selecting commute.** Elements that compare equal keep their order, whichever of
the two is done first. -/
theorem filter_sortBy (order : Comparison le) (p : α → Bool) (l : List α) :
    (sortBy le l).filter p = sortBy le (l.filter p) := by
  induction l with
  | nil => rfl
  | cons a l ih =>
      rw [sortBy, filter_insertBy order p a (sortBy_pairwise order l), ih, List.filter_cons]
      split <;> rfl

/-- A list without ties has one sorted form for all its permutations. -/
theorem sortBy_eq_of_perm (order : Comparison le) {l l' : List α} (perm : l.Perm l')
    (antisymm : ∀ a ∈ l, ∀ b ∈ l, le a b = true → le b a = true → a = b) :
    sortBy le l = sortBy le l' := by
  refine List.Perm.eq_of_pairwise ?_ (sortBy_pairwise order l) (sortBy_pairwise order l')
    ((sortBy_perm l).trans (perm.trans (sortBy_perm l').symm))
  intro a b ha hb
  exact antisymm a ((sortBy_perm l).mem_iff.mp ha) b
    (perm.mem_iff.mpr ((sortBy_perm l').mem_iff.mp hb))

theorem map_insertBy {leA : α → α → Bool} {leB : β → β → Bool} (f : α → β)
    (keeps : ∀ a b, leB (f a) (f b) = leA a b) (a : α) (l : List α) :
    (insertBy leA a l).map f = insertBy leB (f a) (l.map f) := by
  induction l with
  | nil => rfl
  | cons b l ih =>
      simp only [insertBy, List.map_cons, keeps]
      split
      · rfl
      · rw [List.map_cons, ih]

/-- Sorting by a key commutes with a map that keeps the key. -/
theorem map_sortBy {leA : α → α → Bool} {leB : β → β → Bool} (f : α → β)
    (keeps : ∀ a b, leB (f a) (f b) = leA a b) (l : List α) :
    (sortBy leA l).map f = sortBy leB (l.map f) := by
  induction l with
  | nil => rfl
  | cons a l ih => rw [sortBy, map_insertBy f keeps, ih, List.map_cons, sortBy]

theorem forall₂_insertBy {R : α → α → Prop} (le : α → α → Bool)
    (keeps : ∀ {a a' b b'}, R a a' → R b b' → le a b = le a' b') {a a' : α} (ha : R a a')
    {l l' : List α} (h : List.Forall₂ R l l') :
    List.Forall₂ R (insertBy le a l) (insertBy le a' l') := by
  induction h with
  | nil => exact List.Forall₂.cons ha List.Forall₂.nil
  | cons hb h ih =>
      unfold insertBy
      rw [keeps ha hb]
      split
      · exact List.Forall₂.cons ha (List.Forall₂.cons hb h)
      · exact List.Forall₂.cons hb ih

/-- Lists that are related item by item, where the relation decides the order, stay so when
sorted. -/
theorem forall₂_sortBy {R : α → α → Prop} (le : α → α → Bool)
    (keeps : ∀ {a a' b b'}, R a a' → R b b' → le a b = le a' b') {l l' : List α}
    (h : List.Forall₂ R l l') : List.Forall₂ R (sortBy le l) (sortBy le l') := by
  induction h with
  | nil => exact List.Forall₂.nil
  | cons ha _ ih => exact forall₂_insertBy le keeps ha ih

/-- **Sorting forgets the order up to ties.**  Lists that agree up to order in what is sorted by,
`key`, and in what is looked at, `f`, look the same once they are sorted, provided that ties look
the same. -/
theorem map_sortBy_eq_of_perm {κ : Type} {keyLe : κ → κ → Bool} (order : Comparison keyLe)
    (antisymm : ∀ {x y}, keyLe x y = true → keyLe y x = true → x = y)
    (key : α → κ) (f : α → β) {l l' : List α}
    (perm : (l.map fun a => (key a, f a)).Perm (l'.map fun a => (key a, f a)))
    (ties : ∀ a ∈ l, ∀ b ∈ l, key a = key b → f a = f b) :
    (sortBy (fun a b => keyLe (key a) (key b)) l).map f =
      (sortBy (fun a b => keyLe (key a) (key b)) l').map f := by
  -- Only the pairs of key and look are sorted: equal pairs may come from different elements, but
  -- no two different pairs are tied.
  let tagLe : κ × β → κ × β → Bool := fun x y => keyLe x.1 y.1
  have tagged : ∀ m : List α, (sortBy (fun a b => keyLe (key a) (key b)) m).map f =
      (sortBy tagLe (m.map fun a => (key a, f a))).map Prod.snd := by
    intro m
    have sorted : (sortBy (fun a b => keyLe (key a) (key b)) m).map (fun a => (key a, f a)) =
        sortBy tagLe (m.map fun a => (key a, f a)) := by
      refine map_sortBy (fun a => (key a, f a)) ?_ m
      intro a b
      rfl
    rw [← sorted, List.map_map]
    rfl
  rw [tagged, tagged]
  refine congrArg _ (sortBy_eq_of_perm (order.on Prod.fst) perm ?_)
  intro x hx y hy hxy hyx
  obtain ⟨a, ha, rfl⟩ := List.mem_map.mp hx
  obtain ⟨b, hb, rfl⟩ := List.mem_map.mp hy
  have keys : key a = key b := antisymm hxy hyx
  exact Prod.ext keys (ties a ha b hb keys)

/-- Two different elements of a list may be put in front. -/
theorem exists_perm_cons_cons {a b : α} {l : List α} (ha : a ∈ l) (hb : b ∈ l) (distinct : a ≠ b) :
    ∃ others, l.Perm (a :: b :: others) := by
  obtain ⟨withoutA, perm⟩ : ∃ withoutA, l.Perm (a :: withoutA) := by
    obtain ⟨front, back, rfl⟩ := List.append_of_mem ha
    exact ⟨front ++ back, List.perm_middle⟩
  have hb' : b ∈ withoutA :=
    (List.mem_cons.mp (perm.mem_iff.mp hb)).resolve_left fun e => distinct e.symm
  obtain ⟨front, back, rfl⟩ := List.append_of_mem hb'
  exact ⟨front ++ back, perm.trans (List.perm_middle.cons a)⟩

/-- **Two elements that compare equal are neighbours in the sorted list**, in the order in which
they came. -/
theorem exists_insertBy_insertBy (order : Comparison le) {a b : α} (hab : le a b = true)
    (hba : le b a = true) (l : List α) :
    ∃ front back, insertBy le a (insertBy le b l) = front ++ a :: b :: back ∧
      insertBy le b (insertBy le a l) = front ++ b :: a :: back := by
  induction l with
  | nil => exact ⟨[], [], by simp [insertBy, hab], by simp [insertBy, hba]⟩
  | cons c l ih =>
      by_cases hbc : le b c = true
      · have hac : le a c = true := order.trans a b c hab hbc
        exact ⟨[], c :: l, by simp [insertBy, hbc, hab], by simp [insertBy, hac, hba]⟩
      · have hac : ¬ le a c = true := fun h => hbc (order.trans b a c hba h)
        obtain ⟨front, back, forth, exchanged⟩ := ih
        refine ⟨c :: front, back, ?_, ?_⟩
        · simp [insertBy, hbc, hac, forth]
        · simp [insertBy, hbc, hac, exchanged]

/-- **A sorted list is canonical, seen through a function, exactly when ties look the same.** -/
theorem map_sortBy_eq_iff {κ : Type} {keyLe : κ → κ → Bool} (order : Comparison keyLe)
    (antisymm : ∀ {x y}, keyLe x y = true → keyLe y x = true → x = y)
    (key : α → κ) (f : α → β) (l : List α) :
    (∀ l', l.Perm l' → (sortBy (fun a b => keyLe (key a) (key b)) l').map f =
        (sortBy (fun a b => keyLe (key a) (key b)) l).map f) ↔
      ∀ a ∈ l, ∀ b ∈ l, key a = key b → f a = f b := by
  constructor
  · intro canonical a ha b hb same
    by_cases distinct : a = b
    · rw [distinct]
    -- Put in front in either order, they end up next to each other, in that order.
    · obtain ⟨others, perm⟩ := exists_perm_cons_cons ha hb distinct
      have reflexive : keyLe (key a) (key a) = true := (order.total (key a) (key a)).elim id id
      have forward : keyLe (key a) (key b) = true := same ▸ reflexive
      have backward : keyLe (key b) (key a) = true := same ▸ reflexive
      obtain ⟨front, back, forth, exchanged⟩ := exists_insertBy_insertBy (order.on key) forward
        backward (sortBy (fun a b => keyLe (key a) (key b)) others)
      have first := canonical (a :: b :: others) perm
      have second := canonical (b :: a :: others) (perm.trans (List.Perm.swap b a others))
      rw [← second] at first
      simp only [sortBy, forth, exchanged, List.map_append, List.map_cons] at first
      exact (List.cons.inj (List.append_cancel_left first)).1
  · intro ties l' perm
    exact (map_sortBy_eq_of_perm order antisymm key f (perm.map _) ties).symm

end Sorted

/-! ## Sorting by a key and by more -/

/-- **Lists in the order of a key are the same if they agree at every key.** -/
theorem eq_of_filter_eq (key : α → String) {l l' : List α}
    (sorted : l.Pairwise fun a b => key a ≤ key b) (sorted' : l'.Pairwise fun a b => key a ≤ key b)
    (each : ∀ k, (l.filter fun a => key a == k) = l'.filter fun a => key a == k) : l = l' := by
  have mem_iff : ∀ a, a ∈ l ↔ a ∈ l' := by
    intro a
    have here := congrArg (a ∈ ·) (each (key a))
    simpa using here
  induction l generalizing l' with
  | nil =>
      refine (List.eq_nil_iff_forall_not_mem.mpr fun a here => ?_).symm
      exact List.not_mem_nil ((mem_iff a).mpr here)
  | cons a l ih =>
      cases l' with
      | nil => exact absurd ((mem_iff a).mp List.mem_cons_self) List.not_mem_nil
      | cons b l' =>
          obtain ⟨first, rest⟩ := List.pairwise_cons.mp sorted
          obtain ⟨first', rest'⟩ := List.pairwise_cons.mp sorted'
          -- each head is in the other list, where nothing comes before the other head
          have below : key a ≤ key b := by
            rcases List.mem_cons.mp ((mem_iff b).mpr List.mem_cons_self) with rfl | here
            · exact String.le_refl _
            · exact first b here
          have above : key b ≤ key a := by
            rcases List.mem_cons.mp ((mem_iff a).mp List.mem_cons_self) with rfl | here
            · exact String.le_refl _
            · exact first' a here
          have level : key a = key b := String.le_antisymm below above
          have heads := each (key a)
          rw [List.filter_cons_of_pos (by simp), List.filter_cons_of_pos (by simp [level])] at heads
          obtain ⟨rfl, -⟩ := List.cons.inj heads
          have tails : ∀ k, (l.filter fun c => key c == k) = l'.filter fun c => key c == k := by
            intro k
            have both := each k
            rw [List.filter_cons, List.filter_cons] at both
            split at both
            · exact (List.cons.inj both).2
            · exact both
          refine congrArg _ (ih rest rest' tails fun c => ?_)
          have here := congrArg (c ∈ ·) (tails (key c))
          simpa using here

/-- **Sorting by a key and sorting by more look the same exactly when they do at every key.**  Where one
key is concerned, the first leaves everything as it was. -/
theorem map_sortBy_eq_map_sortBy_iff {le : α → α → Bool} (order : Comparison le) (key : α → String)
    (finer : ∀ {a b}, le a b = true → key a ≤ key b) (f : α → β) (keyOf : β → String)
    (shows : ∀ a, keyOf (f a) = key a) (l : List α) :
    (sortBy (fun a b => textLe (key a) (key b)) l).map f = (sortBy le l).map f ↔
      ∀ k, (l.filter fun a => key a == k).map f = (sortBy le (l.filter fun a => key a == k)).map f := by
  have coarse : Comparison fun a b => textLe (key a) (key b) := textLe_comparison.on key
  have kept : ∀ (k : String) (m : List α),
      ((m.map f).filter fun b => keyOf b == k) = (m.filter fun a => key a == k).map f := by
    intro k m
    simp only [List.filter_map, Function.comp_def, shows]
  have untouched : ∀ k, (sortBy (fun a b => textLe (key a) (key b)) l).filter (fun a => key a == k) =
      l.filter fun a => key a == k := by
    intro k
    rw [filter_sortBy coarse]
    refine sortBy_eq_self (List.pairwise_of_forall_mem_list fun a ha b hb => ?_)
    have same : key a = key b := by
      rw [eq_of_beq (List.mem_filter.mp ha).2, eq_of_beq (List.mem_filter.mp hb).2]
    exact (textLe_iff _ _).mpr (same ▸ String.le_refl _)
  constructor
  · intro same k
    rw [← untouched k, ← kept, same, kept, filter_sortBy order, untouched k]
  · intro each
    refine eq_of_filter_eq keyOf ?_ ?_ fun k => ?_
    · refine List.pairwise_map.mpr ((sortBy_pairwise coarse l).imp fun {a b} below => ?_)
      rw [shows, shows]
      exact (textLe_iff _ _).mp below
    · refine List.pairwise_map.mpr ((sortBy_pairwise order l).imp fun {a b} below => ?_)
      rw [shows, shows]
      exact finer below
    · rw [kept, kept, untouched, filter_sortBy order, each]

theorem sortTexts_perm (texts : List String) : (sortTexts texts).Perm texts := sortBy_perm texts

/-- Different texts that are sorted are strictly increasing. -/
theorem pairwise_lt_sortTexts {l : List String} (distinct : l.Nodup) :
    (sortTexts l).Pairwise (· < ·) := by
  have increasing := sortBy_pairwise textLe_comparison l
  have apart : (sortTexts l).Nodup := (sortTexts_perm l).nodup_iff.mpr distinct
  refine List.Pairwise.imp₂ (fun a b below different => ?_) increasing apart
  rcases text_lt_or_eq_or_lt a b with less | same | more
  · exact less
  · exact absurd same different
  · exact absurd ((textLe_iff a b).mp below) (String.not_le.mpr more)

/-- Texts have one sorted form for all their permutations. -/
theorem sortTexts_eq_of_perm {l l' : List String} (perm : l.Perm l') : sortTexts l = sortTexts l' :=
  sortBy_eq_of_perm textLe_comparison perm fun _ _ _ _ => textLe_antisymm

end IntentSpec
