import IntentSpec.Config.Layers
import IntentSpec.Proofs.Config.Schema

/-!
# What is found in merged configurations

A mapping is laid over another one key by key, and mappings on both sides are merged in turn.  The keys
of both are sorted first, which changes nothing that is found as long as the keys are texts and stand
once.  What is found at a text in the result is then what the upper mapping has there, laid over what the
lower one has.

* `Datum.Tidy.arrange?_eq_self_iff` — the entries that sorting leaves as they are.
* `lookup?_overlay` — the entry of a key in mappings that are laid over each other.
* `merge?_keyed` — merging keeps the keys texts that stand once.
* `fieldOf?_merge?` — a value of a field comes from the upper mapping, or from the lower one if the
  upper one says nothing.
-/

namespace IntentSpec

namespace Datum

/-! ## Sorting the keys of a mapping -/

/-- The entries of a mapping with the keys in order, in the mapping itself and in those below it. -/
def arrange? (entries : List (Datum × Datum)) : Option (List (Datum × Datum)) := do
  sortEntries? (← sortMappingValues? entries)

theorem sortMappings?_mapping (entries : List (Datum × Datum)) :
    sortMappings? (.mapping entries) = (arrange? entries).map .mapping := by
  unfold sortMappings? arrange?
  cases sortMappingValues? entries with
  | none => rfl
  | some values => cases h : sortEntries? values <;> simp [h]

theorem sortMappings?_of_leaf {d : Datum} (leaf : d.IsLeaf) : sortMappings? d = some d := by
  cases d with
  | mapping entries => exact leaf.elim
  | _ => rfl

/-- A leaf comes from nothing but itself. -/
theorem eq_of_sortMappings? {d sorted : Datum} (sorts : sortMappings? d = some sorted)
    (leaf : sorted.IsLeaf) : d = sorted := by
  cases d with
  | mapping entries =>
      rw [sortMappings?_mapping, Option.map_eq_some_iff] at sorts
      obtain ⟨_, -, rfl⟩ := sorts
      exact leaf.elim
  | _ => exact Option.some.inj sorts

theorem sortMappingValues?_forall₂ {entries sorted : List (Datum × Datum)}
    (sorts : sortMappingValues? entries = some sorted) :
    List.Forall₂ (fun e e' => e'.1 = e.1 ∧ sortMappings? e.2 = some e'.2) entries sorted := by
  induction entries generalizing sorted with
  | nil =>
      obtain rfl := Option.some.inj sorts
      exact .nil
  | cons e entries ih =>
      simp only [sortMappingValues?, Option.bind_eq_bind, Option.bind_eq_some_iff, Option.pure_def,
        Option.some.injEq] at sorts
      obtain ⟨value, first, rest, others, rfl⟩ := sorts
      exact .cons ⟨rfl, first⟩ (ih others)

theorem arrange?_eq_some_iff {entries sorted : List (Datum × Datum)}
    (arranges : arrange? entries = some sorted) :
    ∃ values, List.Forall₂ (fun e e' => e'.1 = e.1 ∧ sortMappings? e.2 = some e'.2) entries values ∧
      sorted.Perm values := by
  obtain ⟨values, sorts, ordered⟩ := Option.bind_eq_some_iff.mp arranges
  exact ⟨values, sortMappingValues?_forall₂ sorts, sortEntries?_perm ordered⟩

theorem sortOn?_of_comparable {α : Type} {key : α → Datum} {l : List α}
    (comparable : ∀ a ∈ l, ∀ b ∈ l, (below? (key a) (key b)).isSome = true) :
    sortOn? key l = some (sortBy (fun a b => below? (key b) (key a) != some true) l) := by
  refine if_pos ?_
  split
  · rfl
  · rfl
  · simpa using comparable

/-- The keys of entries are in order: none lies below one before it. -/
def Ascending (entries : List (Datum × Datum)) : Prop :=
  (entries.map Prod.fst).Pairwise fun a b => below? b a ≠ some true

section Texts

variable {entries : List (Datum × Datum)} (texts : ∀ key ∈ entries.map Prod.fst, ∃ s, key = .text s)
include texts

/-- Entries whose keys are texts can be sorted. -/
theorem sortEntries?_of_texts :
    sortEntries? entries = some (sortBy (fun a b => below? b.1 a.1 != some true) entries) := by
  refine sortOn?_of_comparable fun e here e' there => ?_
  obtain ⟨s, isText⟩ := texts e.1 (List.mem_map_of_mem here)
  obtain ⟨t, isText'⟩ := texts e'.1 (List.mem_map_of_mem there)
  rw [isText, isText']
  rfl

theorem exists_members :
    ∃ members : List (String × Datum), entries = members.map fun m => (.text m.1, m.2) := by
  induction entries with
  | nil => exact ⟨[], rfl⟩
  | cons e entries ih =>
      obtain ⟨⟨s, isText⟩, others⟩ := List.forall_mem_cons.mp texts
      obtain ⟨members, rfl⟩ := ih others
      exact ⟨(s, e.2) :: members, by rw [List.map_cons, ← isText]⟩

theorem ascending_of_sortEntries? {sorted : List (Datum × Datum)} (sorts : sortEntries? entries = some sorted) :
    Ascending sorted := by
  rw [sortEntries?_of_texts texts] at sorts
  obtain ⟨members, rfl⟩ := exists_members texts
  have le_iff (s t : String) : (below? (.text t) (.text s) != some true) = textLe s t := by
    by_cases below : t < s
    · simp [below?, textLe, below, String.not_le.mpr below]
    · simp [below?, textLe, below, String.not_lt.mp below]
  have order : Comparison fun m m' : String × Datum => textLe m.1 m'.1 := textLe_comparison.on Prod.fst
  have sortedMembers : (sortBy (fun m m' => textLe m.1 m'.1) members).map (fun m => (Datum.text m.1, m.2)) =
      sortBy (fun e e' => below? e'.1 e.1 != some true) (members.map fun m => (Datum.text m.1, m.2)) :=
    map_sortBy _ (fun m m' => le_iff m.1 m'.1) members
  obtain rfl := Option.some.inj sorts
  unfold Ascending
  rw [← sortedMembers, List.map_map, List.pairwise_map]
  refine (sortBy_pairwise order members).imp fun {m m'} le => ?_
  rw [← le_iff] at le
  simpa using le

end Texts

/-- Entries in order stay as they are, if their values do. -/
theorem arrange?_of_ascending {entries : List (Datum × Datum)}
    (texts : ∀ key ∈ entries.map Prod.fst, ∃ s, key = .text s) (ascending : Ascending entries)
    (each : ∀ e ∈ entries, sortMappings? e.2 = some e.2) : arrange? entries = some entries := by
  have values : sortMappingValues? entries = some entries := by
    clear texts ascending
    induction entries with
    | nil => rfl
    | cons e entries ih =>
        obtain ⟨first, rest⟩ := List.forall_mem_cons.mp each
        rw [sortMappingValues?, first, ih rest]
        rfl
  have ordered : entries.Pairwise fun e e' => (below? e'.1 e.1 != some true) = true :=
    (List.pairwise_map.mp ascending).imp fun {e e'} le => by simpa using le
  unfold arrange?
  rw [values, Option.bind_eq_bind, Option.bind_some, sortEntries?_of_texts texts, sortBy_eq_self ordered]

/-- Entries whose keys are texts in order stay as they are, if their values do. -/
theorem arrange?_of_sorted {α : Type} {l : List α} {key : α → String} {value : α → Datum}
    (ordered : l.Pairwise fun a b => key a ≤ key b) (each : ∀ a ∈ l, sortMappings? (value a) = some (value a)) :
    arrange? (l.map fun a => (.text (key a), value a)) = some (l.map fun a => (.text (key a), value a)) := by
  refine arrange?_of_ascending (by simp) ?_ (by simpa using each)
  unfold Ascending
  rw [List.map_map, List.pairwise_map]
  refine ordered.imp fun {a b} le => ?_
  show some (decide (key b < key a)) ≠ some true
  rw [decide_eq_false (String.not_lt.mpr le)]
  exact nofun

theorem sortMappings?_object {members : List (String × Datum)} (ordered : members.Pairwise fun a b => a.1 ≤ b.1)
    (each : ∀ m ∈ members, sortMappings? m.2 = some m.2) :
    sortMappings? (.object members) = some (.object members) := by
  rw [Datum.object, sortMappings?_mapping]
  exact congrArg (Option.map Datum.mapping) (arrange?_of_sorted ordered each)

theorem keys_eq_of_forall₂ {R : Datum × Datum → Datum × Datum → Prop} {l l' : List (Datum × Datum)}
    (each : List.Forall₂ (fun e e' => e'.1 = e.1 ∧ R e e') l l') :
    l'.map Prod.fst = l.map Prod.fst := by
  induction each with
  | nil => rfl
  | cons first _ ih => rw [List.map_cons, List.map_cons, first.1, ih]

theorem lookup?_of_forall₂ {l l' : List (Datum × Datum)}
    (each : List.Forall₂ (fun e e' => e'.1 = e.1 ∧ sortMappings? e.2 = some e'.2) l l') (key : String) :
    lookup? key l' = (lookup? key l).bind sortMappings? := by
  induction each with
  | nil => rfl
  | @cons e e' _ _ first _ ih =>
      obtain ⟨k, v⟩ := e
      obtain ⟨k', v'⟩ := e'
      obtain ⟨rfl, sorts⟩ := first
      by_cases here : k' = .text key
      · subst here
        rw [lookup?_cons_self, lookup?_cons_self]
        exact sorts.symm
      · rw [lookup?_cons_of_ne here, lookup?_cons_of_ne here, ih]

section Arranged

variable {entries sorted : List (Datum × Datum)} (arranges : arrange? entries = some sorted)
include arranges

theorem Tidy.of_arrange? (tidy : Tidy entries) : Tidy sorted := by
  obtain ⟨values, each, perm⟩ := arrange?_eq_some_iff arranges
  exact (tidy.of_keys (keys_eq_of_forall₂ each)).of_perm perm

/-- **What is found after sorting is what was found before, sorted.** Sorting goes into the values,
so it cannot be the very same. -/
theorem Tidy.lookup?_arrange? (tidy : Tidy entries) (key : String) :
    lookup? key sorted = (lookup? key entries).bind sortMappings? := by
  obtain ⟨values, each, perm⟩ := arrange?_eq_some_iff arranges
  rw [(tidy.of_keys (keys_eq_of_forall₂ each)).lookup?_eq_of_perm perm, lookup?_of_forall₂ each]

theorem Tidy.lookup?_arrange?_eq_none_iff (tidy : Tidy entries) (key : String) :
    lookup? key sorted = none ↔ lookup? key entries = none := by
  obtain ⟨values, each, perm⟩ := arrange?_eq_some_iff arranges
  rw [(tidy.of_keys (keys_eq_of_forall₂ each)).lookup?_eq_of_perm perm, lookup?_eq_none_iff,
    lookup?_eq_none_iff, keys_eq_of_forall₂ each]

theorem exists_of_mem_arrange? {e' : Datum × Datum} (here : e' ∈ sorted) :
    ∃ e ∈ entries, e'.1 = e.1 ∧ sortMappings? e.2 = some e'.2 := by
  obtain ⟨values, each, perm⟩ := arrange?_eq_some_iff arranges
  clear arranges
  have there := perm.mem_iff.mp here
  clear perm here
  induction each with
  | nil => cases there
  | @cons e _ _ _ first _ ih =>
      rcases List.mem_cons.mp there with rfl | later
      · exact ⟨e, List.mem_cons_self, first⟩
      · obtain ⟨e, he, same⟩ := ih later
        exact ⟨e, List.mem_cons_of_mem _ he, same⟩

end Arranged

theorem Tidy.arrange?_eq_self_iff {entries : List (Datum × Datum)} (tidy : Tidy entries) :
    arrange? entries = some entries ↔ Ascending entries ∧ ∀ e ∈ entries, sortMappings? e.2 = some e.2 := by
  constructor
  · intro arranged
    obtain ⟨values, sorts, orders⟩ := Option.bind_eq_some_iff.mp arranged
    have same := keys_eq_of_forall₂ (sortMappingValues?_forall₂ sorts)
    refine ⟨ascending_of_sortEntries? (same ▸ tidy.texts) orders, fun e here => ?_⟩
    obtain ⟨key, isText⟩ := tidy.texts e.1 (List.mem_map_of_mem here)
    have found : lookup? key entries = some e.2 := (tidy.lookup?_iff key e.2).mpr (isText ▸ here)
    have sorted := tidy.lookup?_arrange? arranged key
    rw [found, Option.bind_some] at sorted
    exact sorted.symm
  · rintro ⟨ascending, each⟩
    exact arrange?_of_ascending tidy.texts ascending each

/-- Entries that sorting leaves as they are stay so when one of them is set. -/
theorem Tidy.arrange?_assign {entries : List (Datum × Datum)} (tidy : Tidy entries) {key : String} {value : Datum}
    (here : .text key ∈ entries.map Prod.fst) (fixed : sortMappings? value = some value)
    (arranged : arrange? entries = some entries) :
    arrange? (assign (.text key) value entries) = some (assign (.text key) value entries) := by
  obtain ⟨ascending, each⟩ := tidy.arrange?_eq_self_iff.mp arranged
  have keys := keys_assign_of_mem here value
  refine (tidy.of_assign key value).arrange?_eq_self_iff.mpr ⟨?_, forall_mem_assign fixed each⟩
  unfold Ascending
  rwa [keys]

theorem Keyed.of_sortMappings? {depth : Nat} {d sorted : Datum} (keyed : d.Keyed depth)
    (sorts : sortMappings? d = some sorted) : sorted.Keyed depth := by
  induction depth generalizing d sorted with
  | zero => exact trivial
  | succ depth ih =>
      cases d with
      | mapping entries =>
          rw [sortMappings?_mapping, Option.map_eq_some_iff] at sorts
          obtain ⟨entries', arranges, rfl⟩ := sorts
          refine ⟨keyed.1.of_arrange? arranges, fun e' he' => ?_⟩
          obtain ⟨e, he, -, sorts⟩ := exists_of_mem_arrange? arranges he'
          exact ih (keyed.2 e he) sorts
      | _ =>
          obtain rfl := Option.some.inj sorts
          exact trivial

/-- What is found in a value after sorting is what was found before, sorted. -/
theorem find?_of_sortMappings? {d sorted : Datum} (keyed : d.Keyed 1)
    (sorts : sortMappings? d = some sorted) (key : String) :
    sorted.find? key = (d.find? key).bind sortMappings? ∧
      (sorted.find? key = none ↔ d.find? key = none) := by
  cases d with
  | mapping entries =>
      rw [sortMappings?_mapping, Option.map_eq_some_iff] at sorts
      obtain ⟨entries', arranges, rfl⟩ := sorts
      exact ⟨keyed.1.lookup?_arrange? arranges key, keyed.1.lookup?_arrange?_eq_none_iff arranges key⟩
  | _ =>
      obtain rfl := Option.some.inj sorts
      exact ⟨rfl, Iff.rfl⟩

/-- A leaf that is found after sorting was found before. -/
theorem find?_eq_of_sortMappings? {d sorted leaf : Datum} (keyed : d.Keyed 1)
    (sorts : sortMappings? d = some sorted) (isLeaf : leaf.IsLeaf) {key : String}
    (found : sorted.find? key = some leaf) : d.find? key = some leaf := by
  rw [(find?_of_sortMappings? keyed sorts key).1, Option.bind_eq_some_iff] at found
  obtain ⟨value, there, sortsValue⟩ := found
  rw [there, eq_of_sortMappings? sortsValue isLeaf]

end Datum

namespace Config

open Datum

/-! ## Mappings laid over each other -/

theorem overlay_cons (entries : List (Datum × Datum)) (key : String) (value : Datum)
    (upper : List (Datum × Datum)) :
    overlay entries ((.text key, value) :: upper) =
      overlay (assign (.text key) (overlayValue (lookup? key entries) value) entries) upper := rfl

theorem overlayValue_mapping (lower upper : List (Datum × Datum)) :
    overlayValue (some (.mapping lower)) (.mapping upper) = .mapping (overlay lower upper) := rfl

/-- Over anything but a mapping a mapping stands as it is. -/
theorem overlayValue_of_not_mapping {current : Option Datum}
    (other : ∀ lower, current ≠ some (.mapping lower)) (upper : List (Datum × Datum)) :
    overlayValue current (.mapping upper) = .mapping upper := by
  unfold overlayValue
  split
  next lower => exact absurd rfl (other lower)
  next => rfl

/-- What is laid over another value is a mapping if it was one. -/
theorem exists_overlayValue_mapping (current : Option Datum) (upper : List (Datum × Datum)) :
    ∃ entries, overlayValue current (.mapping upper) = .mapping entries := by
  by_cases other : ∀ lower, current ≠ some (.mapping lower)
  · exact ⟨upper, overlayValue_of_not_mapping other upper⟩
  · obtain ⟨lower, rfl⟩ := not_forall_not.mp other
    exact ⟨_, overlayValue_mapping lower upper⟩

/-- A leaf is what was laid over another value. -/
theorem eq_of_overlayValue {current : Option Datum} {d leaf : Datum} (isLeaf : leaf.IsLeaf)
    (same : overlayValue current d = leaf) : d = leaf := by
  cases d with
  | mapping upper =>
      obtain ⟨entries, isMapping⟩ := exists_overlayValue_mapping current upper
      rw [← same, isMapping] at isLeaf
      exact isLeaf.elim
  | _ => exact same

/-- **The entry of a key is what the upper mapping has there, laid over what the lower one has.** -/
theorem lookup?_overlay {upper : List (Datum × Datum)} (tidy : Tidy upper)
    (entries : List (Datum × Datum)) (key : String) :
    lookup? key (overlay entries upper) =
      match lookup? key upper with
      | none => lookup? key entries
      | some value => some (overlayValue (lookup? key entries) value) := by
  induction upper generalizing entries with
  | nil => rfl
  | cons e upper ih =>
      obtain ⟨k, value, rfl, first, rest⟩ := tidy.uncons
      rw [overlay_cons, ih rest, lookup?_assign]
      by_cases here : k = key
      · subst here
        rw [lookup?_cons_self, (lookup?_eq_none_iff k upper).mpr first]
        simp
      · rw [lookup?_cons_of_ne (mt Datum.text.inj here), if_neg here]

/-- A leaf that is found in a value laid over another one was found in that value, or in the other one if
that value says nothing. -/
theorem find?_overlayValue {current : Option Datum} {d leaf : Datum} (keyed : d.Keyed 1)
    (isLeaf : leaf.IsLeaf) {key : String} (found : (overlayValue current d).find? key = some leaf) :
    d.find? key = some leaf ∨
      d.find? key = none ∧ ∃ c, current = some c ∧ c.find? key = some leaf := by
  cases d with
  | mapping upper =>
      by_cases other : ∀ lower, current ≠ some (.mapping lower)
      · rw [overlayValue_of_not_mapping other] at found
        exact .inl found
      · obtain ⟨lower, rfl⟩ := not_forall_not.mp other
        rw [overlayValue_mapping, Datum.find?, lookup?_overlay keyed.1] at found
        cases there : lookup? key upper with
        | none =>
            rw [there] at found
            exact .inr ⟨there, _, rfl, found⟩
        | some value =>
            rw [there] at found
            obtain rfl := eq_of_overlayValue isLeaf (Option.some.inj found)
            exact .inl there
  | _ => cases found

/-- Laying a mapping over another one keeps a condition on the values at keys of both. -/
theorem mem_overlay {P : Datum → Prop} {entries upper : List (Datum × Datum)} (tidy : Tidy upper)
    (lower : ∀ e ∈ entries, P e.2)
    (keeps : ∀ e ∈ upper, ∀ current, (∀ d, current = some d → P d) → P (overlayValue current e.2)) :
    ∀ e ∈ overlay entries upper, P e.2 := by
  induction upper generalizing entries with
  | nil => exact lower
  | cons e upper ih =>
      obtain ⟨k, value, rfl, -, rest⟩ := tidy.uncons
      rw [overlay_cons]
      refine ih rest (forall_mem_assign ?_ lower) fun e' he' => keeps e' (List.mem_cons_of_mem _ he')
      exact keeps _ List.mem_cons_self _ fun d found => lower _ (mem_of_lookup? found)

theorem tidy_overlay {entries upper : List (Datum × Datum)} (lower : Tidy entries) (tidy : Tidy upper) :
    Tidy (overlay entries upper) := by
  induction upper generalizing entries with
  | nil => exact lower
  | cons e upper ih =>
      obtain ⟨k, value, rfl, -, rest⟩ := tidy.uncons
      rw [overlay_cons]
      exact ih (lower.of_assign k _) rest

/-- Over nothing a value stands as it is. -/
theorem overlayValue_none (d : Datum) : overlayValue none d = d := by
  cases d with
  | mapping upper => exact overlayValue_of_not_mapping (by simp) upper
  | _ => rfl

/-- Entries at other keys are put after those that are there. -/
theorem overlay_eq_append {entries upper : List (Datum × Datum)} (tidy : Tidy upper)
    (apart : ∀ key ∈ upper.map Prod.fst, key ∉ entries.map Prod.fst) :
    overlay entries upper = entries ++ upper := by
  induction upper generalizing entries with
  | nil => exact (List.append_nil entries).symm
  | cons e upper ih =>
      obtain ⟨k, value, rfl, first, rest⟩ := tidy.uncons
      have absent := apart _ List.mem_cons_self
      rw [overlay_cons, (lookup?_eq_none_iff k entries).mpr absent, overlayValue_none,
        assign_of_notMem absent, ih rest, List.append_assoc, List.singleton_append]
      intro key here
      rw [List.map_append, List.mem_append, not_or]
      refine ⟨apart key (List.mem_cons_of_mem _ here), fun last => first ?_⟩
      have same : key = .text k := List.mem_singleton.mp last
      rwa [← same]

theorem keyed_overlayValue {depth : Nat} {current : Option Datum} {d : Datum} (keyed : d.Keyed depth)
    (lower : ∀ d, current = some d → d.Keyed depth) : (overlayValue current d).Keyed depth := by
  induction depth generalizing current d with
  | zero => exact trivial
  | succ depth ih =>
      cases d with
      | mapping upper =>
          by_cases other : ∀ entries, current ≠ some (.mapping entries)
          · rw [overlayValue_of_not_mapping other]
            exact keyed
          · obtain ⟨entries, rfl⟩ := not_forall_not.mp other
            obtain ⟨tidy, each⟩ := lower _ rfl
            exact ⟨tidy_overlay tidy keyed.1, mem_overlay keyed.1 each fun e he _ => ih (keyed.2 e he)⟩
      | _ => exact trivial

/-! ## Merging -/

/-- Over no entries a mapping stands as it is, with its keys in order. -/
theorem merge?_nil {upper raised : List (Datum × Datum)} (tidy : Tidy upper) (arranges : arrange? upper = some raised) :
    merge? [] upper = some raised := by
  obtain ⟨values, sorts, orders⟩ := Option.bind_eq_some_iff.mp arranges
  have laid : overlay [] raised = raised := overlay_eq_append (tidy.of_arrange? arranges) (by simp)
  unfold merge?
  rw [sorts]
  change (sortEntries? values).bind (fun raised => some (overlay [] raised)) = some raised
  rw [orders, Option.bind_some, laid]

section Merged

variable {base upper merged : List (Datum × Datum)} (merges : merge? base upper = some merged)
include merges

theorem merge?_eq_some_iff : ∃ lower raised, arrange? base = some lower ∧ arrange? upper = some raised ∧
    merged = overlay lower raised := by
  unfold merge? at merges
  simp only [Option.bind_eq_bind, Option.bind_eq_some_iff, Option.pure_def, Option.some.injEq] at merges
  obtain ⟨lowerValues, sortsLower, lower, ordersLower, overValues, sortsOver, raised, ordersOver, rfl⟩ := merges
  exact ⟨lower, raised, Option.bind_eq_some_iff.mpr ⟨_, sortsLower, ordersLower⟩,
    Option.bind_eq_some_iff.mpr ⟨_, sortsOver, ordersOver⟩, rfl⟩

/-- **Merging keeps the keys texts that stand once.** -/
theorem merge?_keyed {depth : Nat} (lower : (Datum.mapping base).Keyed (depth + 1))
    (above : (Datum.mapping upper).Keyed (depth + 1)) : (Datum.mapping merged).Keyed (depth + 1) := by
  obtain ⟨lower', raised, arrangesLower, arrangesOver, rfl⟩ := merge?_eq_some_iff merges
  have keyedLower : (Datum.mapping lower').Keyed (depth + 1) :=
    lower.of_sortMappings? (by rw [sortMappings?_mapping, arrangesLower]; rfl)
  have keyedOver : (Datum.mapping raised).Keyed (depth + 1) :=
    above.of_sortMappings? (by rw [sortMappings?_mapping, arrangesOver]; rfl)
  rw [← overlayValue_mapping]
  exact keyed_overlayValue keyedOver fun d same => Option.some.inj same ▸ keyedLower

/-- The entry of a key after merging. -/
theorem lookup?_merge? (lower : Tidy base) (above : Tidy upper) (key : String) :
    lookup? key merged =
      match lookup? key upper with
      | none => (lookup? key base).bind sortMappings?
      | some value => (sortMappings? value).map (overlayValue ((lookup? key base).bind sortMappings?)) := by
  obtain ⟨lower', raised, arrangesLower, arrangesOver, rfl⟩ := merge?_eq_some_iff merges
  rw [lookup?_overlay (above.of_arrange? arrangesOver), lower.lookup?_arrange? arrangesLower]
  have sorts := above.lookup?_arrange? arrangesOver key
  have absent := above.lookup?_arrange?_eq_none_iff arrangesOver key
  cases found : lookup? key upper with
  | none => rw [absent.mpr found]
  | some value =>
      rw [found, Option.bind_some] at sorts
      cases sorted : sortMappings? value with
      | none => exact absurd (absent.mp (sorts.trans sorted)) (by simp [found])
      | some value' => simp [sorts, sorted]

/-- No key has the value null after merging, if none had it before. -/
theorem lookup?_merge?_ne_null (lower : Tidy base) (above : Tidy upper) {key : String}
    (base_ne : lookup? key base ≠ some .null) (upper_ne : lookup? key upper ≠ some .null) :
    lookup? key merged ≠ some .null := by
  rw [lookup?_merge? merges lower above]
  intro isNull
  cases found : lookup? key upper with
  | none =>
      rw [found] at isNull
      obtain ⟨value, there, sorts⟩ := Option.bind_eq_some_iff.mp isNull
      exact base_ne (eq_of_sortMappings? sorts trivial ▸ there)
  | some value =>
      rw [found] at isNull
      obtain ⟨value', sorts, isNull⟩ := Option.map_eq_some_iff.mp isNull
      have leaf : Datum.null.IsLeaf := trivial
      obtain rfl := eq_of_overlayValue leaf isNull
      exact upper_ne (eq_of_sortMappings? sorts trivial ▸ found)

/-- **A leaf at a field comes from the upper mapping, or from the lower one if the upper one says nothing
of the field.** -/
theorem fieldOf?_merge? (lower : (Datum.mapping base).Keyed 2) (above : (Datum.mapping upper).Keyed 2)
    {section_ field : String} {d : Datum} (leaf : d.IsLeaf)
    (found : fieldOf? section_ field merged = some d) :
    fieldOf? section_ field upper = some d ∨
      fieldOf? section_ field upper = none ∧ fieldOf? section_ field base = some d := by
  obtain ⟨value, there, inside⟩ := Option.bind_eq_some_iff.mp found
  have fromBase {b' : Datum} (isBase : (lookup? section_ base).bind sortMappings? = some b')
      (inside : b'.find? field = some d) : fieldOf? section_ field base = some d := by
    obtain ⟨b, isBase, sorts⟩ := Option.bind_eq_some_iff.mp isBase
    have keyed := lower.2 _ (mem_of_lookup? isBase)
    rw [fieldOf?, isBase, Option.bind_some]
    exact find?_eq_of_sortMappings? keyed sorts leaf inside
  rw [lookup?_merge? merges lower.1 above.1] at there
  cases isUpper : lookup? section_ upper with
  | none =>
      rw [isUpper] at there
      exact .inr ⟨by simp [fieldOf?, isUpper], fromBase there inside⟩
  | some u =>
      rw [isUpper] at there
      obtain ⟨u', sorts, rfl⟩ := Option.map_eq_some_iff.mp there
      have keyed := above.2 _ (mem_of_lookup? isUpper)
      rw [fieldOf?, isUpper, Option.bind_some]
      rcases find?_overlayValue (keyed.of_sortMappings? sorts) leaf inside with above | ⟨silent, b', isBase, inside⟩
      · exact .inl (find?_eq_of_sortMappings? keyed sorts leaf above)
      · exact .inr ⟨(find?_of_sortMappings? keyed sorts field).2.mp silent, fromBase isBase inside⟩

end Merged

end Config

end IntentSpec
