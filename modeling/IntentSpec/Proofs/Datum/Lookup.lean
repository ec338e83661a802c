import IntentSpec.Datum.Order
import IntentSpec.Proofs.Datum.Reading
import IntentSpec.Proofs.Sorting

/-!
# Looking up the entries of a mapping

A mapping is a list of entries.  What is found at a text does not depend on their order as long as the
keys are texts and no text is a key twice, which is what is asked of a mapping here.

A value from outside may have other keys as well, a number or an absent value, and texts that come from a
list of pairs may repeat.  The laws of lookup and assignment hold for all of these, since assignment changes
the first entry of a key and lookup finds the first.  Only where the order is changed is tidiness needed, and
it is asked for down to the depth at which the schema has its fields.  Sequences are leaves to the schema, so
nothing is asked of the mappings inside them.

* `Datum.Tidy`, `Datum.Keyed` — entries, and all mappings in a value down to a depth, with such keys.
* `Datum.lookup?_assign` — an entry is set, and no other entry is changed.
* `Datum.Tidy.lookup?_eq_of_perm` — sorting tidy entries changes nothing that is found.
-/

namespace IntentSpec

theorem mem_dedup {α : Type} [BEq α] [LawfulBEq α] {a : α} {l : List α} : a ∈ dedup l ↔ a ∈ l := by
  induction l with
  | nil => exact Iff.rfl
  | cons b l ih =>
      by_cases same : a = b
      · simp [dedup, same]
      · simp [dedup, ih, same]

namespace Datum

theorem sameKey_text_iff (d : Datum) (s : String) : d.sameKey (.text s) = true ↔ d = .text s := by
  cases d with
  | text t => simp [sameKey]
  | number x => cases h : x.toInt? <;> simp [sameKey, toInt?, h]
  | _ => simp [sameKey, toInt?]

theorem lookup?_nil (key : String) : lookup? key [] = none := rfl

theorem lookup?_cons_self (key : String) (value : Datum) (entries : List (Datum × Datum)) :
    lookup? key ((.text key, value) :: entries) = some value := by
  simp [lookup?, (sameKey_text_iff _ key).mpr rfl]

theorem lookup?_cons_of_ne {key : String} {e : Datum × Datum} (apart : e.1 ≠ .text key)
    (entries : List (Datum × Datum)) : lookup? key (e :: entries) = lookup? key entries := by
  have other : ¬ e.1.sameKey (.text key) = true := mt (sameKey_text_iff e.1 key).mp apart
  simp [lookup?, other]

theorem mem_of_lookup? {key : String} {value : Datum} {entries : List (Datum × Datum)}
    (found : lookup? key entries = some value) : (.text key, value) ∈ entries := by
  obtain ⟨⟨k, v⟩, first, rfl⟩ := Option.map_eq_some_iff.mp found
  have isKey : k.sameKey (.text key) = true := by
    simpa using List.find?_some first
  obtain rfl := (sameKey_text_iff k key).mp isKey
  exact List.mem_of_find?_eq_some first

theorem exists_lookup?_iff (key : String) (entries : List (Datum × Datum)) :
    (∃ value, lookup? key entries = some value) ↔ .text key ∈ entries.map Prod.fst := by
  constructor
  · rintro ⟨value, found⟩
    exact List.mem_map.mpr ⟨_, mem_of_lookup? found, rfl⟩
  · intro here
    obtain ⟨e, there, isKey⟩ := List.mem_map.mp here
    have found : (entries.find? fun entry => entry.1.sameKey (.text key)).isSome = true :=
      List.find?_isSome.mpr ⟨e, there, (sameKey_text_iff e.1 key).mpr isKey⟩
    obtain ⟨first, isFirst⟩ := Option.isSome_iff_exists.mp found
    exact ⟨first.2, congrArg (Option.map Prod.snd) isFirst⟩

theorem lookup?_eq_none_iff (key : String) (entries : List (Datum × Datum)) :
    lookup? key entries = none ↔ .text key ∉ entries.map Prod.fst := by
  rw [← exists_lookup?_iff, Option.eq_none_iff_forall_ne_some, not_exists]

/-! ## Setting an entry -/

theorem assign_cons_self (key : String) (old value : Datum) (entries : List (Datum × Datum)) :
    assign (.text key) value ((.text key, old) :: entries) = (.text key, value) :: entries :=
  if_pos ((sameKey_text_iff _ key).mpr rfl)

theorem assign_cons_of_ne {key : String} {e : Datum × Datum} (apart : e.1 ≠ .text key) (value : Datum)
    (entries : List (Datum × Datum)) :
    assign (.text key) value (e :: entries) = e :: assign (.text key) value entries :=
  if_neg (mt (sameKey_text_iff e.1 key).mp apart)

/-- **An entry is set, and no other is changed.** Nothing is asked of the entries: their keys may be
anything, and may stand twice. -/
theorem lookup?_assign (key other : String) (value : Datum) (entries : List (Datum × Datum)) :
    lookup? other (assign (.text key) value entries) =
      if key = other then some value else lookup? other entries := by
  have apart {s t : String} (ne : s ≠ t) : Datum.text s ≠ .text t := mt Datum.text.inj ne
  induction entries with
  | nil =>
      by_cases same : key = other
      · simp [assign, same, lookup?_cons_self]
      · simp [assign, same, lookup?_cons_of_ne (e := (.text key, value)) (apart same)]
  | cons e entries ih =>
      obtain ⟨k, old⟩ := e
      by_cases here : k = .text key
      · subst here
        rw [assign_cons_self]
        by_cases same : key = other
        · simp [same, lookup?_cons_self]
        · simp [same, lookup?_cons_of_ne (e := (.text key, _)) (apart same)]
      · rw [assign_cons_of_ne here]
        by_cases there : k = .text other
        · subst there
          have ne : key ≠ other := fun same => here (same ▸ rfl)
          simp [ne, lookup?_cons_self]
        · rw [lookup?_cons_of_ne there, ih, lookup?_cons_of_ne there]

theorem keys_assign_of_mem {key : String} {entries : List (Datum × Datum)}
    (here : .text key ∈ entries.map Prod.fst) (value : Datum) :
    (assign (.text key) value entries).map Prod.fst = entries.map Prod.fst := by
  induction entries with
  | nil => cases here
  | cons e entries ih =>
      obtain ⟨k, old⟩ := e
      by_cases first : k = .text key
      · subst first
        rw [assign_cons_self, List.map_cons, List.map_cons]
      · have later := (List.mem_cons.mp here).resolve_left fun same => first same.symm
        rw [assign_cons_of_ne first, List.map_cons, ih later, List.map_cons]

theorem assign_of_notMem {key : String} {entries : List (Datum × Datum)}
    (absent : .text key ∉ entries.map Prod.fst) (value : Datum) :
    assign (.text key) value entries = entries ++ [(.text key, value)] := by
  induction entries with
  | nil => rfl
  | cons e entries ih =>
      rw [List.map_cons, List.mem_cons, not_or] at absent
      rw [assign_cons_of_ne (Ne.symm absent.1), ih absent.2, List.cons_append]

/-- An entry that is set to what it is changes nothing. -/
theorem assign_of_lookup? {key : String} {value : Datum} {entries : List (Datum × Datum)}
    (found : lookup? key entries = some value) : assign (.text key) value entries = entries := by
  induction entries with
  | nil => cases found
  | cons e entries ih =>
      obtain ⟨k, old⟩ := e
      by_cases here : k = .text key
      · subst here
        rw [lookup?_cons_self] at found
        rw [assign_cons_self, Option.some.inj found]
      · rw [lookup?_cons_of_ne here] at found
        rw [assign_cons_of_ne here, ih found]

theorem mem_of_mem_assign {key : String} {value : Datum} {entries : List (Datum × Datum)}
    {e : Datum × Datum} (here : e ∈ assign (.text key) value entries) :
    e = (.text key, value) ∨ e ∈ entries := by
  induction entries with
  | nil => exact .inl (List.mem_singleton.mp here)
  | cons first entries ih =>
      obtain ⟨k, old⟩ := first
      by_cases same : k = .text key
      · subst same
        rw [assign_cons_self] at here
        exact (List.mem_cons.mp here).imp id (List.mem_cons_of_mem _)
      · rw [assign_cons_of_ne same] at here
        rcases List.mem_cons.mp here with rfl | later
        · exact .inr List.mem_cons_self
        · exact (ih later).imp id (List.mem_cons_of_mem _)

/-- What holds of an entry that is set, and of all that are there, holds of all after setting it. -/
theorem forall_mem_assign {P : Datum × Datum → Prop} {key : String} {value : Datum} {entries : List (Datum × Datum)}
    (set : P (.text key, value)) (old : ∀ e ∈ entries, P e) : ∀ e ∈ assign (.text key) value entries, P e := by
  intro e here
  rcases mem_of_mem_assign here with rfl | before
  · exact set
  · exact old e before

/-! ## Tidy entries -/

/-- The keys of entries are texts, and no text is a key twice. -/
structure Tidy (entries : List (Datum × Datum)) : Prop where
  texts : ∀ key ∈ entries.map Prod.fst, ∃ s, key = .text s
  distinct : (entries.map Prod.fst).Nodup

/-- All mappings in a value down to a depth have tidy entries.  What is inside sequences is not looked
at. -/
def Keyed : Nat → Datum → Prop
  | 0, _ => True
  | depth + 1, .mapping entries => Tidy entries ∧ ∀ e ∈ entries, Keyed depth e.2
  | _ + 1, _ => True

/-- A value is no mapping. -/
def IsLeaf : Datum → Prop
  | .mapping _ => False
  | _ => True

theorem Keyed.of_leaf {d : Datum} (leaf : d.IsLeaf) (depth : Nat) : d.Keyed depth := by
  cases depth with
  | zero => exact trivial
  | succ depth =>
      cases d with
      | mapping entries => exact leaf.elim
      | _ => exact trivial

theorem Tidy.nil : Tidy [] := ⟨by simp, List.nodup_nil⟩

/-- The first of tidy entries has a text for its key, which is none of the keys behind it. -/
theorem Tidy.uncons {e : Datum × Datum} {entries : List (Datum × Datum)} (tidy : Tidy (e :: entries)) :
    ∃ key value, e = (.text key, value) ∧ .text key ∉ entries.map Prod.fst ∧ Tidy entries := by
  obtain ⟨k, value⟩ := e
  obtain ⟨key, rfl⟩ := tidy.texts k List.mem_cons_self
  obtain ⟨first, rest⟩ := List.nodup_cons.mp tidy.distinct
  exact ⟨key, value, rfl, first, fun k here => tidy.texts k (List.mem_cons_of_mem _ here), rest⟩

theorem Tidy.of_perm {l l' : List (Datum × Datum)} (tidy : Tidy l) (perm : l'.Perm l) : Tidy l' where
  texts key here := tidy.texts key ((perm.map Prod.fst).mem_iff.mp here)
  distinct := (perm.map Prod.fst).nodup_iff.mpr tidy.distinct

theorem Tidy.of_keys {l l' : List (Datum × Datum)} (tidy : Tidy l)
    (keys : l'.map Prod.fst = l.map Prod.fst) : Tidy l' where
  texts := keys ▸ tidy.texts
  distinct := keys ▸ tidy.distinct

/-- Texts that stand once make tidy entries. -/
theorem Tidy.of_texts {α : Type} {l : List α} {key : α → String} (distinct : (l.map key).Nodup)
    (value : α → Datum) : Tidy (l.map fun a => (.text (key a), value a)) where
  texts k here := by
    simp only [List.map_map, List.mem_map, Function.comp_apply] at here
    obtain ⟨a, -, rfl⟩ := here
    exact ⟨key a, rfl⟩
  distinct := by
    have keys : (l.map fun a => (Datum.text (key a), value a)).map Prod.fst =
        (l.map key).map Datum.text := by simp
    rw [keys]
    exact distinct.map fun a b => Datum.text.inj

theorem Tidy.of_assign {entries : List (Datum × Datum)} (tidy : Tidy entries) (key : String)
    (value : Datum) : Tidy (assign (.text key) value entries) := by
  by_cases here : .text key ∈ entries.map Prod.fst
  · exact tidy.of_keys (keys_assign_of_mem here value)
  · rw [assign_of_notMem here]
    refine ⟨?_, ?_⟩
    · intro k hk
      rw [List.map_append, List.mem_append] at hk
      exact hk.elim (tidy.texts k) fun e => ⟨key, List.mem_singleton.mp e⟩
    · rw [List.map_append]
      refine List.nodup_append.mpr ⟨tidy.distinct, List.nodup_singleton _, ?_⟩
      rintro a ha b hb rfl
      obtain rfl := List.mem_singleton.mp hb
      exact here ha

theorem Keyed.of_assign {depth : Nat} {entries : List (Datum × Datum)}
    (keyed : (mapping entries).Keyed (depth + 1)) (key : String) {value : Datum} (each : value.Keyed depth) :
    (mapping (assign (.text key) value entries)).Keyed (depth + 1) :=
  ⟨keyed.1.of_assign key value, forall_mem_assign each keyed.2⟩

theorem Tidy.lookup?_iff {entries : List (Datum × Datum)} (tidy : Tidy entries) (key : String)
    (value : Datum) : lookup? key entries = some value ↔ (.text key, value) ∈ entries := by
  refine ⟨mem_of_lookup?, fun here => ?_⟩
  obtain ⟨found, is⟩ :=
    (exists_lookup?_iff key entries).mpr (List.mem_map.mpr ⟨_, here, rfl⟩)
  have same := List.inj_on_of_nodup_map tidy.distinct (mem_of_lookup? is) here rfl
  rw [is, (Prod.mk.inj same).2]

/-- **What is found in tidy entries does not depend on their order.** If a key stood twice, the
order would decide which of the two is found. -/
theorem Tidy.lookup?_eq_of_perm {l l' : List (Datum × Datum)} (tidy : Tidy l) (perm : l'.Perm l)
    (key : String) : lookup? key l' = lookup? key l := by
  apply Option.ext
  intro value
  rw [(tidy.of_perm perm).lookup?_iff, tidy.lookup?_iff, perm.mem_iff]

/-! ## Sorting entries -/

theorem sortEntries?_perm {entries sorted : List (Datum × Datum)}
    (sorts : sortEntries? entries = some sorted) : sorted.Perm entries := by
  unfold sortEntries? sortOn? at sorts
  rw [Option.ite_none_right_eq_some] at sorts
  obtain rfl := Option.some.inj sorts.2
  exact sortBy_perm entries

end Datum

end IntentSpec
