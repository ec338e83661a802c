import IntentSpec.Proofs.Datum.Lookup
import IntentSpec.Toml.Table

/-!
# Tables have distinct keys

Whatever headers and keys a document has, no key stands twice in a table that is built from it, and no
value is null.  Every operation on tables keeps this, since an entry is put at a key in one way only
(`put`), which takes the place of what stood there.

* `Entry.Sound`, `Sound` — entries of which this holds.
* `Sound.put`, `keeps_declare`, `keeps_append`, `keeps_set` — the operations keep it.
* `Sound.datumOf` — in the finished value nothing is null and mappings are tidy.
-/

namespace IntentSpec.Toml

open Datum

/-- A value as a document writes it: no value is null, and the keys of mappings are texts that stand
once.  What is inside sequences is not looked at. -/
inductive Written : Datum → Prop
  /-- What is no mapping is not null. -/
  | leaf {d : Datum} (isLeaf : d.IsLeaf) (there : d ≠ .null) : Written d
  /-- A mapping is tidy, and its values are written. -/
  | mapping {entries : List (Datum × Datum)} (tidy : Tidy entries) (each : ∀ e ∈ entries, Written e.2) :
      Written (.mapping entries)

theorem Written.of_mapping {entries : List (Datum × Datum)} (written : Written (.mapping entries)) :
    Tidy entries ∧ ∀ e ∈ entries, Written e.2 := by
  cases written with
  | leaf isLeaf _ => exact isLeaf.elim
  | mapping tidy each => exact ⟨tidy, each⟩

theorem Written.ne_null {d : Datum} (written : Written d) : d ≠ .null := by
  cases written with
  | leaf _ there => exact there
  | mapping _ _ => exact nofun

theorem Written.keyed {d : Datum} (written : Written d) (depth : Nat) : d.Keyed depth := by
  induction depth generalizing d with
  | zero => exact trivial
  | succ depth ih =>
      cases written with
      | leaf isLeaf _ => exact .of_leaf isLeaf (depth + 1)
      | mapping tidy each => exact ⟨tidy, fun e he => ih (each e he)⟩

/-- What stands at a key is sound: values are written, and no key of a table stands twice. -/
inductive Entry.Sound : Entry → Prop
  | value {d : Datum} (written : Written d) : Sound (.value d)
  /-- The keys of a table are distinct, and what stands at them is sound. -/
  | table (origin : Origin) {entries : Entries} (distinct : (entries.map Prod.fst).Nodup)
      (each : ∀ e ∈ entries, Sound e.2) : Sound (.table origin entries)
  /-- The keys of the current table of an array are distinct, and what stands at them is sound. -/
  | tables {current : Entries} (before : List Entries) (distinct : (current.map Prod.fst).Nodup)
      (each : ∀ e ∈ current, Sound e.2) : Sound (.tables current before)

/-- The keys of entries are distinct, and what stands at them is sound. -/
structure Sound (entries : Entries) : Prop where
  distinct : (entries.map Prod.fst).Nodup
  /-- What stands at them is sound. -/
  each : ∀ e ∈ entries, e.2.Sound

theorem Sound.nil : Sound [] := ⟨List.nodup_nil, by simp⟩

theorem Entry.Sound.of_table {origin : Origin} {entries : Entries}
    (sound : (Entry.table origin entries).Sound) : Toml.Sound entries := by
  cases sound with
  | table _ distinct each => exact ⟨distinct, each⟩

theorem Entry.Sound.of_tables {current : Entries} {before : List Entries}
    (sound : (Entry.tables current before).Sound) : Toml.Sound current := by
  cases sound with
  | tables _ distinct each => exact ⟨distinct, each⟩

/-- A table of sound entries is sound. -/
theorem Sound.table {entries : Entries} (sound : Sound entries) (origin : Origin) :
    (Entry.table origin entries).Sound := .table origin sound.distinct sound.each

/-- An array of tables is sound if its current table is. -/
theorem Sound.tables {current : Entries} (sound : Sound current) (before : List Entries) :
    (Entry.tables current before).Sound := .tables before sound.distinct sound.each

theorem mem_of_atKey? {key : String} {e : Entry} {entries : Entries} (found : atKey? key entries = some e) :
    (key, e) ∈ entries := by
  obtain ⟨⟨k, e⟩, first, rfl⟩ := Option.map_eq_some_iff.mp found
  obtain rfl : k = key := by simpa using List.find?_some first
  exact List.mem_of_find?_eq_some first

theorem Sound.atKey? {entries : Entries} (sound : Sound entries) {key : String} {e : Entry}
    (found : Toml.atKey? key entries = some e) : e.Sound :=
  sound.each _ (mem_of_atKey? found)

theorem mem_put {key : String} {e : Entry} {entries : Entries} {other : String × Entry}
    (here : other ∈ put key e entries) : other = (key, e) ∨ other ∈ entries := by
  induction entries with
  | nil => exact .inl (List.mem_singleton.mp here)
  | cons first entries ih =>
      unfold put at here
      split at here
      · exact (List.mem_cons.mp here).imp id (List.mem_cons_of_mem _)
      · rcases List.mem_cons.mp here with rfl | later
        · exact .inr List.mem_cons_self
        · exact (ih later).imp id (List.mem_cons_of_mem _)

theorem keys_put (key : String) (e : Entry) (entries : Entries) :
    (put key e entries).map Prod.fst =
      if key ∈ entries.map Prod.fst then entries.map Prod.fst else entries.map Prod.fst ++ [key] := by
  induction entries with
  | nil => rfl
  | cons first entries ih =>
      obtain ⟨k, old⟩ := first
      by_cases here : k = key
      · simp [put, here]
      · rw [put, if_neg (by simpa using here), List.map_cons, ih]
        by_cases later : key ∈ entries.map Prod.fst
        · simp only [later, List.map_cons, List.mem_cons, or_true, if_true]
        · simp only [later, List.map_cons, List.mem_cons, Ne.symm here, or_false, if_false,
            List.cons_append]

/-- **Putting a sound entry at a key keeps tables sound.** -/
theorem Sound.put {entries : Entries} (sound : Sound entries) (key : String) {e : Entry}
    (isSound : e.Sound) : Sound (Toml.put key e entries) where
  distinct := by
    rw [keys_put]
    split
    next => exact sound.distinct
    next absent =>
      refine List.nodup_append.mpr ⟨sound.distinct, List.nodup_singleton _, ?_⟩
      rintro k here _ last rfl
      exact absent (List.mem_singleton.mp last ▸ here)
  each other here := by
    rcases mem_put here with rfl | old
    · exact isSound
    · exact sound.each other old

/-! ## The operations on tables -/

/-- An operation keeps tables sound. -/
def Keeps (f : Entries → Option Entries) : Prop :=
  ∀ entries entries', f entries = some entries' → Sound entries → Sound entries'

/-- What an operation makes of a table is put back at its key, and the tables stay sound. -/
theorem Keeps.put_back {f : Entries → Option Entries} (keeps : Keeps f) {wrap : Entries → Entry}
    (wraps : ∀ {inner}, Sound inner → (wrap inner).Sound) {key : String} {inner entries entries' : Entries}
    (sound : Sound entries) (inside : Sound inner)
    (result : (do return put key (wrap (← f inner)) entries) = some entries') : Sound entries' := by
  obtain ⟨inner', made, same⟩ := Option.bind_eq_some_iff.mp result
  obtain rfl := Option.some.inj same
  exact sound.put key (wraps (keeps _ _ made inside))

theorem Keeps.within {f : Entries → Option Entries} (keeps : Keeps f) (keys : List String) :
    Keeps (Toml.within f keys) := by
  induction keys with
  | nil => exact keeps
  | cons key keys ih =>
      intro entries entries' result sound
      unfold Toml.within at result
      split at result
      next => exact ih.put_back (·.table _) sound .nil result
      next origin inner found =>
        exact ih.put_back (·.table origin) sound (sound.atKey? found).of_table result
      next current before found =>
        exact ih.put_back (·.tables before) sound (sound.atKey? found).of_tables result
      next => cases result

theorem keeps_declareHere (section_ : Nat) (key : String) : Keeps (declareHere section_ key) := by
  intro entries entries' result sound
  unfold declareHere at result
  split at result
  next =>
    obtain rfl := Option.some.inj result
    exact sound.put key (Sound.nil.table _)
  next origin inner found =>
    split at result
    next => cases result
    next =>
      obtain rfl := Option.some.inj result
      exact sound.put key ((sound.atKey? found).of_table.table _)
  next => cases result

theorem keeps_appendHere (key : String) : Keeps (appendHere key) := by
  intro entries entries' result sound
  unfold appendHere at result
  split at result
  next =>
    obtain rfl := Option.some.inj result
    exact sound.put key (Sound.nil.tables _)
  next =>
    obtain rfl := Option.some.inj result
    exact sound.put key (Sound.nil.tables _)
  next => cases result

theorem Keeps.atLast {f : String → Entries → Option Entries} (keeps : ∀ key, Keeps (f key))
    (keys : List String) : Keeps (Toml.atLast f keys) := by
  intro entries entries' result sound
  unfold Toml.atLast at result
  split at result
  next => cases result
  next key _ => exact (keeps key).within _ _ _ result sound

theorem keeps_declare (section_ : Nat) (keys : List String) : Keeps (declare section_ keys) :=
  Keeps.atLast (keeps_declareHere section_) keys

theorem keeps_append (keys : List String) : Keeps (append keys) := Keeps.atLast keeps_appendHere keys

theorem keeps_set (section_ : Nat) {d : Datum} (written : Written d) (keys : List String) :
    Keeps (set section_ d keys) := by
  induction keys with
  | nil => exact fun _ _ result => nomatch result
  | cons key keys ih =>
      intro entries entries' result sound
      cases keys with
      | nil =>
          unfold set at result
          split at result
          next => cases result
          next =>
            obtain rfl := Option.some.inj result
            exact sound.put key (.value written)
      | cons next keys =>
          unfold set at result
          split at result
          next => exact ih.put_back (·.table _) sound .nil result
          next origin inner found =>
            split at result
            next => cases result
            next => exact ih.put_back (·.table _) sound (sound.atKey? found).of_table result
          next => cases result

/-! ## The finished value -/

theorem datumMembers_eq_map (entries : Entries) :
    datumMembers entries = entries.map fun e => (.text e.1, e.2.datum) := by
  induction entries with
  | nil => rfl
  | cons e entries ih => rw [datumMembers, ih, List.map_cons]

theorem tidy_datumMembers {entries : Entries} (distinct : (entries.map Prod.fst).Nodup) :
    Tidy (datumMembers entries) := by
  rw [datumMembers_eq_map]
  exact .of_texts distinct _

/-- A table is written if what stands at its keys is. -/
theorem written_mapping {entries : Entries} (distinct : (entries.map Prod.fst).Nodup)
    (each : ∀ e ∈ entries, Written e.2.datum) : Written (.mapping (datumMembers entries)) := by
  refine .mapping (tidy_datumMembers distinct) fun member here => ?_
  rw [datumMembers_eq_map] at here
  obtain ⟨e, he, rfl⟩ := List.mem_map.mp here
  exact each e he

/-- The value of a sound entry is written. -/
theorem Entry.Sound.written {e : Entry} (sound : e.Sound) : Written e.datum := by
  induction sound with
  | value written => exact written
  | table origin distinct _ ih => exact written_mapping distinct ih
  | tables before distinct _ ih => exact .leaf trivial nofun

/-- **The finished value is written**: no value is null, and its mappings are tidy. -/
theorem Sound.datumOf {entries : Entries} (sound : Sound entries) : Written (Toml.datumOf entries) :=
  written_mapping sound.distinct fun e he => (sound.each e he).written

end IntentSpec.Toml
