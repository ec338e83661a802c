import IntentSpec.Proofs.Json.Alike

/-!
# What holds at every depth of a JSON value

Several conditions on a value speak of all its parts: its numbers are finite, as they are in whatever can be
read back; no object has two members of one key, as in every object that a program holds; the keys of every
object increase, as in a sorted value; its integers are short enough to be written.  They are cases of one
condition (`Throughout`) on the integers, on the numbers and on the keys of the objects of a value, so that
what sorting and rearranging do to a value has to be followed through its parts only once.

* `Throughout.sortKeys`, `Throughout.rearranged` — what arranging the members of objects keeps.
* `rearranged_sortKeys` — sorting a value permutes the members of its objects and does nothing else.
* `sortKeys_sortKeys` — a sorted value is not changed by sorting it again.
* `Arrangement` — a way to permute the members of objects: leaving them, or sorting them.
-/

namespace IntentSpec.Json

/-- Every integer and every number in a value, and the keys of every object in it, satisfy a condition. -/
inductive Throughout (onInteger : Int → Prop) (onNumber : Binary64 → Prop)
    (onKeys : List String → Prop) : Json → Prop
  | null : Throughout onInteger onNumber onKeys .null
  | bool (b : Bool) : Throughout onInteger onNumber onKeys (.bool b)
  | int {n : Int} (holds : onInteger n) : Throughout onInteger onNumber onKeys (.int n)
  | number {x : Binary64} (holds : onNumber x) : Throughout onInteger onNumber onKeys (.number x)
  | text (s : String) : Throughout onInteger onNumber onKeys (.text s)
  | array {items : List Json} (each : ∀ v ∈ items, Throughout onInteger onNumber onKeys v) :
      Throughout onInteger onNumber onKeys (.array items)
  /-- The condition on keys is one on the list of them, in the order of the members. -/
  | object {members : List (String × Json)} (holds : onKeys (members.map Prod.fst))
      (each : ∀ m ∈ members, Throughout onInteger onNumber onKeys m.2) :
      Throughout onInteger onNumber onKeys (.object members)

/-- All numbers in the value are finite. -/
def Finite (v : Json) : Prop := v.Throughout (fun _ => True) (·.isFinite = true) fun _ => True

/-- No object in the value has two members of one key. -/
def DistinctKeys (v : Json) : Prop := v.Throughout (fun _ => True) (fun _ => True) List.Nodup

/-- The keys of every object in the value are strictly increasing by code point. -/
def IncreasingKeys (v : Json) : Prop :=
  v.Throughout (fun _ => True) (fun _ => True) (List.Pairwise (· < ·))

section Throughout

variable {onInteger : Int → Prop} {onNumber : Binary64 → Prop} {onKeys onKeys' : List String → Prop}

theorem throughout_array_iff (items : List Json) :
    (array items).Throughout onInteger onNumber onKeys ↔ ∀ v ∈ items, v.Throughout onInteger onNumber onKeys :=
  ⟨fun | .array each => each, .array⟩

theorem throughout_object_iff (members : List (String × Json)) :
    (object members).Throughout onInteger onNumber onKeys ↔
      onKeys (members.map Prod.fst) ∧ ∀ m ∈ members, m.2.Throughout onInteger onNumber onKeys :=
  ⟨fun | .object holds each => ⟨holds, each⟩, fun ⟨holds, each⟩ => .object holds each⟩

theorem throughout_texts (l : List String) : (texts l).Throughout onInteger onNumber onKeys := by
  refine (throughout_array_iff _).mpr fun v here => ?_
  obtain ⟨s, -, rfl⟩ := List.mem_map.mp here
  exact .text s

/-! ## Sorting -/

/-- The keys of a sorted object are the sorted keys of the object. -/
theorem map_fst_sortBy (members : List (String × Json)) :
    (sortBy (fun a b => textLe a.1 b.1) members).map Prod.fst = sortTexts (members.map Prod.fst) :=
  map_sortBy Prod.fst (fun _ _ => rfl) members

/-- **Sorting keeps the numbers of a value and sorts the keys of its objects.** -/
theorem Throughout.sortKeys (sorted : ∀ keys, onKeys keys → onKeys' (sortTexts keys)) {v : Json}
    (h : v.Throughout onInteger onNumber onKeys) : v.sortKeys.Throughout onInteger onNumber onKeys' := by
  induction h with
  | null => exact .null
  | bool b => exact .bool b
  | int holds => exact .int holds
  | number holds => exact .number holds
  | text s => exact .text s
  | array _ ih =>
      rw [sortKeys_array]
      refine .array fun v here => ?_
      obtain ⟨item, inside, rfl⟩ := List.mem_map.mp here
      exact ih item inside
  | object holds _ ih =>
      rw [sortKeys_object]
      refine .object ?_ fun m here => ?_
      · rw [map_fst_sortBy, List.map_map]
        exact sorted _ holds
      · obtain ⟨member, inside, rfl⟩ := List.mem_map.mp ((sortBy_perm _).mem_iff.mp here)
        exact ih member inside

/-- **Rearranging keeps whatever does not depend on the order of keys.** -/
theorem Throughout.rearranged (permuted : ∀ keys keys' : List String, keys.Perm keys' → onKeys keys → onKeys keys')
    {v w : Json} (h : v.Throughout onInteger onNumber onKeys) (rearranged : Rearranged v w) :
    w.Throughout onInteger onNumber onKeys := by
  induction rearranged with
  | refl v => exact h
  | trans _ _ ihuv ihvw => exact ihvw (ihuv h)
  | item front back _ ih =>
      obtain ⟨before, here, after⟩ :=
        List.forall_mem_append.mp ((throughout_array_iff _).mp h) |>.imp id List.forall_mem_cons.mp
      exact .array (List.forall_mem_append.mpr ⟨before, List.forall_mem_cons.mpr ⟨ih here, after⟩⟩)
  | value key front back _ ih =>
      obtain ⟨keys, each⟩ := (throughout_object_iff _).mp h
      obtain ⟨before, here, after⟩ := List.forall_mem_append.mp each |>.imp id List.forall_mem_cons.mp
      refine .object ?_
        (List.forall_mem_append.mpr ⟨before, List.forall_mem_cons.mpr ⟨ih here, after⟩⟩)
      rwa [List.map_append, List.map_cons] at keys ⊢
  | members _ perm =>
      obtain ⟨keys, each⟩ := (throughout_object_iff _).mp h
      exact .object (permuted _ _ (perm.map Prod.fst) keys) fun m here => each m (perm.mem_iff.mpr here)

end Throughout

theorem Finite.sortKeys {v : Json} (finite : v.Finite) : v.sortKeys.Finite :=
  Throughout.sortKeys (fun _ _ => trivial) finite

/-- **The keys of a sorted value increase** if no two of an object are the same. -/
theorem DistinctKeys.sortKeys {v : Json} (distinct : v.DistinctKeys) : v.sortKeys.IncreasingKeys :=
  Throughout.sortKeys (fun _ => pairwise_lt_sortTexts) distinct

theorem Rearranged.items {items items' : List Json} (each : List.Forall₂ Rearranged items items') :
    Rearranged (.array items) (.array items') := by
  have behind : ∀ front : List Json, Rearranged (.array (front ++ items)) (.array (front ++ items')) := by
    induction each with
    | nil => exact fun front => .refl _
    | @cons v w items items' first _ ih =>
        intro front
        have rest := ih (front ++ [w])
        rw [List.append_assoc, List.append_assoc] at rest
        exact (Rearranged.item front items first).trans rest
  exact behind []

theorem Rearranged.values {members members' : List (String × Json)}
    (each : List.Forall₂ (fun m m' => m'.1 = m.1 ∧ Rearranged m.2 m'.2) members members') :
    Rearranged (.object members) (.object members') := by
  have behind : ∀ front : List (String × Json),
      Rearranged (.object (front ++ members)) (.object (front ++ members')) := by
    induction each with
    | nil => exact fun front => .refl _
    | @cons m m' members members' first _ ih =>
        intro front
        obtain ⟨key, value⟩ := m
        obtain ⟨key', value'⟩ := m'
        obtain ⟨rfl, first⟩ : key' = key ∧ Rearranged value value' := first
        have rest := ih (front ++ [(key', value')])
        rw [List.append_assoc, List.append_assoc] at rest
        exact (Rearranged.value key' front members first).trans rest
  exact behind []

/-- **Sorting permutes the members of objects and does nothing else.** -/
theorem rearranged_sortKeys {v : Json} (distinct : v.DistinctKeys) : Rearranged v v.sortKeys := by
  induction distinct with
  | array _ ih =>
      rw [sortKeys_array]
      refine .items ?_
      rw [List.forall₂_map_right_iff]
      exact List.forall₂_same.mpr ih
  | @object members holds _ ih =>
      rw [sortKeys_object]
      have values : Rearranged (.object members) (.object (members.map fun m => (m.1, m.2.sortKeys))) := by
        refine .values ?_
        rw [List.forall₂_map_right_iff]
        exact List.forall₂_same.mpr fun m here => ⟨rfl, ih m here⟩
      refine values.trans (.members ?_ (sortBy_perm _).symm)
      rw [List.map_map]
      exact holds
  | _ => exact .refl _

/-! ## Ways to arrange a value -/

/-- A way to permute the members of the objects in a value, which leaves texts and the order of arrays
as they are. -/
structure Arrangement where
  value : Json → Json
  /-- The arranged members of an object. -/
  members : List (String × Json) → List (String × Json)
  /-- Texts are left as they are. -/
  value_text : ∀ s, value (.text s) = .text s
  /-- The items of an array are arranged in their places. -/
  value_array : ∀ items, value (.array items) = .array (items.map value)
  /-- An object is arranged by its members. -/
  value_object : ∀ ms, value (.object ms) = .object (members ms)
  /-- The members are arranged one by one and permuted. -/
  members_perm : ∀ ms, (members ms).Perm (ms.map fun m => (m.1, value m.2))
  finite : ∀ {v}, v.Finite → (value v).Finite

/-- Everything is left in its place. -/
def Arrangement.asIs : Arrangement where
  value v := v
  members ms := ms
  value_text _ := rfl
  value_array items := by rw [List.map_id']
  value_object _ := rfl
  members_perm ms := by
    rw [show (fun m : String × Json => (m.1, m.2)) = id from rfl, List.map_id]
  finite := id

/-- The members of all objects are sorted. -/
def Arrangement.sorted : Arrangement where
  value := sortKeys
  members ms := sortBy (fun a b => textLe a.1 b.1) (ms.map fun m => (m.1, m.2.sortKeys))
  value_text := sortKeys_text
  value_array := sortKeys_array
  value_object := sortKeys_object
  members_perm _ := sortBy_perm _
  finite := Finite.sortKeys

end IntentSpec.Json
