import IntentSpec.Document.Table
import Mathlib.Data.List.Induction

/-!
# What the operations of a table do

Two views determine a table: the list of its names (`Table.names`) and the entry of each name
(`Table.find?`).  Every operation is described here by what it does to them.

Names are only ever appended, and only once (`enlist`).  So a table that is filled one entry after
another has the names of the entries without repetitions, in the order of their first occurrences
(`foldl_enlist_nil`), whatever happens to the entries under these names in between.

Putting an entry under a known name replaces what stands there and keeps its place; registering keeps
what stands there.  This is the difference between a section, whose text is the one that was read last,
and an intent, which is the one that was declared first.  A change to an entry commutes with putting it
(`adjust_put`), which lets the attributes of a block be applied before the block is put.
-/

namespace IntentSpec.Document

/-! ## Lists without repetitions -/

/-- Appends a name, unless the list has it. This is what registering an entry and putting one both
do to the names of a table. -/
def enlist (names : List String) (name : String) : List String :=
  if name ∈ names then names else names ++ [name]

theorem notMem_of_nodup_append {α : Type} {front back : List α} {a : α}
    (distinct : (front ++ a :: back).Nodup) : a ∉ front := fun here =>
  (List.nodup_append.mp distinct).2.2 a here a List.mem_cons_self rfl

theorem mem_foldl_enlist (added names : List String) (name : String) :
    name ∈ added.foldl enlist names ↔ name ∈ names ∨ name ∈ added := by
  induction added generalizing names with
  | nil => simp
  | cons first added ih =>
      rw [List.foldl_cons, ih, List.mem_cons, ← or_assoc]
      refine or_congr_left ?_
      unfold enlist
      split
      next known =>
        refine ⟨Or.inl, ?_⟩
        rintro (old | rfl)
        · exact old
        · exact known
      next => rw [List.mem_append, List.mem_singleton]

/-- Enlisting one name after another keeps the first occurrence of each. -/
theorem foldl_enlist_nil (added : List String) : added.foldl enlist [] = added.eraseDups := by
  induction added using List.reverseRecOn with
  | nil => rfl
  | append_singleton added name ih =>
      have listed : name ∈ added.foldl enlist [] ↔ name ∈ added := by
        simp [mem_foldl_enlist]
      rw [List.foldl_append, List.foldl_cons, List.foldl_nil, List.eraseDups_append, enlist]
      by_cases known : name ∈ added
      · rw [if_pos (listed.mpr known), ih]
        simp [known, List.removeAll]
      · rw [if_neg fun h => known (listed.mp h), ih]
        simp [known, List.removeAll, List.eraseDups_cons]

/-! ## Tables -/

namespace Table

variable {α : Type} [Named α]

theorem ext_entries {t t' : Table α} (same : t.entries = t'.entries) : t = t' := by
  cases t
  cases t'
  simpa using same

theorem contains_iff (t : Table α) (name : String) : t.contains name = true ↔ name ∈ t.names := by
  simp [contains]

theorem names_register (t : Table α) (a : α) :
    (t.register a).names = enlist t.names (Named.name a) := by
  unfold register enlist
  by_cases known : t.contains (Named.name a) = true
  · rw [dif_pos known, if_pos ((contains_iff t _).mp known)]
  · rw [dif_neg known, if_neg fun h => known ((contains_iff t _).mpr h)]
    simp [names]

theorem names_adjust (t : Table α) (name : String) (change : α → α)
    (keeps : ∀ a, Named.name (change a) = Named.name a) :
    (t.adjust name change keeps).names = t.names := by
  unfold names adjust
  rw [List.map_map]
  refine List.map_congr_left fun a _ => ?_
  simp only [Function.comp_apply]
  split
  · exact keeps a
  · rfl

theorem entries_adjust (t : Table α) (name : String) (change : α → α)
    (keeps : ∀ a, Named.name (change a) = Named.name a) :
    (t.adjust name change keeps).entries =
      t.entries.map fun a => if Named.name a = name then change a else a :=
  rfl

/-- A change to the entry of a name that no entry has. -/
theorem map_change_of_notMem {t : Table α} {name : String} (change : α → α)
    (new : name ∉ t.names) :
    t.entries.map (fun a => if Named.name a = name then change a else a) = t.entries := by
  have same : ∀ a ∈ t.entries, (if Named.name a = name then change a else a) = a := by
    intro a ha
    rw [if_neg]
    rintro rfl
    exact new (List.mem_map_of_mem ha)
  calc t.entries.map (fun a => if Named.name a = name then change a else a)
      = t.entries.map id := List.map_congr_left same
    _ = t.entries := List.map_id _

theorem entries_put_of_mem {t : Table α} {a : α} (known : Named.name a ∈ t.names) :
    (t.put a).entries = t.entries.map fun b => if Named.name b = Named.name a then a else b := by
  unfold put
  rw [dif_pos ((contains_iff t _).mpr known)]

theorem entries_put_of_notMem {t : Table α} {a : α} (new : Named.name a ∉ t.names) :
    (t.put a).entries = t.entries ++ [a] := by
  unfold put
  rw [dif_neg fun h => new ((contains_iff t _).mp h)]

theorem entries_register_of_notMem {t : Table α} {a : α} (new : Named.name a ∉ t.names) :
    (t.register a).entries = t.entries ++ [a] := by
  unfold register
  rw [dif_neg fun h => new ((contains_iff t _).mp h)]

theorem names_put (t : Table α) (a : α) : (t.put a).names = enlist t.names (Named.name a) := by
  unfold enlist
  by_cases known : Named.name a ∈ t.names
  · rw [if_pos known, names, entries_put_of_mem known, List.map_map]
    refine List.map_congr_left fun b _ => ?_
    simp only [Function.comp_apply]
    split
    next same => exact same.symm
    next => rfl
  · rw [if_neg known, names, entries_put_of_notMem known, List.map_append]
    rfl

theorem find?_eq_none {t : Table α} {name : String} (new : name ∉ t.names) :
    t.find? name = none := by
  refine List.find?_eq_none.mpr fun b hb same => new ?_
  rw [← eq_of_beq same]
  exact List.mem_map_of_mem hb

/-- Under each name of a table stands an entry, and it has that name. -/
theorem exists_find? {t : Table α} {name : String} (known : name ∈ t.names) :
    ∃ a, t.find? name = some a ∧ Named.name a = name := by
  obtain ⟨a, here, named⟩ := List.mem_map.mp known
  have there : (t.find? name).isSome = true :=
    List.find?_isSome.mpr ⟨a, here, beq_iff_eq.mpr named⟩
  obtain ⟨b, found⟩ := Option.isSome_iff_exists.mp there
  exact ⟨b, found, by simpa using List.find?_some found⟩

/-- What stands under a name is changed where it stands. -/
theorem find?_adjust (t : Table α) (name : String) (change : α → α)
    (keeps : ∀ a, Named.name (change a) = Named.name a) :
    (t.adjust name change keeps).find? name = (t.find? name).map change := by
  have same : ((fun b => Named.name b == name) ∘ fun a =>
      if Named.name a = name then change a else a) = fun b => Named.name b == name := by
    funext b
    by_cases here : Named.name b = name <;> simp [here, keeps]
  unfold find?
  rw [entries_adjust, List.find?_map, same]
  cases found : t.entries.find? fun b => Named.name b == name with
  | none => rfl
  | some b =>
      have named : Named.name b = name := by
        simpa using List.find?_some found
      rw [Option.map_some, Option.map_some, if_pos named]

theorem find?_put (t : Table α) (a : α) (name : String) :
    (t.put a).find? name = if Named.name a = name then some a else t.find? name := by
  by_cases known : Named.name a ∈ t.names
  · unfold find?
    rw [entries_put_of_mem known, List.find?_map]
    by_cases same : Named.name a = name
    · -- the entry of the name stands somewhere, and there it is replaced
      subst same
      obtain ⟨b, hb, named⟩ := List.mem_map.mp known
      have replaced : ((fun b => Named.name b == Named.name a) ∘ fun b =>
          if Named.name b = Named.name a then a else b) = fun b => Named.name b == Named.name a := by
        funext b
        by_cases here : Named.name b = Named.name a <;> simp [here]
      rw [if_pos rfl, replaced]
      cases found : t.entries.find? fun b => Named.name b == Named.name a with
      | none => exact absurd (beq_iff_eq.mpr named) (List.find?_eq_none.mp found b hb)
      | some c =>
          have named' : Named.name c = Named.name a := by
            simpa using List.find?_some found
          simp [named']
    · have kept : ((fun b => Named.name b == name) ∘ fun b =>
          if Named.name b = Named.name a then a else b) = fun b => Named.name b == name := by
        funext b
        by_cases here : Named.name b = Named.name a <;> simp [here]
      rw [if_neg same, kept]
      cases found : t.entries.find? fun b => Named.name b == name with
      | none => rfl
      | some c =>
          have named : Named.name c = name := by
            simpa using List.find?_some found
          simp [named, Ne.symm same]
  · unfold find?
    rw [entries_put_of_notMem known, List.find?_append]
    by_cases same : Named.name a = name
    · subst same
      have absent := find?_eq_none known
      unfold find? at absent
      simp [absent]
    · simp [same, beq_false_of_ne same]

/-- What is put under a name and then changed could have been changed before. -/
theorem adjust_put (t : Table α) (a : α) (change : α → α)
    (keeps : ∀ a, Named.name (change a) = Named.name a) :
    (t.put a).adjust (Named.name a) change keeps = t.put (change a) := by
  refine ext_entries ?_
  rw [entries_adjust]
  by_cases known : Named.name a ∈ t.names
  · have known' : Named.name (change a) ∈ t.names := (keeps a).symm ▸ known
    rw [entries_put_of_mem known, entries_put_of_mem known', List.map_map, keeps]
    refine List.map_congr_left fun b _ => ?_
    by_cases here : Named.name b = Named.name a <;> simp [here]
  · have new' : Named.name (change a) ∉ t.names := (keeps a).symm ▸ known
    rw [entries_put_of_notMem known, entries_put_of_notMem new', List.map_append,
      map_change_of_notMem change known]
    simp

end Table

end IntentSpec.Document
