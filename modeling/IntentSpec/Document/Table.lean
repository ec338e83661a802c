/-!
# Tables of named entries

The artifacts of one kind are kept in the order in which they were declared, and no two have the same
name.  The distinctness of the names is part of the type, so looking up a name is unambiguous.

## Main definitions

* `Named` — entries with a name.
* `Table` — entries in declaration order with distinct names.
* `Table.register` — adds an entry unless its name is taken.
* `Table.put` — adds an entry, or replaces the one of its name where it stands.
* `Table.adjust` — changes the entry of a name.
-/

namespace IntentSpec.Document

/-- A kind of entry that carries its own name. -/
class Named (α : Type) where
  name : α → String

/-- Entries in declaration order, with distinct names. The proof that they are distinct is a field,
so no operation can leave a table without it. -/
structure Table (α : Type) [Named α] where
  entries : List α
  /-- No two entries share a name. -/
  nodup : (entries.map Named.name).Nodup

namespace Table

variable {α : Type} [Named α]

/-- The table without entries. -/
def empty : Table α := ⟨[], by simp⟩

instance : Inhabited (Table α) := ⟨empty⟩

instance : EmptyCollection (Table α) := ⟨empty⟩

/-- The names, in declaration order. -/
def names (t : Table α) : List String := t.entries.map Named.name

/-- Whether an entry has the name. -/
def contains (t : Table α) (name : String) : Bool := t.names.contains name

/-- The entry of a name. -/
def find? (t : Table α) (name : String) : Option α := t.entries.find? fun a => Named.name a == name

theorem nodup_append_of_not_contains (t : Table α) (a : α) (h : ¬ t.contains (Named.name a)) :
    ((t.entries ++ [a]).map Named.name).Nodup := by
  have h' : Named.name a ∉ t.entries.map Named.name := by
    simpa [contains, names] using h
  rw [List.map_append, List.nodup_append]
  refine ⟨t.nodup, by simp, ?_⟩
  intro x hx y hy
  simp only [List.map_cons, List.map_nil, List.mem_singleton] at hy
  subst hy
  exact fun e => h' (e ▸ hx)

/-- Adds an entry at the end, unless its name is taken. -/
def register (t : Table α) (a : α) : Table α :=
  if h : t.contains (Named.name a) then t
  else ⟨t.entries ++ [a], t.nodup_append_of_not_contains a h⟩

/-- Applies a change that keeps names to the entry of a name. -/
def adjust (t : Table α) (name : String) (change : α → α)
    (keeps : ∀ a, Named.name (change a) = Named.name a) : Table α where
  entries := t.entries.map fun a => if Named.name a = name then change a else a
  nodup := by
    have e : (t.entries.map fun a => if Named.name a = name then change a else a).map Named.name =
        t.entries.map Named.name := by
      rw [List.map_map]
      apply List.map_congr_left
      intro a _
      simp only [Function.comp]
      split
      · exact keeps a
      · rfl
    rw [e]
    exact t.nodup

/-- Adds an entry at the end, or replaces the entry of its name where it stands. -/
def put (t : Table α) (a : α) : Table α :=
  if h : t.contains (Named.name a) then
    { entries := t.entries.map fun b => if Named.name b = Named.name a then a else b
      nodup := by
        have e : (t.entries.map fun b => if Named.name b = Named.name a then a else b).map
            Named.name = t.entries.map Named.name := by
          rw [List.map_map]
          apply List.map_congr_left
          intro b _
          simp only [Function.comp]
          split
          · next hb => exact hb.symm
          · rfl
        rw [e]
        exact t.nodup }
  else ⟨t.entries ++ [a], t.nodup_append_of_not_contains a h⟩

/-- The table of a list; of several entries of one name the last counts, at the place of the first. -/
def ofList (l : List α) : Table α := l.foldl put empty

end Table

end IntentSpec.Document
