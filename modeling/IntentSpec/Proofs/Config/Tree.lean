import IntentSpec.Proofs.Config.Merge

/-!
# Merged configurations as trees

A mapping is a tree whose inner nodes are mappings and whose leaves are all other values; a path of keys leads
from the root to a node.  Merging is a law about these trees: at every path the node of the upper mapping
stands, and where it has none that of the lower one, unless a leaf of the upper mapping stands on the way and
so cuts off whatever the lower one has below it.

* `Datum.Nested` — mappings all of whose keys are texts, at every depth.
* `Datum.nodeAt` — the node at a path of keys.
* `Datum.Blocked` — a leaf stands on the way.
* `Datum.Nested.arrange?_idem` — sorted entries are left as they are by sorting.
* `nodeAt_overlayValue_iff` — the law for one value laid over another one, by induction on the path.
* `merge?_pathwise` — the law for merging, which does nothing when the upper mapping is empty or the same.
-/

namespace IntentSpec

namespace Datum

/-! ## Trees -/

/-- All mappings in a value have tidy entries, at every depth. -/
def Nested (d : Datum) : Prop := ∀ depth, d.Keyed depth

theorem Nested.tidy {entries : List (Datum × Datum)} (nested : (mapping entries).Nested) : Tidy entries :=
  (nested 1).1

theorem Nested.of_mem {entries : List (Datum × Datum)} (nested : (mapping entries).Nested)
    {e : Datum × Datum} (here : e ∈ entries) : e.2.Nested :=
  fun depth => (nested (depth + 1)).2 e here

theorem Nested.of_find? {d value : Datum} (nested : d.Nested) {key : String}
    (found : d.find? key = some value) : value.Nested := by
  cases d with
  | mapping entries => exact nested.of_mem (mem_of_lookup? found)
  | _ => cases found

theorem Nested.of_leaf {d : Datum} (leaf : d.IsLeaf) : d.Nested := Keyed.of_leaf leaf

/-- Texts that stand once are the keys of a nested mapping, if the values are nested. -/
theorem Nested.object {members : List (String × Datum)} (distinct : (members.map Prod.fst).Nodup)
    (each : ∀ m ∈ members, m.2.Nested) : (Datum.object members).Nested := by
  intro depth
  cases depth with
  | zero => exact trivial
  | succ depth =>
      refine ⟨Tidy.of_texts distinct Prod.snd, fun e here => ?_⟩
      obtain ⟨m, isMember, rfl⟩ := List.mem_map.mp here
      exact each m isMember depth

/-- A node of the tree that a value is. -/
inductive Node where
  /-- A value that is no mapping. -/
  | leaf (d : Datum)
  | mapping

/-- The node at the root of a value. -/
def node : Datum → Node
  | mapping _ => .mapping
  | d => .leaf d

/-- The node at a path of keys. -/
def nodeAt : List String → Datum → Option Node
  | [], d => some d.node
  | key :: path, d => (d.find? key).bind (nodeAt path)

/-- A path leads through a leaf: it goes on from a path at which one stands. -/
def Blocked (path : List String) (d : Datum) : Prop :=
  ∃ front, front <+: path ∧ front ≠ path ∧ ∃ leaf, nodeAt front d = some (.leaf leaf)

/-- Two values have the same node, or none, at every path. -/
def SameTree (d e : Datum) : Prop := ∀ path, nodeAt path d = nodeAt path e

theorem SameTree.blocked_iff {d e : Datum} (same : SameTree d e) (path : List String) :
    Blocked path d ↔ Blocked path e := by
  unfold Blocked
  simp only [same _]

theorem node_of_leaf {d : Datum} (leaf : d.IsLeaf) : d.node = .leaf d := by
  cases d with
  | mapping entries => exact leaf.elim
  | _ => rfl

theorem nodeAt_cons_mapping (key : String) (path : List String) (entries : List (Datum × Datum)) :
    nodeAt (key :: path) (mapping entries) = (lookup? key entries).bind (nodeAt path) := rfl

theorem blocked_cons_of_leaf {d : Datum} (leaf : d.IsLeaf) (key : String) (path : List String) :
    Blocked (key :: path) d :=
  ⟨[], List.nil_prefix, (List.cons_ne_nil key path).symm, d, congrArg some (node_of_leaf leaf)⟩

/-- What stands on the way in a mapping stands on the way in the value at the first key. -/
theorem blocked_cons_mapping_iff (key : String) (path : List String) (entries : List (Datum × Datum)) :
    Blocked (key :: path) (mapping entries) ↔ ∃ value, lookup? key entries = some value ∧ Blocked path value := by
  constructor
  · rintro ⟨front, before, other, leaf, there⟩
    cases front with
    | nil => cases there
    | cons first front =>
        obtain ⟨rfl, shorter⟩ := List.cons_prefix_cons.mp before
        obtain ⟨value, found, there⟩ := Option.bind_eq_some_iff.mp there
        exact ⟨value, found, front, shorter, fun same => other (same ▸ rfl), leaf, there⟩
  · rintro ⟨value, found, front, before, other, leaf, there⟩
    refine ⟨key :: front, List.cons_prefix_cons.mpr ⟨rfl, before⟩, mt List.tail_eq_of_cons_eq other, leaf, ?_⟩
    rw [nodeAt_cons_mapping, found, Option.bind_some, there]

theorem not_blocked_empty (path : List String) : ¬ Blocked path (mapping []) := by
  rintro ⟨front, -, -, leaf, there⟩
  cases front <;> cases there

/-! ## Sorting -/

mutual

/-- The keys of nested mappings can be sorted. -/
theorem exists_sortMappings? : ∀ (d : Datum), d.Nested → ∃ sorted, sortMappings? d = some sorted
  | .mapping entries, nested => by
      obtain ⟨values, sorts⟩ := exists_sortMappingValues? entries fun e => nested.of_mem
      have tidy : Tidy values := nested.tidy.of_keys (keys_eq_of_forall₂ (sortMappingValues?_forall₂ sorts))
      obtain ⟨sorted, orders⟩ : ∃ sorted, sortEntries? values = some sorted :=
        ⟨_, sortEntries?_of_texts tidy.texts⟩
      exact ⟨.mapping sorted, by simp [sortMappings?, sorts, orders]⟩
  | .null, _ | .bool _, _ | .int _, _ | .number _, _ | .text _, _ | .bytes _, _ | .moment _, _ | .list _, _
  | .tuple _, _ | .record _ _, _ => ⟨_, sortMappings?_of_leaf trivial⟩

theorem exists_sortMappingValues? : ∀ (entries : List (Datum × Datum)), (∀ e ∈ entries, e.2.Nested) →
    ∃ sorted, sortMappingValues? entries = some sorted
  | [], _ => ⟨[], rfl⟩
  | (key, value) :: entries, nested => by
      obtain ⟨first, sorts⟩ := exists_sortMappings? value (nested _ List.mem_cons_self)
      obtain ⟨rest, others⟩ :=
        exists_sortMappingValues? entries fun e here => nested e (List.mem_cons_of_mem _ here)
      exact ⟨(key, first) :: rest, by simp [sortMappingValues?, sorts, others]⟩

end

theorem Nested.exists_arrange? {entries : List (Datum × Datum)} (nested : (mapping entries).Nested) :
    ∃ sorted, arrange? entries = some sorted := by
  obtain ⟨d, sorts⟩ := exists_sortMappings? _ nested
  rw [sortMappings?_mapping, Option.map_eq_some_iff] at sorts
  obtain ⟨sorted, arranges, -⟩ := sorts
  exact ⟨sorted, arranges⟩

theorem Nested.of_sortMappings? {d sorted : Datum} (nested : d.Nested) (sorts : sortMappings? d = some sorted) :
    sorted.Nested :=
  fun depth => (nested depth).of_sortMappings? sorts

mutual

/-- What comes out of sorting is left as it is by sorting. -/
theorem sortMappings?_idem : ∀ (d : Datum), d.Nested → ∀ sorted, sortMappings? d = some sorted →
    sortMappings? sorted = some sorted
  | .mapping entries, nested, sorted, sorts => by
      have each := sortMappingValues?_idem entries fun e => nested.of_mem
      rw [sortMappings?_mapping, Option.map_eq_some_iff] at sorts
      obtain ⟨sorted, arranges, rfl⟩ := sorts
      obtain ⟨values, sortsValues, orders⟩ := Option.bind_eq_some_iff.mp arranges
      have keys := keys_eq_of_forall₂ (sortMappingValues?_forall₂ sortsValues)
      have ascending := ascending_of_sortEntries? (keys ▸ nested.tidy.texts) orders
      have arranged : arrange? sorted = some sorted := by
        refine (nested.tidy.of_arrange? arranges).arrange?_eq_self_iff.mpr ⟨ascending, fun e' here => ?_⟩
        obtain ⟨e, there, -, sortsValue⟩ := exists_of_mem_arrange? arranges here
        exact each e there e'.2 sortsValue
      rw [sortMappings?_mapping, arranged]
      rfl
  | .null, _, _, sorts | .bool _, _, _, sorts | .int _, _, _, sorts | .number _, _, _, sorts
  | .text _, _, _, sorts | .bytes _, _, _, sorts | .moment _, _, _, sorts | .list _, _, _, sorts
  | .tuple _, _, _, sorts | .record _ _, _, _, sorts => by
      obtain rfl := Option.some.inj sorts
      exact sorts

theorem sortMappingValues?_idem : ∀ (entries : List (Datum × Datum)), (∀ e ∈ entries, e.2.Nested) →
    ∀ e ∈ entries, ∀ sorted, sortMappings? e.2 = some sorted → sortMappings? sorted = some sorted
  | [], _, _, here => absurd here List.not_mem_nil
  | (key, value) :: entries, nested, e, here => by
      intro sorted sorts
      have first := sortMappings?_idem value (nested _ List.mem_cons_self)
      have rest := sortMappingValues?_idem entries fun e here => nested e (List.mem_cons_of_mem _ here)
      rcases List.mem_cons.mp here with rfl | later
      · exact first sorted sorts
      · exact rest e later sorted sorts

end

/-- **Sorting the keys of sorted entries changes nothing.** -/
theorem Nested.arrange?_idem {entries sorted : List (Datum × Datum)} (nested : (mapping entries).Nested)
    (arranges : arrange? entries = some sorted) : arrange? sorted = some sorted := by
  have sorts := sortMappings?_idem _ nested (.mapping sorted) (by rw [sortMappings?_mapping, arranges]; rfl)
  rw [sortMappings?_mapping, Option.map_eq_some_iff] at sorts
  obtain ⟨_, again, same⟩ := sorts
  rwa [Datum.mapping.inj same] at again

theorem node_of_sortMappings? {d sorted : Datum} (sorts : sortMappings? d = some sorted) :
    sorted.node = d.node := by
  cases d with
  | mapping entries =>
      rw [sortMappings?_mapping, Option.map_eq_some_iff] at sorts
      obtain ⟨entries', -, rfl⟩ := sorts
      rfl
  | _ => rw [← Option.some.inj sorts]

/-- Sorting the keys of mappings changes nothing about the tree. -/
theorem Nested.sameTree_of_sortMappings? {d sorted : Datum} (nested : d.Nested)
    (sorts : sortMappings? d = some sorted) : SameTree sorted d := by
  intro path
  induction path generalizing d sorted with
  | nil => exact congrArg some (node_of_sortMappings? sorts)
  | cons key path ih =>
      obtain ⟨found, absent⟩ := find?_of_sortMappings? (nested 1) sorts key
      unfold nodeAt
      cases there : d.find? key with
      | none => rw [absent.mpr there]
      | some value =>
          obtain ⟨value', sortsValue⟩ := exists_sortMappings? value (nested.of_find? there)
          rw [found, there, Option.bind_some, sortsValue, Option.bind_some, Option.bind_some]
          exact ih (nested.of_find? there) sortsValue

/-! ## Setting an entry -/

/-- Below the key that is set stands what it is set to, and all else is as it was. -/
theorem nodeAt_assign (key other : String) (value : Datum) (entries : List (Datum × Datum)) (path : List String) :
    nodeAt (other :: path) (mapping (assign (.text key) value entries)) =
      if key = other then nodeAt path value else nodeAt (other :: path) (mapping entries) := by
  rw [nodeAt_cons_mapping, lookup?_assign]
  split
  · rfl
  · rw [nodeAt_cons_mapping]

end Datum

namespace Config

open Datum

/-! ## The law for one value over another -/

theorem node_overlayValue (current : Option Datum) (d : Datum) : (overlayValue current d).node = d.node := by
  cases d with
  | mapping upper =>
      obtain ⟨entries, isMapping⟩ := exists_overlayValue_mapping current upper
      rw [isMapping]
      rfl
  | _ => rfl

theorem overlayValue_of_leaf {d : Datum} (leaf : d.IsLeaf) (current : Option Datum) :
    overlayValue current d = d := by
  cases d with
  | mapping upper => exact leaf.elim
  | _ => rfl

/-- Anything but a mapping has no node below its root. -/
theorem bind_nodeAt_cons_of_not_mapping {current : Option Datum}
    (other : ∀ lower, current ≠ some (.mapping lower)) (key : String) (path : List String) :
    current.bind (nodeAt (key :: path)) = none := by
  cases current with
  | none => rfl
  | some c =>
      cases c with
      | mapping lower => exact absurd rfl (other lower)
      | _ => rfl

/-- **The node of the upper value stands, and where it has none that of the lower one, unless a leaf of the
upper value is on the way.** -/
theorem nodeAt_overlayValue_iff {d : Datum} (nested : d.Nested) (current : Option Datum) (path : List String)
    (node : Datum.Node) :
    nodeAt path (overlayValue current d) = some node ↔
      nodeAt path d = some node ∨
        current.bind (nodeAt path) = some node ∧ nodeAt path d = none ∧ ¬ Blocked path d := by
  induction path generalizing d current with
  | nil =>
      have root : nodeAt [] (overlayValue current d) = nodeAt [] d := congrArg some (node_overlayValue current d)
      have there : nodeAt [] d ≠ none := Option.some_ne_none _
      rw [root]
      exact ⟨.inl, fun either => either.resolve_right fun lower => there lower.2.1⟩
  | cons key path ih =>
      by_cases leaf : d.IsLeaf
      · rw [overlayValue_of_leaf leaf]
        exact ⟨.inl, fun either => either.resolve_right fun lower => lower.2.2 (blocked_cons_of_leaf leaf key path)⟩
      cases d with
      | mapping upper =>
          by_cases other : ∀ lower, current ≠ some (.mapping lower)
          · rw [overlayValue_of_not_mapping other, bind_nodeAt_cons_of_not_mapping other]
            simp
          obtain ⟨lower, rfl⟩ := not_forall_not.mp other
          rw [overlayValue_mapping, Option.bind_some, nodeAt_cons_mapping, nodeAt_cons_mapping,
            nodeAt_cons_mapping, lookup?_overlay nested.tidy, blocked_cons_mapping_iff]
          -- Below the first key both sides speak of what the upper mapping has there.
          cases found : lookup? key upper with
          | none => simp
          | some value =>
              have below := ih (nested.of_mem (mem_of_lookup? found)) (lookup? key lower)
              simpa using below
      | _ => exact absurd trivial leaf

/-! ## The law for merging -/

section Merged

variable {base upper : List (Datum × Datum)} (lower : (Datum.mapping base).Nested)
  (above : (Datum.mapping upper).Nested)
include lower above

/-- Nested mappings are merged, and the result is one. -/
theorem exists_merge? : ∃ merged, merge? base upper = some merged ∧ (Datum.mapping merged).Nested := by
  obtain ⟨lower', arrangesLower⟩ := lower.exists_arrange?
  obtain ⟨raised, arrangesOver⟩ := above.exists_arrange?
  obtain ⟨lowerValues, sortsLower, ordersLower⟩ := Option.bind_eq_some_iff.mp arrangesLower
  obtain ⟨overValues, sortsOver, ordersOver⟩ := Option.bind_eq_some_iff.mp arrangesOver
  have merges : merge? base upper = some (overlay lower' raised) := by
    simp [merge?, sortsLower, ordersLower, sortsOver, ordersOver]
  refine ⟨_, merges, fun depth => ?_⟩
  cases depth with
  | zero => exact trivial
  | succ depth => exact merge?_keyed merges (lower (depth + 1)) (above (depth + 1))

/-- The law for merging: sorting the keys first does nothing to the trees. -/
theorem nodeAt_merge?_iff {merged : List (Datum × Datum)} (merges : merge? base upper = some merged)
    (path : List String) (node : Datum.Node) :
    nodeAt path (.mapping merged) = some node ↔
      nodeAt path (.mapping upper) = some node ∨
        nodeAt path (.mapping base) = some node ∧ nodeAt path (.mapping upper) = none ∧
          ¬ Blocked path (.mapping upper) := by
  obtain ⟨lower', raised, arrangesLower, arrangesOver, rfl⟩ := merge?_eq_some_iff merges
  have sortsLower : sortMappings? (.mapping base) = some (.mapping lower') := by
    rw [sortMappings?_mapping, arrangesLower]
    rfl
  have sortsOver : sortMappings? (.mapping upper) = some (.mapping raised) := by
    rw [sortMappings?_mapping, arrangesOver]
    rfl
  have sameOver := above.sameTree_of_sortMappings? sortsOver
  rw [← overlayValue_mapping, nodeAt_overlayValue_iff (above.of_sortMappings? sortsOver), Option.bind_some,
    lower.sameTree_of_sortMappings? sortsLower path, sameOver path, sameOver.blocked_iff path]

end Merged

/-- **Merging is a law about paths.**  Nested mappings are merged.  At a path the result has the leaf, or the
mapping, that the upper one has there; or that which the lower one has there, if the upper one has nothing
there and no leaf on the way.  So the tree stays what it is when nothing is laid over it, and when it is laid
over itself. -/
theorem merge?_pathwise {base upper : List (Datum × Datum)} (lower : (Datum.mapping base).Nested)
    (above : (Datum.mapping upper).Nested) :
    (∃ merged, merge? base upper = some merged ∧ (Datum.mapping merged).Nested ∧ ∀ path node,
      nodeAt path (.mapping merged) = some node ↔
        nodeAt path (.mapping upper) = some node ∨
          nodeAt path (.mapping base) = some node ∧ nodeAt path (.mapping upper) = none ∧
            ¬ Blocked path (.mapping upper)) ∧
      (∃ same, merge? base [] = some same ∧ (Datum.mapping same).Nested ∧
        SameTree (.mapping same) (.mapping base)) ∧
      ∃ same, merge? base base = some same ∧ (Datum.mapping same).Nested ∧
        SameTree (.mapping same) (.mapping base) := by
  have empty : (Datum.mapping []).Nested := show (Datum.object []).Nested from .object List.nodup_nil (by simp)
  refine ⟨?_, ?_, ?_⟩
  · obtain ⟨merged, merges, nested⟩ := exists_merge? lower above
    exact ⟨merged, merges, nested, nodeAt_merge?_iff lower above merges⟩
  · obtain ⟨same, merges, nested⟩ := exists_merge? lower empty
    refine ⟨same, merges, nested, fun path => Option.ext fun node => ?_⟩
    rw [nodeAt_merge?_iff lower empty merges]
    cases path with
    | nil => simp [nodeAt, Datum.node]
    | cons key path => simp [nodeAt_cons_mapping, lookup?_nil, not_blocked_empty]
  · obtain ⟨same, merges, nested⟩ := exists_merge? lower lower
    refine ⟨same, merges, nested, fun path => Option.ext fun node => ?_⟩
    rw [nodeAt_merge?_iff lower lower merges]
    exact ⟨fun either => either.elim id And.left, .inl⟩

/-- A section with a mapping in it. -/
def deepLayer : List (Datum × Datum) :=
  [(.text "paths", .object [("runs_dir", .text "runs"), ("archive", .object [("keep", .int 3)])])]

/-- The same section with a leaf for the mapping. -/
def flatLayer : List (Datum × Datum) := [(.text "paths", .object [("archive", .text "off")])]

/-- A leaf takes the place of a mapping with all that it holds; what stands beside it stays. -/
theorem merge?_pathwise_flatLayer :
    (Datum.mapping deepLayer).Nested ∧ (Datum.mapping flatLayer).Nested ∧
      ∃ merged, merge? deepLayer flatLayer = some merged ∧
        nodeAt ["paths", "archive"] (.mapping merged) = some (.leaf (.text "off")) ∧
        nodeAt ["paths", "archive", "keep"] (.mapping merged) = none ∧
        nodeAt ["paths", "runs_dir"] (.mapping merged) = some (.leaf (.text "runs")) := by
  have single {key : String} {d : Datum} (nested : d.Nested) : (Datum.object [(key, d)]).Nested :=
    .object (List.nodup_singleton key) (List.forall_mem_singleton.mpr nested)
  have inner : (Datum.object [("runs_dir", .text "runs"), ("archive", .object [("keep", .int 3)])]).Nested :=
    .object (by decide) (List.forall_mem_cons.mpr
      ⟨.of_leaf trivial, List.forall_mem_singleton.mpr (single (.of_leaf trivial))⟩)
  have deep : (Datum.mapping deepLayer).Nested := show (Datum.object [("paths", _)]).Nested from single inner
  have flat : (Datum.mapping flatLayer).Nested :=
    show (Datum.object [("paths", .object [("archive", .text "off")])]).Nested from
      single (single (.of_leaf trivial))
  obtain ⟨⟨merged, merges, -, law⟩, -⟩ := merge?_pathwise deep flat
  refine ⟨deep, flat, merged, merges, (law _ _).mpr (.inl rfl), ?_, (law _ _).mpr (.inr ⟨rfl, rfl, ?_⟩)⟩
  · refine Option.eq_none_iff_forall_ne_some.mpr fun node there => ?_
    rcases (law _ node).mp there with above | ⟨-, -, clear⟩
    · cases above
    · exact clear ⟨["paths", "archive"], by decide, by decide, _, rfl⟩
  · rw [blocked_cons_mapping_iff]
    rintro ⟨value, found, blocked⟩
    obtain rfl := Option.some.inj found
    obtain ⟨value, found, -⟩ := (blocked_cons_mapping_iff _ _ _).mp blocked
    cases found

end Config

end IntentSpec
