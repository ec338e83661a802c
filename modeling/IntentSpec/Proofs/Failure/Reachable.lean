import IntentSpec.Failure.Graph
import Mathlib.Algebra.BigOperators.Group.Finset.Basic
import Mathlib.Data.Finset.Range
import Mathlib.Logic.Relation

/-!
# The failures that led to one

The traversal of a graph of failures keeps a list of the positions that it has seen and a queue of those
that are pending, and it makes a bounded number of visits.  The bound is enough: it is the number of
pending positions together with the links of the failures that have not been seen (`work`), and every
visit takes one off.  So the traversal ends with an empty queue, and it is the loop without a bound
(`Walks`), of which every further fact is shown.  What the loop has met is closed under links
(`Walks.closed`).

* `FailureGraph.Leads` — a failure leads to another one over any number of links.
* `FailureGraph.Walks`, `FailureGraph.walks_iff` — the loop, and that it ends, with the positions that the
  traversal meets.
* `FailureGraph.mem_reachable_iff` — the traversal meets exactly the failures that the first one leads
  to, however they are shared and whatever circles they form.
-/

namespace IntentSpec.FailureGraph

variable (g : FailureGraph)

/-- The failure at a position leads to the one at another position, over any number of links. -/
def Leads : Nat → Nat → Prop := Relation.ReflTransGen fun i j => j ∈ linksOf g i

/-- The failure is among those that the first one leads to, itself included. -/
def Involves (f : Failure) : Prop := ∃ i, Leads g 0 i ∧ g[i]? = some f

/-! ## The visits that are left -/

/-- The links of the failures that have not been seen. -/
def unseenLinks (seen : List Nat) : Nat :=
  ∑ i ∈ Finset.range g.length \ seen.toFinset, (linksOf g i).length

/-- The most visits that are left. -/
def work (seen pending : List Nat) : Nat := pending.length + unseenLinks g seen

theorem linksOf_zero (f : Failure) : linksOf (f :: g) 0 = f.links := rfl

theorem linksOf_succ (f : Failure) (i : Nat) : linksOf (f :: g) (i + 1) = linksOf g i := rfl

theorem linksOf_of_length_le {i : Nat} (outside : g.length ≤ i) : linksOf g i = [] := by
  unfold linksOf
  rw [List.getElem?_eq_none outside]
  rfl

/-- Seeing a failure takes its links off. -/
theorem unseenLinks_cons {i : Nat} {seen : List Nat} (inside : i < g.length) (fresh : i ∉ seen) :
    unseenLinks g (i :: seen) + (linksOf g i).length = unseenLinks g seen := by
  unfold unseenLinks
  rw [List.toFinset_cons, Finset.sdiff_insert, Nat.add_comm]
  exact Finset.add_sum_erase _ (fun i => (linksOf g i).length) (by simp [inside, fresh])

theorem unseenLinks_nil : unseenLinks g [] = (g.flatMap Failure.links).length := by
  unfold unseenLinks
  rw [List.toFinset_nil, Finset.sdiff_empty]
  induction g with
  | nil => rfl
  | cons f g ih =>
      rw [List.length_cons, Finset.sum_range_succ']
      simp only [linksOf_succ, linksOf_zero]
      rw [ih, List.flatMap_cons, List.length_append, Nat.add_comm]

/-- The number of visits is enough at the start. -/
theorem work_start : work g [] [0] = visits g := by
  unfold work visits
  rw [unseenLinks_nil, List.length_singleton]

/-! ## The loop -/

/-- The loop, from what has been seen and what is pending until nothing is pending any more, with the
positions that it meets. -/
inductive Walks (g : FailureGraph) : List Nat → List Nat → List Nat → Prop where
  | done (seen : List Nat) : Walks g seen [] []
  /-- The first pending position has been seen, or there is no failure there. -/
  | skip {seen pending met : List Nat} {i : Nat} (known : i ∈ seen ∨ g.length ≤ i)
    (rest : Walks g seen pending met) : Walks g seen (i :: pending) met
  /-- The first pending position is met, and the links of the failure there become pending. -/
  | visit {seen pending met : List Nat} {i : Nat} (fresh : i ∉ seen) (inside : i < g.length)
    (rest : Walks g (i :: seen) (pending ++ linksOf g i) met) : Walks g seen (i :: pending) (i :: met)

variable {g}

theorem Walks.unique {seen pending met met' : List Nat} (walks : Walks g seen pending met)
    (walks' : Walks g seen pending met') : met = met' := by
  induction walks generalizing met' with
  | done => cases walks'; rfl
  | skip known _ ih =>
      cases walks' with
      | skip _ rest => exact ih rest
      | visit fresh inside _ => exact absurd known (by simp [fresh, inside])
  | visit fresh inside _ ih =>
      cases walks' with
      | skip known _ => exact absurd known (by simp [fresh, inside])
      | visit _ _ rest => rw [ih rest]

/-- With enough visits the traversal is the loop. -/
theorem walks_traverse (fuel : Nat) (seen pending : List Nat) (enough : work g seen pending ≤ fuel) :
    Walks g seen pending (traverse g fuel seen pending) := by
  induction fuel generalizing seen pending with
  | zero =>
      obtain rfl : pending = [] := by
        unfold work at enough
        exact List.eq_nil_of_length_eq_zero (by omega)
      exact .done seen
  | succ fuel ih =>
      cases pending with
      | nil => exact .done seen
      | cons i pending =>
          rw [traverse]
          unfold work at enough
          rw [List.length_cons] at enough
          split
          next skipped => exact .skip (by simpa using skipped) (ih _ _ (by unfold work; omega))
          next visited =>
            obtain ⟨fresh, inside⟩ : i ∉ seen ∧ i < g.length := by simpa using visited
            have left := unseenLinks_cons g inside fresh
            exact .visit fresh inside (ih _ _ (by unfold work; rw [List.length_append]; omega))

theorem walks_reachablePositions : Walks g [] [0] (reachablePositions g) :=
  walks_traverse _ _ _ (work_start g).le

/-- **The loop ends**, and it has met the positions that the traversal gives. The loop is a relation
here, and it relates a graph to one list of positions only. -/
theorem walks_iff (met : List Nat) : Walks g [] [0] met ↔ met = reachablePositions g := by
  constructor
  · intro walks
    exact walks.unique walks_reachablePositions
  · rintro rfl
    exact walks_reachablePositions

/-! ## What the loop meets -/

/-- What the loop meets are positions of the graph that have not been seen. -/
theorem Walks.fresh {seen pending met : List Nat} (walks : Walks g seen pending met) :
    ∀ j ∈ met, j < g.length ∧ j ∉ seen := by
  induction walks with
  | done => simp
  | skip _ _ ih => exact ih
  | visit unseen inside _ ih =>
      intro j here
      rcases List.mem_cons.mp here with rfl | later
      · exact ⟨inside, unseen⟩
      · obtain ⟨within, apart⟩ := ih j later
        exact ⟨within, fun before => apart (List.mem_cons_of_mem _ before)⟩

/-- A pending position leads to what is met. -/
theorem Walks.sound {seen pending met : List Nat} (walks : Walks g seen pending met) :
    ∀ j ∈ met, ∃ i ∈ pending, Leads g i j := by
  induction walks with
  | done => simp
  | skip _ _ ih =>
      intro j here
      obtain ⟨i, waiting, leads⟩ := ih j here
      exact ⟨i, List.mem_cons_of_mem _ waiting, leads⟩
  | @visit _ _ _ i _ _ _ ih =>
      intro j here
      rcases List.mem_cons.mp here with rfl | later
      · exact ⟨j, List.mem_cons_self, Relation.ReflTransGen.refl⟩
      · obtain ⟨k, waiting, leads⟩ := ih j later
        rcases List.mem_append.mp waiting with waiting | link
        · exact ⟨k, List.mem_cons_of_mem _ waiting, leads⟩
        · exact ⟨i, List.mem_cons_self, Relation.ReflTransGen.head link leads⟩

/-- Every pending position of the graph is met unless it was seen, and so is every link of what is met. -/
theorem Walks.closed {seen pending met : List Nat} (walks : Walks g seen pending met) :
    (∀ i ∈ pending, i < g.length → i ∈ seen ∨ i ∈ met) ∧
      ∀ i ∈ met, ∀ j ∈ linksOf g i, j < g.length → j ∈ seen ∨ j ∈ met := by
  induction walks with
  | done => simp
  | skip known _ ih =>
      obtain ⟨waits, links⟩ := ih
      refine ⟨fun k waiting inside => ?_, links⟩
      rcases List.mem_cons.mp waiting with rfl | waiting
      · exact .inl (known.resolve_right (Nat.not_le.mpr inside))
      · exact waits k waiting inside
  | @visit seen pending met i _ _ _ ih =>
      obtain ⟨waits, links⟩ := ih
      -- Having been seen by then means to be `i` or to have been seen before.
      have shift : ∀ k, k ∈ i :: seen ∨ k ∈ met → k ∈ seen ∨ k ∈ i :: met := by
        intro k
        simp only [List.mem_cons]
        tauto
      constructor
      · intro k waiting inside
        rcases List.mem_cons.mp waiting with rfl | waiting
        · exact .inr List.mem_cons_self
        · exact shift k (waits k (List.mem_append_left _ waiting) inside)
      · intro k here j link within
        rcases List.mem_cons.mp here with rfl | later
        · exact shift j (waits j (List.mem_append_right _ link) within)
        · exact shift j (links k later j link within)

/-! ## What the traversal meets -/

variable (g)

/-- **What the traversal meets.**  A position of the graph is met exactly if the first failure leads to
it. -/
theorem mem_reachablePositions_iff {j : Nat} (inside : j < g.length) :
    j ∈ reachablePositions g ↔ Leads g 0 j := by
  constructor
  · intro met
    obtain ⟨i, start, leads⟩ := walks_reachablePositions.sound j met
    obtain rfl := List.mem_singleton.mp start
    exact leads
  · intro leads
    obtain ⟨starts, closed⟩ := (walks_reachablePositions (g := g)).closed
    induction leads with
    | refl => simpa using starts 0 (List.mem_singleton_self 0) inside
    | @tail i j _ link ih =>
        -- A position that has links is one of the graph.
        have within : i < g.length := by
          by_contra outside
          rw [linksOf_of_length_le g (Nat.le_of_not_lt outside)] at link
          exact absurd link (by simp)
        simpa using closed i (ih within) j link inside

/-- The positions that are met are those of the graph that the first one leads to. -/
theorem mem_reachablePositions_iff_leads (j : Nat) : j ∈ reachablePositions g ↔ j < g.length ∧ Leads g 0 j := by
  constructor
  · intro met
    have inside := ((walks_reachablePositions (g := g)).fresh j met).1
    exact ⟨inside, (mem_reachablePositions_iff g inside).mp met⟩
  · rintro ⟨inside, leads⟩
    exact (mem_reachablePositions_iff g inside).mpr leads

theorem mem_reachable_iff (f : Failure) : f ∈ reachable g ↔ Involves g f := by
  unfold reachable Involves
  rw [List.mem_filterMap]
  refine exists_congr fun i => and_congr_left fun here => ?_
  exact mem_reachablePositions_iff g (List.getElem?_eq_some_iff.mp here).1

end IntentSpec.FailureGraph
