import IntentSpec.Failure.Graph
import Mathlib.Data.Finset.Card
import Mathlib.Data.Finset.Range
import Mathlib.Logic.Relation

/-!
# The chain of what led to a failure

From a failure the chain goes on to its cause, or to its context where no cause is given and the context is
not hidden.  It may run in a circle, so the loop that follows it keeps what it has seen.  Every round sees
one more of the failures of the graph, which is why the loop ends; and it ends where everything is seen that
the chain comes to, which is why a circle cuts nothing off.

* `FailureGraph.Next` — one step of the chain.
* `FailureGraph.Follows` — the loop, run to its end.
* `FailureGraph.exists_follows` — the loop ends, within as many rounds as there are failures.
* `FailureGraph.mem_causes_iff` — it meets exactly what the chain comes to.
-/

namespace IntentSpec.FailureGraph

variable {g : FailureGraph}

/-! ## Steps -/

variable (g) in
/-- The chain goes on from one position to another. -/
inductive Next : Nat → Nat → Prop where
  /-- A cause that is given is what comes next. -/
  | cause {i j : Nat} {f : Failure} (is : g[i]? = some f) (given : f.cause = some j) : Next i j
  /-- Where no cause is given, a context that is not hidden comes next. -/
  | context {i j : Nat} {f : Failure} (is : g[i]? = some f) (uncaused : f.cause = none)
    (shown : f.contextHidden = false) (arose : f.context = some j) : Next i j

theorem next_iff {i j : Nat} : Next g i j ↔ ∃ f, g[i]? = some f ∧ shownLink f = some j := by
  constructor
  · rintro (⟨is, given⟩ | ⟨is, uncaused, shown, arose⟩)
    · exact ⟨_, is, by simp [shownLink, given]⟩
    · exact ⟨_, is, by simp [shownLink, uncaused, shown, arose]⟩
  · rintro ⟨f, is, link⟩
    unfold shownLink at link
    cases cause : f.cause with
    | some k =>
        rw [cause] at link
        exact .cause is (cause.trans link)
    | none =>
        rw [cause, Option.orElse_none] at link
        split at link
        · cases link
        next shown => exact .context is cause (Bool.eq_false_of_not_eq_true shown) link

variable (g) in
/-- The failure is on the chain from the first one on, the first one included. -/
def OnChain (f : Failure) : Prop := ∃ i, Relation.ReflTransGen (Next g) 0 i ∧ g[i]? = some f

/-! ## The loop -/

variable (g) in
/-- The loop, from what has been seen and the position that comes next, if any does, to its end, with the
positions that it meets. -/
inductive Follows : List Nat → Option Nat → List Nat → Prop where
  | ended (seen : List Nat) : Follows seen none []
  /-- What comes next has been seen, or there is no failure there. -/
  | known {seen : List Nat} {i : Nat} (known : i ∈ seen ∨ g.length ≤ i) : Follows seen (some i) []
  /-- What comes next is met, and the chain goes on from it. -/
  | met {seen later : List Nat} {i : Nat} {f : Failure} (fresh : i ∉ seen) (is : g[i]? = some f)
    (rest : Follows (i :: seen) (shownLink f) later) : Follows seen (some i) (i :: later)

theorem Follows.unique {seen met met' : List Nat} {next : Option Nat} (follows : Follows g seen next met)
    (follows' : Follows g seen next met') : met = met' := by
  induction follows generalizing met' with
  | ended => cases follows'; rfl
  | known known =>
      cases follows' with
      | known => rfl
      | met fresh is _ =>
          obtain ⟨inside, -⟩ := List.getElem?_eq_some_iff.mp is
          exact absurd known (by simp [fresh, inside])
  | met fresh is _ ih =>
      cases follows' with
      | known known =>
          obtain ⟨inside, -⟩ := List.getElem?_eq_some_iff.mp is
          exact absurd known (by simp [fresh, inside])
      | met _ is' rest =>
          obtain rfl := Option.some.inj (is.symm.trans is')
          rw [ih rest]

variable (g) in
/-- The positions that have not been seen. -/
def unseen (seen : List Nat) : Finset Nat := Finset.range g.length \ seen.toFinset

theorem card_unseen_cons {seen : List Nat} {i : Nat} (fresh : i ∉ seen) (inside : i < g.length) :
    (unseen g (i :: seen)).card + 1 = (unseen g seen).card := by
  unfold unseen
  rw [List.toFinset_cons, Finset.sdiff_insert]
  exact Finset.card_erase_add_one (by simp [inside, fresh])

/-- With more rounds than there are unseen positions, the bounded loop is the loop. -/
theorem follows_chain (fuel : Nat) (seen : List Nat) (i : Nat) (enough : (unseen g seen).card < fuel) :
    ∃ met, Follows g seen (some i) met ∧ chain g fuel seen i = met.filterMap (g[·]?) := by
  induction fuel generalizing seen i with
  | zero => exact absurd enough (Nat.not_lt_zero _)
  | succ fuel ih =>
      rw [chain]
      split
      next here => exact ⟨[], .known (.inl (by simpa using here)), rfl⟩
      next fresh =>
        replace fresh : i ∉ seen := by simpa using fresh
        cases is : g[i]? with
        | none => exact ⟨[], .known (.inr (List.getElem?_eq_none_iff.mp is)), rfl⟩
        | some f =>
            obtain ⟨inside, -⟩ := List.getElem?_eq_some_iff.mp is
            have fewer := card_unseen_cons fresh inside
            dsimp only
            cases link : shownLink f with
            | none => exact ⟨[i], .met fresh is (link ▸ .ended _), by simp [is]⟩
            | some j =>
                obtain ⟨met, follows, same⟩ := ih (i :: seen) j (by omega)
                exact ⟨i :: met, .met fresh is (link ▸ follows), by simp [is, same]⟩

/-! ## What the loop meets -/

theorem Follows.fresh {seen met : List Nat} {next : Option Nat} (follows : Follows g seen next met) :
    met.Nodup ∧ ∀ j ∈ met, j ∉ seen ∧ j < g.length := by
  induction follows with
  | ended => simp
  | known => simp
  | met unseen is _ ih =>
      obtain ⟨distinct, apart⟩ := ih
      refine ⟨List.nodup_cons.mpr ⟨fun again => (apart _ again).1 List.mem_cons_self, distinct⟩, ?_⟩
      intro j here
      rcases List.mem_cons.mp here with rfl | later
      · exact ⟨unseen, (List.getElem?_eq_some_iff.mp is).1⟩
      · obtain ⟨other, inside⟩ := apart j later
        exact ⟨fun before => other (List.mem_cons_of_mem _ before), inside⟩

/-- The loop makes no more rounds than there are failures. -/
theorem Follows.length_le {seen met : List Nat} {next : Option Nat} (follows : Follows g seen next met) :
    met.length ≤ g.length := by
  obtain ⟨distinct, apart⟩ := follows.fresh
  have inside : met ⊆ List.range g.length := fun j here => List.mem_range.mpr (apart j here).2
  simpa using (List.subperm_of_subset distinct inside).length_le

theorem Follows.reachable {seen met : List Nat} {next : Option Nat} (follows : Follows g seen next met) :
    ∀ j ∈ met, ∃ i ∈ next, Relation.ReflTransGen (Next g) i j := by
  induction follows with
  | ended => simp
  | known => simp
  | @met seen later i f _ is _ ih =>
      intro j here
      rcases List.mem_cons.mp here with rfl | later
      · exact ⟨j, rfl, .refl⟩
      · obtain ⟨k, link, leads⟩ := ih j later
        exact ⟨i, rfl, .head (next_iff.mpr ⟨f, is, link⟩) leads⟩

/-- What comes next is met unless it was seen, and so is whatever the chain goes on to from what is met. -/
theorem Follows.closed {seen met : List Nat} {next : Option Nat} (follows : Follows g seen next met) :
    (∀ i ∈ next, i < g.length → i ∈ seen ∨ i ∈ met) ∧
      ∀ i ∈ met, ∀ j, Next g i j → j < g.length → j ∈ seen ∨ j ∈ met := by
  induction follows with
  | ended => simp
  | @known seen i known =>
      refine ⟨fun k here inside => .inl ?_, by simp⟩
      obtain rfl : i = k := by simpa using here
      exact known.resolve_right (Nat.not_le.mpr inside)
  | @met seen later i f _ is _ ih =>
      obtain ⟨first, onward⟩ := ih
      -- having been seen by then means to be `i` or to have been seen before
      have shift : ∀ k, k ∈ i :: seen ∨ k ∈ later → k ∈ seen ∨ k ∈ i :: later := by
        intro k
        simp only [List.mem_cons]
        tauto
      refine ⟨fun k here _ => .inr ?_, fun k here j next inside => shift j ?_⟩
      · obtain rfl : i = k := by simpa using here
        exact List.mem_cons_self
      · rcases List.mem_cons.mp here with rfl | later
        · obtain ⟨f', is', link⟩ := next_iff.mp next
          obtain rfl := Option.some.inj (is.symm.trans is')
          exact first j link inside
        · exact onward k later j next inside

theorem Follows.mem_iff {met : List Nat} (follows : Follows g [] (some 0) met) (j : Nat) :
    j ∈ met ↔ j < g.length ∧ Relation.ReflTransGen (Next g) 0 j := by
  constructor
  · intro here
    obtain ⟨i, start, leads⟩ := follows.reachable j here
    obtain rfl : 0 = i := by simpa using start
    exact ⟨(follows.fresh.2 j here).2, leads⟩
  · rintro ⟨inside, leads⟩
    obtain ⟨first, onward⟩ := follows.closed
    induction leads with
    | refl => exact (first 0 rfl inside).resolve_left List.not_mem_nil
    | @tail i j _ next ih =>
        obtain ⟨f, is, -⟩ := next_iff.mp next
        have before := ih (List.getElem?_eq_some_iff.mp is).1
        exact (onward i before j next inside).resolve_left List.not_mem_nil

/-- **The loop ends**, and the failures that it meets are the causes, each met once. What it has met
only grows, and there are finitely many failures. -/
theorem exists_follows (g : FailureGraph) : ∃ met, Follows g [] (some 0) met ∧ met.Nodup ∧
    met.length ≤ g.length ∧ g.causes = met.filterMap (g[·]?) := by
  obtain ⟨met, follows, same⟩ := follows_chain (g := g) (g.length + 1) [] 0 (by simp [unseen])
  exact ⟨met, follows, follows.fresh.1, follows.length_le, same⟩

/-- **The causes are what is on the chain**, however it runs in circles. The chain is said without
the loop, by what led to what. -/
theorem mem_causes_iff (g : FailureGraph) (f : Failure) : f ∈ g.causes ↔ OnChain g f := by
  obtain ⟨met, follows, -, -, same⟩ := exists_follows g
  rw [same, List.mem_filterMap]
  constructor
  · rintro ⟨i, here, is⟩
    exact ⟨i, ((follows.mem_iff i).mp here).2, is⟩
  · rintro ⟨i, leads, is⟩
    exact ⟨i, (follows.mem_iff i).mpr ⟨(List.getElem?_eq_some_iff.mp is).1, leads⟩, is⟩

end IntentSpec.FailureGraph
