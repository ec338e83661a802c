import IntentSpec.Proofs.Failure.Reachable
import Mathlib.Data.List.Shortlex

/-!
# The order in which failures are met

The traversal is studied here as the loop that it is (`Walks`), without a bound on its visits.  A
failure is reached from the first one on ways, each of which says at every step which of the links is
taken.  Ways are compared by their lengths, and those of one length by the links that they take where
they part.  The queue holds the failures in the order of the ways on which they were put there, and the
first way to whatever has not been seen begins with one of these (`Queued`).  Hence the failures are met
in the order of the first ways to them, which is what breadth first means.

* `FailureGraph.arrive?` — where a way leads.
* `FailureGraph.Earlier` — the order of the first ways.
* `FailureGraph.pairwise_reachablePositions` — these are met in the order of the first ways.
-/

namespace IntentSpec.FailureGraph

open List (Shortlex)

variable {g : FailureGraph}

/-! ## Ways -/

theorem shortlex_append {p q r s : List Nat} (less : Shortlex (· < ·) p q) (even : r.length = s.length) :
    Shortlex (· < ·) (p ++ r) (q ++ s) := by
  rcases List.shortlex_def.mp less with shorter | ⟨same, lex⟩
  · exact .of_length_lt (by simp only [List.length_append]; omega)
  · refine .of_lex (by simp only [List.length_append]; omega) ?_
    clear less
    induction lex with
    | nil => cases same
    | cons _ ih => exact .cons (ih (by simpa using same))
    | rel smaller => exact .rel smaller

theorem shortlex_append_singleton (p : List Nat) (k : Nat) : Shortlex (· < ·) p (p ++ [k]) :=
  .of_length_lt (by simp)

theorem shortlex_trans {p q r : List Nat} (pq : Shortlex (· < ·) p q) (qr : Shortlex (· < ·) q r) :
    Shortlex (· < ·) p r := by
  rw [List.shortlex_def] at pq qr ⊢
  rcases pq with shorter | ⟨same, below⟩
  · exact .inl (by omega)
  · rcases qr with shorter | ⟨same', below'⟩
    · exact .inl (by omega)
    · exact .inr ⟨same.trans same', List.lt_trans below below'⟩

theorem not_shortlex_self (p : List Nat) : ¬ Shortlex (· < ·) p p := fun less =>
  Std.Asymm.asymm _ _ less less

theorem eq_or_shortlex_of_not {p q : List Nat} (not : ¬ Shortlex (· < ·) q p) :
    p = q ∨ Shortlex (· < ·) p q := by
  by_contra neither
  rw [not_or] at neither
  exact neither.1 (Std.Trichotomous.trichotomous _ _ neither.2 not)

theorem eq_or_shortlex_of_front {p q : List Nat} (front : p <+: q) : p = q ∨ Shortlex (· < ·) p q := by
  obtain ⟨rest, rfl⟩ := front
  cases rest with
  | nil => exact .inl (List.append_nil p).symm
  | cons k rest => exact .inr (.of_length_lt (by simp))

variable (g) in
/-- Where a way leads from the first failure on, if it takes links that are there. -/
def arrive? (way : List Nat) : Option Nat := way.foldlM (fun i k => (linksOf g i)[k]?) 0

theorem arrive?_append (way rest : List Nat) :
    arrive? g (way ++ rest) = (arrive? g way).bind fun i => rest.foldlM (fun i k => (linksOf g i)[k]?) i :=
  List.foldlM_append

theorem arrive?_concat (way : List Nat) (k : Nat) :
    arrive? g (way ++ [k]) = (arrive? g way).bind fun i => (linksOf g i)[k]? := by
  rw [arrive?_append]
  simp

/-- The failures that the first one leads to are those to which there is a way. -/
theorem leads_iff_exists_way (j : Nat) : Leads g 0 j ↔ ∃ way, arrive? g way = some j := by
  constructor
  · intro leads
    induction leads with
    | refl => exact ⟨[], rfl⟩
    | tail _ link ih =>
        obtain ⟨way, arrives⟩ := ih
        obtain ⟨k, taken⟩ := List.getElem?_of_mem link
        exact ⟨way ++ [k], by rw [arrive?_concat, arrives, Option.bind_some, taken]⟩
  · rintro ⟨way, arrives⟩
    induction way using List.reverseRecOn generalizing j with
    | nil =>
        obtain rfl := Option.some.inj arrives
        exact Relation.ReflTransGen.refl
    | append_singleton way k ih =>
        rw [arrive?_concat, Option.bind_eq_some_iff] at arrives
        obtain ⟨i, before, taken⟩ := arrives
        exact (ih i before).tail (List.mem_of_getElem? taken)

variable (g) in
/-- The way is the first one to a position. -/
def FirstWay (way : List Nat) (j : Nat) : Prop :=
  arrive? g way = some j ∧ ∀ other, arrive? g other = some j → ¬ Shortlex (· < ·) other way

theorem exists_firstWay {way : List Nat} {j : Nat} (arrives : arrive? g way = some j) :
    ∃ first, FirstWay g first j ∧ (first = way ∨ Shortlex (· < ·) first way) := by
  have wellFounded : WellFounded (Shortlex fun a b : Nat => a < b) := Shortlex.wf Nat.lt_wfRel.wf
  obtain ⟨first, isFirst, least⟩ := wellFounded.has_min {way | arrive? g way = some j} ⟨way, arrives⟩
  exact ⟨first, ⟨isFirst, least⟩, eq_or_shortlex_of_not (least way arrives)⟩

/-- On the first way to a position every position is reached on the first way to it. -/
theorem FirstWay.front {way rest : List Nat} {j : Nat} (first : FirstWay g (way ++ rest) j) :
    ∃ i, FirstWay g way i := by
  obtain ⟨arrives, least⟩ := first
  rw [arrive?_append, Option.bind_eq_some_iff] at arrives
  obtain ⟨i, before, after⟩ := arrives
  refine ⟨i, before, fun other arrivesOther less => least (other ++ rest) ?_ (shortlex_append less rfl)⟩
  rw [arrive?_append, arrivesOther, Option.bind_some, after]

variable (g) in
/-- One position comes before another one: on some way to it one is there before on any way to the
other. -/
def Earlier (i j : Nat) : Prop :=
  ∃ way, arrive? g way = some i ∧ ∀ other, arrive? g other = some j → Shortlex (· < ·) way other

theorem Earlier.asymm {i j : Nat} (earlier : Earlier g i j) : ¬ Earlier g j i := by
  rintro ⟨other, arrivesOther, later⟩
  obtain ⟨way, arrives, sooner⟩ := earlier
  exact not_shortlex_self way (shortlex_trans (sooner other arrivesOther) (later way arrives))

theorem Earlier.ne {i j : Nat} (earlier : Earlier g i j) : i ≠ j := by
  rintro rfl
  exact earlier.asymm earlier

/-! ## The queue -/

variable (g) in
/-- The queue as the loop finds it, with the ways on which the pending positions were put there. -/
structure Queued (seen : List Nat) (queue : List (List Nat × Nat)) : Prop where
  /-- The ways lead to what is pending. -/
  arrives : ∀ e ∈ queue, arrive? g e.1 = some e.2
  /-- The ways stand in their order. -/
  sorted : queue.Pairwise fun e e' => Shortlex (· < ·) e.1 e'.1
  /-- No way comes after what another one is continued to. -/
  narrow : ∀ e ∈ queue, ∀ e' ∈ queue, ∀ k, Shortlex (· < ·) e.1 (e'.1 ++ [k])
  /-- Whatever has been seen was reached on a way before these. -/
  behind : ∀ i ∈ seen, ∃ way, arrive? g way = some i ∧ ∀ e ∈ queue, Shortlex (· < ·) way e.1
  /-- The first way to whatever has not been seen begins with one of them. -/
  ahead : ∀ way j, FirstWay g way j → j < g.length → j ∉ seen → ∃ e ∈ queue, e.1 <+: way

theorem queued_start : Queued g [] [([], 0)] where
  arrives e here := by
    obtain rfl := List.mem_singleton.mp here
    rfl
  sorted := List.pairwise_singleton _ _
  narrow e here e' here' k := by
    obtain rfl := List.mem_singleton.mp here
    obtain rfl := List.mem_singleton.mp here'
    exact shortlex_append_singleton [] k
  behind i here := by cases here
  ahead way _ _ _ _ := ⟨_, List.mem_singleton_self _, List.nil_prefix⟩

/-- Where there is no failure no way leads on. -/
theorem arrive?_append_of_length_le {way rest : List Nat} {i j : Nat} (arrives : arrive? g way = some i)
    (outside : g.length ≤ i) (goesOn : arrive? g (way ++ rest) = some j) : j = i := by
  rw [arrive?_append, arrives, Option.bind_some] at goesOn
  cases rest with
  | nil => exact (Option.some.inj goesOn).symm
  | cons k rest => simp [linksOf_of_length_le g outside] at goesOn

theorem Queued.skip {seen way : List Nat} {i : Nat} {queue : List (List Nat × Nat)}
    (queued : Queued g seen ((way, i) :: queue)) (known : i ∈ seen ∨ g.length ≤ i) : Queued g seen queue where
  arrives e here := queued.arrives e (List.mem_cons_of_mem _ here)
  sorted := (List.pairwise_cons.mp queued.sorted).2
  narrow e here e' here' := queued.narrow e (List.mem_cons_of_mem _ here) e' (List.mem_cons_of_mem _ here')
  behind j seenBefore := by
    obtain ⟨before, arrives, sooner⟩ := queued.behind j seenBefore
    exact ⟨before, arrives, fun e here => sooner e (List.mem_cons_of_mem _ here)⟩
  ahead := by
    intro first j isFirst inside fresh
    obtain ⟨e, here, front⟩ := queued.ahead first j isFirst inside fresh
    rcases List.mem_cons.mp here with rfl | later
    · exfalso
      have arrives : arrive? g way = some i := queued.arrives _ List.mem_cons_self
      obtain ⟨rest, rfl⟩ := front
      rcases known with seenBefore | outside
      -- It was reached before on another way, so the first way to anything behind it is not this one.
      · obtain ⟨i', isFirst'⟩ := isFirst.front
        obtain rfl := Option.some.inj (arrives.symm.trans isFirst'.1)
        obtain ⟨before, arrivesBefore, sooner⟩ := queued.behind i seenBefore
        exact isFirst'.2 before arrivesBefore (sooner _ List.mem_cons_self)
      · obtain rfl := arrive?_append_of_length_le arrives outside isFirst.1
        omega
    · exact ⟨e, later, front⟩

variable (g) in
/-- The links of a failure, with the ways to them. -/
def onward (way : List Nat) (i : Nat) : List (List Nat × Nat) :=
  (linksOf g i).mapIdx fun k j => (way ++ [k], j)

theorem map_onward (way : List Nat) (i : Nat) : (onward g way i).map Prod.snd = linksOf g i := by
  refine List.ext_getElem (by simp [onward]) fun k _ _ => ?_
  simp [onward]

theorem mem_onward_iff {way : List Nat} {i : Nat} {e : List Nat × Nat} :
    e ∈ onward g way i ↔ ∃ k, (linksOf g i)[k]? = some e.2 ∧ e.1 = way ++ [k] := by
  unfold onward
  rw [List.mem_mapIdx]
  constructor
  · rintro ⟨k, inside, rfl⟩
    exact ⟨k, List.getElem?_eq_getElem inside, rfl⟩
  · rintro ⟨k, taken, same⟩
    obtain ⟨inside, is⟩ := List.getElem?_eq_some_iff.mp taken
    exact ⟨k, inside, Prod.ext same.symm is⟩

theorem pairwise_onward (way : List Nat) (i : Nat) :
    (onward g way i).Pairwise fun e e' => Shortlex (· < ·) e.1 e'.1 := by
  unfold onward
  rw [List.pairwise_iff_getElem]
  intro a b inside inside' less
  simpa using Shortlex.append_left ((List.shortlex_singleton_iff a b).mpr less) way

theorem shortlex_of_mem_onward {way : List Nat} {i : Nat} {e : List Nat × Nat} (here : e ∈ onward g way i) :
    Shortlex (· < ·) way e.1 := by
  obtain ⟨k, -, same⟩ := mem_onward_iff.mp here
  rw [same]
  exact shortlex_append_singleton way k

/-- A way that goes on behind a position goes on over one of its links. -/
theorem exists_mem_onward {way rest : List Nat} {i j : Nat} (arrives : arrive? g way = some i)
    (goesOn : arrive? g (way ++ rest) = some j) (other : j ≠ i) : ∃ e ∈ onward g way i, e.1 <+: way ++ rest := by
  rw [arrive?_append, arrives, Option.bind_some] at goesOn
  cases rest with
  | nil => exact absurd (Option.some.inj goesOn).symm other
  | cons k rest =>
      rw [List.foldlM_cons, Option.bind_eq_bind, Option.bind_eq_some_iff] at goesOn
      obtain ⟨next, taken, -⟩ := goesOn
      refine ⟨(way ++ [k], next), mem_onward_iff.mpr ⟨k, taken, rfl⟩, rest, ?_⟩
      rw [List.append_assoc, List.singleton_append]

theorem Queued.visit {seen way : List Nat} {i : Nat} {queue : List (List Nat × Nat)}
    (queued : Queued g seen ((way, i) :: queue)) : Queued g (i :: seen) (queue ++ onward g way i) := by
  have arrives : arrive? g way = some i := queued.arrives _ List.mem_cons_self
  obtain ⟨first, sorted⟩ := List.pairwise_cons.mp queued.sorted
  have narrow {e e'} (here : e ∈ queue) (here' : e' ∈ (way, i) :: queue) (k : Nat) :
      Shortlex (· < ·) e.1 (e'.1 ++ [k]) :=
    queued.narrow e (List.mem_cons_of_mem _ here) e' here' k
  refine ⟨?arrives, ?sorted, ?narrow, ?behind, ?ahead⟩
  case arrives =>
    intro e here
    rcases List.mem_append.mp here with old | new
    · exact queued.arrives e (List.mem_cons_of_mem _ old)
    · obtain ⟨k, taken, same⟩ := mem_onward_iff.mp new
      rw [same, arrive?_concat, arrives, Option.bind_some, taken]
  case sorted =>
    refine List.pairwise_append.mpr ⟨sorted, pairwise_onward way i, fun e old e' new => ?_⟩
    obtain ⟨k, -, same⟩ := mem_onward_iff.mp new
    rw [same]
    exact narrow old List.mem_cons_self k
  case narrow =>
    intro e here e' here' k
    rcases List.mem_append.mp here with old | new
    · rcases List.mem_append.mp here' with old' | new'
      · exact narrow old (List.mem_cons_of_mem _ old') k
      · obtain ⟨k', -, same'⟩ := mem_onward_iff.mp new'
        rw [same']
        exact (narrow old List.mem_cons_self k').append_right [k]
    · obtain ⟨a, -, same⟩ := mem_onward_iff.mp new
      rw [same]
      rcases List.mem_append.mp here' with old' | new'
      · exact shortlex_append (first e' old') rfl
      · obtain ⟨b, -, same'⟩ := mem_onward_iff.mp new'
        rw [same']
        exact .of_length_lt (by simp)
  case behind =>
    -- The position that is met is reached on the way in front of all others.
    have sooner : ∀ e ∈ queue ++ onward g way i, Shortlex (· < ·) way e.1 := by
      intro e here
      rcases List.mem_append.mp here with old | new
      · exact first e old
      · exact shortlex_of_mem_onward new
    intro j seenBefore
    rcases List.mem_cons.mp seenBefore with rfl | seenBefore
    · exact ⟨way, arrives, sooner⟩
    · obtain ⟨before, arrivesBefore, less⟩ := queued.behind j seenBefore
      exact ⟨before, arrivesBefore, fun e here =>
        shortlex_trans (less _ List.mem_cons_self) (sooner e here)⟩
  case ahead =>
    intro other j isFirst inside fresh
    rw [List.mem_cons, not_or] at fresh
    obtain ⟨e, here, front⟩ := queued.ahead other j isFirst inside fresh.2
    rcases List.mem_cons.mp here with rfl | later
    · obtain ⟨rest, rfl⟩ := front
      obtain ⟨e, new, onwards⟩ := exists_mem_onward arrives isFirst.1 fresh.1
      exact ⟨e, List.mem_append_right _ new, onwards⟩
    · exact ⟨e, List.mem_append_left _ later, front⟩

/-! ## Breadth first -/

/-- What is first in the queue and not seen comes before all else that has not been seen. -/
theorem Queued.earlier {seen way : List Nat} {i j : Nat} {queue : List (List Nat × Nat)}
    (queued : Queued g seen ((way, i) :: queue)) (inside : j < g.length) (fresh : j ∉ i :: seen) :
    Earlier g i j := by
  have arrives : arrive? g way = some i := queued.arrives _ List.mem_cons_self
  rw [List.mem_cons, not_or] at fresh
  refine ⟨way, arrives, fun other arrivesOther => ?_⟩
  obtain ⟨first, isFirst, firstLe⟩ := exists_firstWay arrivesOther
  obtain ⟨e, here, front⟩ := queued.ahead first j isFirst inside fresh.2
  have wayLe : way = e.1 ∨ Shortlex (· < ·) way e.1 := by
    rcases List.mem_cons.mp here with rfl | later
    · exact .inl rfl
    · exact .inr ((List.pairwise_cons.mp queued.sorted).1 e later)
  have apart : way ≠ other := by
    rintro rfl
    exact fresh.1 (Option.some.inj (arrivesOther.symm.trans arrives))
  have trans {p q r : List Nat} (pq : p = q ∨ Shortlex (· < ·) p q) (qr : q = r ∨ Shortlex (· < ·) q r) :
      p = r ∨ Shortlex (· < ·) p r := by
    rcases pq with rfl | pq
    · exact qr
    · rcases qr with rfl | qr
      · exact .inr pq
      · exact .inr (shortlex_trans pq qr)
  exact (trans (trans wayLe (eq_or_shortlex_of_front front)) firstLe).resolve_left apart

theorem Walks.pairwise_earlier {seen pending met : List Nat} (walks : Walks g seen pending met)
    {queue : List (List Nat × Nat)} (same : queue.map Prod.snd = pending) (queued : Queued g seen queue) :
    met.Pairwise (Earlier g) := by
  induction walks generalizing queue with
  | done => exact List.Pairwise.nil
  | skip known _ ih =>
      obtain ⟨⟨way, i⟩, queue, rfl, rfl, rest⟩ := List.map_eq_cons_iff.mp same
      exact ih rest (queued.skip known)
  | visit fresh inside rest ih =>
      obtain ⟨⟨way, i⟩, queue, rfl, rfl, restOf⟩ := List.map_eq_cons_iff.mp same
      refine List.pairwise_cons.mpr ⟨fun j later => ?_, ih ?_ queued.visit⟩
      · obtain ⟨within, apart⟩ := rest.fresh j later
        exact queued.earlier within apart
      · rw [List.map_append, map_onward, restOf]

/-- **The positions are met in the order of the first ways to them.**  In particular each is met once. -/
theorem pairwise_reachablePositions : (reachablePositions g).Pairwise (Earlier g) := by
  have start : [(([] : List Nat), 0)].map Prod.snd = [0] := rfl
  exact ((walks_iff _).mpr rfl).pairwise_earlier start queued_start

/-- A failure that is its own context and has two members, with a cause that they share. -/
example : reachablePositions
    [{ kind := .several, text := "", context := some 0, members := [2, 1] },
      { kind := .timeout, text := "", cause := some 3 },
      { kind := .timeout, text := "", cause := some 3 },
      { kind := .connectionRefused, text := "", context := some 0 }] = [0, 2, 1, 3] := by
  decide

end IntentSpec.FailureGraph
