import IntentSpec.Check.Gate
import Mathlib.Data.List.Forall2
import Mathlib.Data.List.Perm.Subperm
import Mathlib.Logic.Relation

/-!
# Gathering results through a gate

Each item has a job.  A job waits for a permit, its worker runs while it holds the permit, and when the
worker returns the permit is given back.  Which job moves next is not fixed: a gathering is a relation
between states, and what is said about it holds for every order of steps.

What one step preserves is `Sound`.  It ties the counters of the gate to the phases of the jobs: the
permits in use are the workers that run, and with the permits that are free they make up the limit.  From
this follows that no more workers run than there are permits, and that a gathering with jobs left can go
on, since a permit is free when no worker runs.

* `Gathering`, `Gathering.Step` — the states and the steps.
* `Gathering.Sound` — what every step preserves.
* `Gathering.orderly` — what holds in every state that can be reached.
* `Gathering.exists_of_order` — every order in which the workers can end occurs.
* `Gathering.schedule_reachable` — the gate that `Gate.schedule` computes is that of a gathering.
-/

namespace IntentSpec

variable {α β ε : Type}

/-! ## One worker after the other -/

namespace Gate

theorem gather_cons_eq_ok_iff (worker : α → Except ε β) (item : α) (items : List α)
    (results : List β) :
    gather worker (item :: items) = .ok results ↔
      ∃ b bs, worker item = .ok b ∧ gather worker items = .ok bs ∧ results = b :: bs := by
  rw [gather]
  cases worker item with
  | error e => simp
  | ok b => cases gather worker items <;> simp [eq_comm]

/-- The workers return a result for each item. -/
theorem gather_eq_ok_iff (worker : α → Except ε β) (items : List α) (results : List β) :
    gather worker items = .ok results ↔
      List.Forall₂ (fun item result => worker item = .ok result) items results := by
  induction items generalizing results with
  | nil => simp [gather, eq_comm]
  | cons item items ih =>
      rw [gather_cons_eq_ok_iff, List.forall₂_cons_left_iff]
      simp only [ih]

end Gate

/-! ## States and steps -/

/-- Where the work on an item stands. -/
inductive Job (α β : Type) where
  | waiting (item : α)
  | running (item : α)
  | done (item : α) (result : β)
deriving DecidableEq, Repr

namespace Job

/-- The item of a job. -/
def item : Job α β → α
  | waiting a | running a | done a _ => a

/-- Whether the worker of a job has been started. -/
def isStarted : Job α β → Bool
  | waiting _ => false
  | running _ | done _ _ => true

/-- Whether the worker of a job runs. -/
def isRunning : Job α β → Bool
  | running _ => true
  | waiting _ | done _ _ => false

/-- What the worker of a job has returned. -/
def result? : Job α β → Option β
  | done _ b => some b
  | waiting _ | running _ => none

/-- Whether the worker of a job has returned. -/
def isDone (job : Job α β) : Bool := job.result?.isSome

end Job

/-- The state of a gathering.  The permits that are free and those that are in use are counted apart. -/
structure Gathering (α β : Type) where
  /-- The permits in use, and the most that ever were. -/
  gate : Gate
  /-- The permits that can be taken. -/
  free : Nat
  /-- The jobs, in the order of their items. -/
  jobs : List (Job α β)
  /-- The places of the jobs whose workers have been started, in the order of the starts. -/
  started : List Nat := []
  /-- The places of the jobs whose workers have returned, in the order in which they did. -/
  ended : List Nat := []

namespace Gathering

/-- The state before the first step. -/
def begun (gate : Gate) (items : List α) : Gathering α β where
  gate := gate
  free := gate.limit
  jobs := items.map .waiting

/-- The job at a place takes a permit, and its worker is started. -/
def start (s : Gathering α β) (i : Nat) (item : α) : Gathering α β where
  gate := s.gate.acquire
  free := s.free - 1
  jobs := s.jobs.set i (.running item)
  started := s.started ++ [i]
  ended := s.ended

/-- The worker of the job at a place returns, and the permit is given back. -/
def finish (s : Gathering α β) (i : Nat) (item : α) (result : β) : Gathering α β where
  gate := s.gate.release
  free := s.free + 1
  jobs := s.jobs.set i (.done item result)
  started := s.started
  ended := s.ended ++ [i]

/-- What can happen next, for workers that return. -/
inductive Step (worker : α → Except ε β) (s : Gathering α β) : Gathering α β → Prop where
  /-- A job that waits takes a permit that is free. -/
  | start {i : Nat} {item : α} (waits : s.jobs[i]? = some (.waiting item)) (permit : 0 < s.free) :
    Step worker s (s.start i item)
  | finish {i : Nat} {item : α} {result : β} (runs : s.jobs[i]? = some (.running item))
    (returns : worker item = .ok result) : Step worker s (s.finish i item result)

/-- Some steps lead from one state to the other. -/
def Leads (worker : α → Except ε β) : Gathering α β → Gathering α β → Prop :=
  Relation.ReflTransGen (Step worker)

/-- The state can be reached. -/
def Reachable (worker : α → Except ε β) (gate : Gate) (items : List α) (s : Gathering α β) : Prop :=
  Leads worker (begun gate items) s

/-- All workers have returned. -/
def Complete (s : Gathering α β) : Prop := ∀ job ∈ s.jobs, job.isDone = true

/-- What the workers have returned, in the order of the items. -/
def results (s : Gathering α β) : List β := s.jobs.filterMap Job.result?

/-- The number of workers that run. -/
def running (s : Gathering α β) : Nat := s.jobs.countP Job.isRunning

/-! ## One job moves -/

section

variable {jobs : List (Job α β)} {i : Nat} {old new : Job α β}

theorem lt_of_getElem? (here : jobs[i]? = some old) : i < jobs.length :=
  (List.getElem?_eq_some_iff.mp here).1

theorem map_item_set (new : Job α β) (here : jobs[i]? = some old) (same : new.item = old.item) :
    (jobs.set i new).map Job.item = jobs.map Job.item := by
  obtain ⟨inside, rfl⟩ := List.getElem?_eq_some_iff.mp here
  have inside' : i < (jobs.map Job.item).length := by
    rwa [List.length_map]
  have at_i : new.item = (jobs.map Job.item)[i] := by
    rw [same, List.getElem_map]
  rw [List.map_set, at_i, List.set_getElem_self]

theorem countP_set_of (p : Job α β → Bool) (new : Job α β) (here : jobs[i]? = some old) :
    (jobs.set i new).countP p + (if p old = true then 1 else 0) =
      jobs.countP p + (if p new = true then 1 else 0) := by
  obtain ⟨inside, rfl⟩ := List.getElem?_eq_some_iff.mp here
  have counted : p jobs[i] = true → 0 < jobs.countP p := fun holds =>
    List.countP_pos_iff.mpr ⟨_, List.getElem_mem inside, holds⟩
  rw [List.countP_set inside]
  by_cases holds : p jobs[i] = true
  · have := counted holds
    simp only [holds, if_true]
    omega
  · simp only [holds, Bool.false_eq_true, if_false]
    omega

/-- The log holds the place of every job that has come so far, and holds it once. -/
structure Logs (log : List Nat) (reached : Job α β → Bool) (jobs : List (Job α β)) : Prop where
  nodup : log.Nodup
  mem_iff : ∀ i, i ∈ log ↔ ∃ job, jobs[i]? = some job ∧ reached job = true

namespace Logs

variable {log : List Nat} {reached : Job α β → Bool}

theorem nil (none : ∀ job ∈ jobs, reached job = false) : Logs [] reached jobs where
  nodup := List.nodup_nil
  mem_iff i := by
    refine iff_of_false List.not_mem_nil ?_
    rintro ⟨job, here, come⟩
    exact absurd come (by simp [none job (List.mem_of_getElem? here)])

/-- A job that moves without coming so far is not logged. -/
theorem keep (logs : Logs log reached jobs) (here : jobs[i]? = some old)
    (same : reached new = reached old) : Logs log reached (jobs.set i new) where
  nodup := logs.nodup
  mem_iff j := by
    rw [logs.mem_iff, List.getElem?_set]
    by_cases at_i : i = j
    · subst at_i
      rw [if_pos rfl, if_pos (lt_of_getElem? here), here]
      simp [same]
    · simp [at_i]

/-- A job that comes so far is logged. -/
theorem concat (logs : Logs log reached jobs) (here : jobs[i]? = some old)
    (before : reached old = false) (now : reached new = true) :
    Logs (log ++ [i]) reached (jobs.set i new) where
  nodup := by
    have fresh : i ∉ log := by
      rw [logs.mem_iff]
      rintro ⟨job, there, come⟩
      obtain rfl := Option.some.inj (here.symm.trans there)
      exact absurd come (by simp [before])
    exact List.nodup_append.mpr ⟨logs.nodup, by simp, fun j inside k alone same =>
      fresh (List.mem_singleton.mp alone ▸ same ▸ inside)⟩
  mem_iff j := by
    rw [List.mem_append, logs.mem_iff, List.mem_singleton, List.getElem?_set]
    by_cases at_i : i = j
    · subst at_i
      simp [lt_of_getElem? here, now]
    · simp [at_i, Ne.symm at_i]

theorem lt_length (logs : Logs log reached jobs) {i : Nat} (inside : i ∈ log) : i < jobs.length := by
  obtain ⟨job, here, -⟩ := (logs.mem_iff i).mp inside
  exact lt_of_getElem? here

theorem length_le (logs : Logs log reached jobs) : log.length ≤ jobs.length := by
  have places : log ⊆ List.range jobs.length := fun i inside =>
    List.mem_range.mpr (logs.lt_length inside)
  simpa using (List.subperm_of_subset logs.nodup places).length_le

/-- When all jobs have come so far, each place is logged exactly once. -/
theorem perm_range (logs : Logs log reached jobs) (all : ∀ job ∈ jobs, reached job = true) :
    log.Perm (List.range jobs.length) := by
  refine (List.perm_ext_iff_of_nodup logs.nodup List.nodup_range).mpr fun i => ?_
  rw [logs.mem_iff, List.mem_range]
  constructor
  · rintro ⟨job, here, -⟩
    exact lt_of_getElem? here
  · intro inside
    exact ⟨jobs[i], List.getElem?_eq_getElem inside, all _ (List.getElem_mem inside)⟩

end Logs

end

/-! ## What every step preserves -/

/-- The counters, the phases of the jobs and the logs agree. -/
structure Sound (worker : α → Except ε β) (limit : Nat) (items : List α) (s : Gathering α β) :
    Prop where
  /-- The number of permits does not change. -/
  limit_eq : s.gate.limit = limit
  /-- The jobs are those of the items. -/
  items_eq : s.jobs.map Job.item = items
  /-- Each worker that runs holds a permit. -/
  inUse_eq : s.gate.inUse = s.running
  permits : s.free + s.gate.inUse = limit
  /-- There never were more permits in use than there are. -/
  peak_le : s.gate.peak ≤ limit
  /-- Every start of a worker is logged, and none twice. -/
  started : Logs s.started Job.isStarted s.jobs
  /-- Every end of a worker is logged, and none twice. -/
  ended : Logs s.ended Job.isDone s.jobs
  /-- A result is that of the worker for the item. -/
  returned : ∀ item result, .done item result ∈ s.jobs → worker item = .ok result

namespace Sound

variable {worker : α → Except ε β} {limit : Nat} {items : List α} {s s' : Gathering α β}

theorem begun (gate : Gate) (idle : gate.inUse = 0) (low : gate.peak ≤ gate.limit) (items : List α) :
    Sound worker gate.limit items (begun gate items) where
  limit_eq := rfl
  items_eq := by simp [Gathering.begun, Function.comp_def, Job.item]
  inUse_eq := by simp [Gathering.begun, running, idle, Function.comp_def, Job.isRunning]
  permits := by simp [Gathering.begun, idle]
  peak_le := low
  started := Logs.nil (by simp [Gathering.begun, Job.isStarted])
  ended := Logs.nil (by simp [Gathering.begun, Job.isDone, Job.result?])
  returned := by simp [Gathering.begun]

theorem start (sound : Sound worker limit items s) {i : Nat} {item : α}
    (waits : s.jobs[i]? = some (.waiting item)) (permit : 0 < s.free) :
    Sound worker limit items (s.start i item) := by
  have moved := countP_set_of Job.isRunning (.running item) waits
  have inUse := sound.inUse_eq
  have permits := sound.permits
  have peak := sound.peak_le
  simp only [running, Job.isRunning, if_true, Bool.false_eq_true, if_false] at moved inUse
  exact {
    limit_eq := sound.limit_eq
    items_eq := (map_item_set (.running item) waits rfl).trans sound.items_eq
    inUse_eq := by
      simp only [Gathering.start, Gate.acquire, running]
      omega
    permits := by
      simp only [Gathering.start, Gate.acquire]
      omega
    peak_le := by
      simp only [Gathering.start, Gate.acquire]
      omega
    started := sound.started.concat waits rfl rfl
    ended := sound.ended.keep waits rfl
    returned := fun other result inside => by
      rcases List.mem_or_eq_of_mem_set inside with before | new
      · exact sound.returned other result before
      · cases new }

theorem finish (sound : Sound worker limit items s) {i : Nat} {item : α} {result : β}
    (runs : s.jobs[i]? = some (.running item)) (returns : worker item = .ok result) :
    Sound worker limit items (s.finish i item result) := by
  have moved := countP_set_of Job.isRunning (.done item result) runs
  have inUse := sound.inUse_eq
  have permits := sound.permits
  simp only [running, Job.isRunning, if_true, Bool.false_eq_true, if_false] at moved inUse
  exact {
    limit_eq := sound.limit_eq
    items_eq := (map_item_set (.done item result) runs rfl).trans sound.items_eq
    inUse_eq := by
      simp only [Gathering.finish, Gate.release, running]
      omega
    permits := by
      simp only [Gathering.finish, Gate.release]
      omega
    peak_le := sound.peak_le
    started := sound.started.keep runs rfl
    ended := sound.ended.concat runs rfl rfl
    returned := fun other b inside => by
      rcases List.mem_or_eq_of_mem_set inside with before | new
      · exact sound.returned other b before
      · cases new
        exact returns }

theorem step (sound : Sound worker limit items s) (step : Step worker s s') :
    Sound worker limit items s' := by
  cases step with
  | start waits permit => exact sound.start waits permit
  | finish runs returns => exact sound.finish runs returns

theorem leads (sound : Sound worker limit items s) (leads : Leads worker s s') :
    Sound worker limit items s' := by
  induction leads with
  | refl => exact sound
  | tail _ last ih => exact ih.step last

/-- No more permits are in use than there are. -/
theorem inUse_le (sound : Sound worker limit items s) : s.gate.inUse ≤ limit := by
  have := sound.permits
  omega

theorem length_jobs (sound : Sound worker limit items s) : s.jobs.length = items.length := by
  rw [← sound.items_eq, List.length_map]

theorem item_mem (sound : Sound worker limit items s) {i : Nat} {job : Job α β}
    (here : s.jobs[i]? = some job) : job.item ∈ items := by
  rw [← sound.items_eq]
  exact List.mem_map_of_mem (List.mem_of_getElem? here)

theorem inUse_eq_zero (sound : Sound worker limit items s) (complete : s.Complete) :
    s.gate.inUse = 0 := by
  rw [sound.inUse_eq, running, List.countP_eq_zero]
  intro job here
  have returned := complete job here
  cases job <;> simp_all [Job.isDone, Job.result?, Job.isRunning]

end Sound

/-! ## Progress -/

section

variable {worker : α → Except ε β} {limit : Nat} {items : List α} {s s' : Gathering α β}

theorem exists_running (busy : 0 < s.running) :
    ∃ (i : Nat) (item : α), s.jobs[i]? = some (.running item) := by
  obtain ⟨job, here, runs⟩ := List.countP_pos_iff.mp busy
  obtain ⟨i, at_i⟩ := List.mem_iff_getElem?.mp here
  cases job with
  | running item => exact ⟨i, item, at_i⟩
  | waiting => cases runs
  | done => cases runs

/-- A gathering with jobs left can go on: some worker runs and can return, or all permits are free. -/
theorem Sound.goesOn (sound : Sound worker limit items s) (positive : 0 < limit)
    (returns : ∀ item ∈ items, ∃ b, worker item = .ok b) (left : ¬ s.Complete) :
    ∃ s', Step worker s s' := by
  by_cases busy : 0 < s.running
  · obtain ⟨i, item, runs⟩ := exists_running busy
    obtain ⟨b, returns⟩ := returns item (sound.item_mem runs)
    exact ⟨_, .finish runs returns⟩
  · unfold Complete at left
    push Not at left
    obtain ⟨job, here, open'⟩ := left
    obtain ⟨i, at_i⟩ := List.mem_iff_getElem?.mp here
    cases job with
    | waiting item =>
        have permits := sound.permits
        have inUse := sound.inUse_eq
        exact ⟨_, .start at_i (by omega)⟩
    | running item =>
        exact absurd (List.countP_pos_iff.mpr ⟨_, here, rfl⟩) busy
    | done item b => exact absurd rfl open'

/-- Each step is the start or the end of one worker. -/
theorem Step.advances (step : Step worker s s') :
    s'.started.length + s'.ended.length = s.started.length + s.ended.length + 1 := by
  cases step with
  | start =>
      simp only [Gathering.start, List.length_append, List.length_singleton]
      omega
  | finish =>
      simp only [Gathering.finish, List.length_append, List.length_singleton]
      omega

/-- Every gathering can be completed, and whatever its steps are they come to an end: each worker is
started once and ends once. -/
theorem Sound.leads_complete (sound : Sound worker limit items s) (positive : 0 < limit)
    (returns : ∀ item ∈ items, ∃ b, worker item = .ok b) :
    ∃ s', Leads worker s s' ∧ s'.Complete := by
  induction left : 2 * items.length - (s.started.length + s.ended.length)
    using Nat.strongRecOn generalizing s with
  | ind n ih =>
    by_cases complete : s.Complete
    · exact ⟨s, .refl, complete⟩
    · obtain ⟨next, step⟩ := sound.goesOn positive returns complete
      have sound' := sound.step step
      have advances := step.advances
      have started := sound'.started.length_le
      have ended := sound'.ended.length_le
      rw [sound'.length_jobs] at started ended
      obtain ⟨last, leads, complete'⟩ := ih _ (by omega) sound' rfl
      exact ⟨last, .head step leads, complete'⟩

end

/-! ## Results -/

section

variable {worker : α → Except ε β} {limit : Nat} {items : List α} {s : Gathering α β}

theorem forall₂_result? {jobs : List (Job α β)} (complete : ∀ job ∈ jobs, job.isDone = true)
    (returned : ∀ item result, .done item result ∈ jobs → worker item = .ok result) :
    List.Forall₂ (fun item result => worker item = .ok result) (jobs.map Job.item)
      (jobs.filterMap Job.result?) := by
  induction jobs with
  | nil => exact .nil
  | cons job jobs ih =>
      have rest := ih (fun t here => complete t (List.mem_cons_of_mem _ here))
        fun item result here => returned item result (List.mem_cons_of_mem _ here)
      have first := complete job List.mem_cons_self
      cases job with
      | waiting => cases first
      | running => cases first
      | done item result => exact .cons (returned item result List.mem_cons_self) rest

/-- The results stand in the order of the items, whatever the order was in which the workers ended. -/
theorem Sound.forall₂_results (sound : Sound worker limit items s) (complete : s.Complete) :
    List.Forall₂ (fun item result => worker item = .ok result) items s.results := by
  have each := forall₂_result? complete sound.returned
  rwa [sound.items_eq] at each

end

/-! ## Every order of steps -/

/-- What holds in every state of a gathering. -/
structure Orderly (worker : α → Except ε β) (limit : Int) (items : List α) (s : Gathering α β) :
    Prop where
  /-- The permits in use are counted by the workers that run. -/
  inUse_eq : s.gate.inUse = s.running
  /-- There are no more of them than the limit. -/
  inUse_le : (s.gate.inUse : Int) ≤ limit
  /-- There never were more of them than the limit. -/
  peak_le : (s.gate.peak : Int) ≤ limit
  once : s.started.Nodup
  /-- Unless all workers have returned, there is a next step. -/
  goesOn : ¬ s.Complete → ∃ s', Step worker s s'
  /-- Then no permit is in use. -/
  idle : s.Complete → s.gate.inUse = 0
  /-- Then each worker has been started exactly once. -/
  all_started : s.Complete → s.started.Perm (List.range items.length)
  /-- Then the results are those of the workers, in the order of the items. -/
  results : s.Complete → List.Forall₂ (fun item result => worker item = .ok result) items s.results
  /-- Then the results are those that one worker after the other gives. -/
  gather : s.Complete → Gate.gather worker items = .ok s.results

theorem ofLimit?_eq {limit : Int} (positive : 1 ≤ limit) :
    Gate.ofLimit? limit = some { limit := limit.toNat } := if_pos (by omega)

theorem Sound.of_reachable {worker : α → Except ε β} {limit : Int} {items : List α}
    {s : Gathering α β} (reachable : Reachable worker { limit := limit.toNat } items s) :
    Sound worker limit.toNat items s :=
  (Sound.begun { limit := limit.toNat } rfl (Nat.zero_le _) items).leads reachable

/-- **Workers are gathered in order.** For every positive limit, for workers that return, and for
every order of steps: the permits in use are those of the workers that run, and there never are more
than the limit; no worker is started twice, and there is a next step until all have returned. Then
all permits are back, and the results are those of one worker after the other. -/
theorem orderly (worker : α → Except ε β) (limit : Int) (items : List α) (positive : 1 ≤ limit)
    (returns : ∀ item ∈ items, ∃ b, worker item = .ok b) :
    ∃ gate, Gate.ofLimit? limit = some gate ∧
      ∀ s, Reachable worker gate items s → Orderly worker limit items s := by
  refine ⟨_, ofLimit?_eq positive, fun s reachable => ?_⟩
  have sound := Sound.of_reachable reachable
  have inUse_le := sound.inUse_le
  have peak_le := sound.peak_le
  exact {
    inUse_eq := sound.inUse_eq
    inUse_le := by omega
    peak_le := by omega
    once := sound.started.nodup
    goesOn := sound.goesOn (by omega) returns
    idle := sound.inUse_eq_zero
    all_started := fun complete => by
      rw [← sound.length_jobs]
      refine sound.started.perm_range fun job here => ?_
      have returned := complete job here
      cases job <;> first | rfl | cases returned
    results := sound.forall₂_results
    gather := fun complete => (Gate.gather_eq_ok_iff ..).mpr (sound.forall₂_results complete) }

/-- The workers of the example below return ten times their items. -/
def tenfold (n : Nat) : Except Empty Nat := .ok (n * 10)

/-- Five workers behind two permits. -/
theorem orderly_tenfold :
    (∀ item ∈ [0, 1, 2, 3, 4], ∃ b, tenfold item = .ok b) ∧
      ∃ gate, Gate.ofLimit? 2 = some gate ∧ ∀ s, Reachable tenfold gate [0, 1, 2, 3, 4] s →
        Orderly tenfold 2 [0, 1, 2, 3, 4] s :=
  have returns : ∀ item ∈ [0, 1, 2, 3, 4], ∃ b, tenfold item = .ok b := fun item _ => ⟨item * 10, rfl⟩
  ⟨returns, orderly tenfold 2 [0, 1, 2, 3, 4] (by decide) returns⟩

/-! ## Orders that occur -/

section

variable {worker : α → Except ε β} {limit : Nat} {items : List α} {s : Gathering α β}

theorem Sound.complete_of_ended (sound : Sound worker limit items s)
    (all : s.ended.Perm (List.range items.length)) : s.Complete := by
  intro job here
  obtain ⟨i, at_i⟩ := List.mem_iff_getElem?.mp here
  have inside : i ∈ s.ended := by
    rw [all.mem_iff, List.mem_range, ← sound.length_jobs]
    exact lt_of_getElem? at_i
  obtain ⟨_, at_i', done⟩ := (sound.ended.mem_iff i).mp inside
  rwa [← Option.some.inj (at_i.symm.trans at_i')] at done

/-- Workers can be run one after the other in any order. -/
theorem exists_sequential (order : List Nat) (s : Gathering α β) (permit : 0 < s.free)
    (nodup : order.Nodup) (ready : ∀ i ∈ order, ∃ item b, s.jobs[i]? = some (.waiting item) ∧
      worker item = .ok b) :
    ∃ s', Leads worker s s' ∧ s'.ended = s.ended ++ order ∧
      s'.gate = s.gate.schedule false order.length := by
  induction order generalizing s with
  | nil => exact ⟨s, .refl, by simp, rfl⟩
  | cons i order ih =>
      obtain ⟨item, b, waits, returns⟩ := ready i List.mem_cons_self
      obtain ⟨fresh, nodup⟩ := List.nodup_cons.mp nodup
      have runs : (s.start i item).jobs[i]? = some (.running item) :=
        List.getElem?_set_self (lt_of_getElem? waits)
      have ready' : ∀ j ∈ order, ∃ item' b',
          ((s.start i item).finish i item b).jobs[j]? = some (.waiting item') ∧
            worker item' = .ok b' := by
        intro j later
        obtain ⟨item', b', waits', returns'⟩ := ready j (List.mem_cons_of_mem _ later)
        have other : i ≠ j := fun same => fresh (same ▸ later)
        refine ⟨item', b', ?_, returns'⟩
        simp only [start, finish]
        rw [List.getElem?_set_ne other, List.getElem?_set_ne other, waits']
      obtain ⟨last, leads, ended, gate⟩ :=
        ih ((s.start i item).finish i item b) (Nat.succ_pos _) nodup ready'
      refine ⟨last, .head (.start waits permit) (.head (.finish runs returns) leads), ?_, gate⟩
      rw [ended]
      simp [start, finish]

/-- **Every order in which the workers can end occurs**, even if they run one at a time. So a
statement about all courses is one about every such order, and none of them is lost by the steps
that were chosen. -/
theorem exists_of_order (worker : α → Except ε β) (limit : Int) (items : List α) (positive : 1 ≤ limit)
    (returns : ∀ item ∈ items, ∃ b, worker item = .ok b) (order : List Nat)
    (all : order.Perm (List.range items.length)) :
    ∃ s, Reachable worker { limit := limit.toNat } items s ∧ s.Complete ∧ s.ended = order ∧
      s.gate = Gate.schedule { limit := limit.toNat } false items.length := by
  have ready : ∀ i ∈ order, ∃ item b,
      (begun { limit := limit.toNat } items : Gathering α β).jobs[i]? = some (.waiting item) ∧
        worker item = .ok b := by
    intro i inside
    have bound : i < items.length := List.mem_range.mp (all.mem_iff.mp inside)
    obtain ⟨b, returned⟩ := returns items[i] (List.getElem_mem bound)
    exact ⟨items[i], b, by simp [begun, bound], returned⟩
  obtain ⟨s, leads, ended, gate⟩ := exists_sequential order (begun { limit := limit.toNat } items)
    (by simp only [begun]; omega) (all.nodup_iff.mpr List.nodup_range) ready
  have ended' : s.ended = order := by simpa [begun] using ended
  have size : order.length = items.length := by simpa using all.length_eq
  refine ⟨s, leads, (Sound.of_reachable leads).complete_of_ended (ended' ▸ all), ended', ?_⟩
  rw [gate, size]
  rfl

/-- A permit for the next worker can be had: when none is free, a worker that runs returns first. -/
theorem Sound.exists_room (sound : Sound worker limit items s) (positive : 0 < limit)
    (returns : ∀ item ∈ items, ∃ b, worker item = .ok b) {front : List (Job α β)} {rest : List α}
    (split : s.jobs = front ++ rest.map .waiting) (moved : ∀ job ∈ front, job.isStarted = true) :
    ∃ s' front', Leads worker s s' ∧ 0 < s'.free ∧ s'.jobs = front' ++ rest.map .waiting ∧
      (∀ job ∈ front', job.isStarted = true) ∧ s'.gate.acquire = s.gate.start := by
  have permits := sound.permits
  have same := sound.limit_eq
  by_cases room : s.gate.inUse < s.gate.limit
  · exact ⟨s, front, .refl, by omega, split, moved, (if_pos room).symm⟩
  · have inUse := sound.inUse_eq
    obtain ⟨i, item, runs⟩ := exists_running (s := s) (by omega)
    obtain ⟨b, returned⟩ := returns item (sound.item_mem runs)
    have inFront : i < front.length := by
      by_contra behind
      rw [split, List.getElem?_append_right (by omega), List.getElem?_map] at runs
      cases at_i : rest[i - front.length]? with
      | none => simp [at_i] at runs
      | some other => simp [at_i] at runs
    refine ⟨s.finish i item b, front.set i (.done item b), .single (.finish runs returned),
      Nat.succ_pos _, ?_, fun job here => ?_, (if_neg room).symm⟩
    · simp only [Gathering.finish, split]
      rw [List.set_append_left _ _ inFront]
    · rcases List.mem_or_eq_of_mem_set here with before | rfl
      · exact moved job before
      · rfl

/-- Workers can be started as soon as there is a permit, in the order of their items. -/
theorem Sound.exists_fill (sound : Sound worker limit items s) (positive : 0 < limit)
    (returns : ∀ item ∈ items, ∃ b, worker item = .ok b) {front : List (Job α β)} {rest : List α}
    (split : s.jobs = front ++ rest.map .waiting) (moved : ∀ job ∈ front, job.isStarted = true) :
    ∃ s', Leads worker s s' ∧ (∀ job ∈ s'.jobs, job.isStarted = true) ∧
      s'.gate = s.gate.schedule true rest.length := by
  induction rest generalizing s front with
  | nil => exact ⟨s, .refl, by simpa [split] using moved, rfl⟩
  | cons item rest ih =>
      obtain ⟨ready, front, toReady, permit, split, moved, acquired⟩ :=
        sound.exists_room positive returns split moved
      have waits : ready.jobs[front.length]? = some (.waiting item) := by simp [split]
      have split' : (ready.start front.length item).jobs =
          (front ++ [.running item]) ++ rest.map .waiting := by
        simp [Gathering.start, split]
      have moved' : ∀ job ∈ front ++ [.running item], job.isStarted = true := by
        simpa [or_imp, forall_and, Job.isStarted] using moved
      obtain ⟨last, leads, all, gate⟩ := ih ((sound.leads toReady).start waits permit) split' moved'
      refine ⟨last, .trans toReady (.head (.start waits permit) leads), all, ?_⟩
      rw [gate, List.length_cons, Gate.schedule, if_pos rfl, ← acquired]
      rfl

/-- Once all workers have been started, the most permits that were in use stay the same. -/
theorem peak_of_all_started {s s' : Gathering α β} (leads : Leads worker s s')
    (all : ∀ job ∈ s.jobs, job.isStarted = true) :
    (∀ job ∈ s'.jobs, job.isStarted = true) ∧ s'.gate.peak = s.gate.peak := by
  induction leads with
  | refl => exact ⟨all, rfl⟩
  | tail _ step ih =>
      obtain ⟨all, peak⟩ := ih
      cases step with
      | start waits => exact absurd (all _ (List.mem_of_getElem? waits)) (by simp [Job.isStarted])
      | finish runs returned =>
          refine ⟨fun job here => ?_, peak⟩
          rcases List.mem_or_eq_of_mem_set here with before | rfl
          · exact all job before
          · rfl

/-- **The gate that a schedule computes is that of a gathering**, whether the workers give way to each
other or not. -/
theorem schedule_reachable (worker : α → Except ε β) (limit : Int) (items : List α)
    (positive : 1 ≤ limit) (returns : ∀ item ∈ items, ∃ b, worker item = .ok b) (yielding : Bool) :
    ∃ s, Reachable worker { limit := limit.toNat } items s ∧ s.Complete ∧
      s.gate = (Gate.schedule { limit := limit.toNat } yielding items.length).drain := by
  cases yielding with
  | false =>
      obtain ⟨s, reachable, complete, -, gate⟩ :=
        exists_of_order worker limit items positive returns _ (.refl _)
      refine ⟨s, reachable, complete, ?_⟩
      rw [← gate, Gate.drain, ← (Sound.of_reachable reachable).inUse_eq_zero complete]
  | true =>
      have sound : Sound worker limit.toNat items (begun { limit := limit.toNat } items) :=
        .of_reachable .refl
      have split : (begun { limit := limit.toNat } items : Gathering α β).jobs =
          [] ++ items.map .waiting := rfl
      obtain ⟨s, filled, all, gate⟩ := sound.exists_fill (by omega) returns split (by simp)
      have sound' := sound.leads filled
      obtain ⟨last, leads, complete⟩ := sound'.leads_complete (by omega) returns
      have sound'' := sound'.leads leads
      have idle := sound''.inUse_eq_zero complete
      have same := sound''.limit_eq.trans sound'.limit_eq.symm
      have peak := (peak_of_all_started leads all).2
      have drained : last.gate = s.gate.drain := by rw [Gate.drain, ← idle, ← same, ← peak]
      refine ⟨last, .trans filled leads, complete, ?_⟩
      rw [drained, gate]
      rfl

end

end Gathering

end IntentSpec
