import IntentSpec.Cli.Workflow
import IntentSpec.Proofs.Failure.Chain

/-!
# The exit status of the process

Whatever the program answers, leaves the process with or fails with, there is one status for it, and it is
within the range of statuses.  A failure has the status of a faulty configuration when one is on the chain
of what led to it; the loop that looks for it ends on every graph.

A failure points to the one that caused it and to the one during which it happened, and nothing keeps these
pointers from going round in a circle.  The loop remembers what it has met, so it takes one round for each
failure at most.  Graphs with circles are not left out, and no bound is put on the length of a chain.

What stops the program without being a failure of its own, as the user does who interrupts it, has no status
here.  It passes the boundary, and the system decides what becomes of the process.

* `Conclusion.Due` — the status that is due for a conclusion, described without the code that picks it.
* `Conclusion.status?_eq_some_iff` — it is the one that the process has.
* `Conclusion.not_internal_help` — leaving the process on purpose is no internal error.
-/

namespace IntentSpec

/-- A failure of the configuration is on the chain of what led to the failure. -/
def FailureGraph.ComesOfConfiguration (g : FailureGraph) : Prop :=
  ∃ f, OnChain g f ∧ f.kind.isConfiguration = true

theorem FailureGraph.any_causes_iff (g : FailureGraph) :
    (g.causes.any fun f => f.kind.isConfiguration) = true ↔ g.ComesOfConfiguration := by
  simp only [List.any_eq_true, mem_causes_iff]
  rfl

namespace Conclusion

/-- The exit status of the process, if the conclusion has one. -/
def status? (e : Conclusion) : Option Nat := (ExitStatus.ofConclusion e).map Prod.fst

/-- The value that is answered or that the process is left with. -/
def value? : Conclusion → Option Datum
  | answer value | exit value => some value
  | failure _ | stopped => none

/-- The status that is due for a conclusion. -/
inductive Due (e : Conclusion) : Nat → Prop where
  /-- A number within the range of statuses is one. -/
  | number {n : Nat} (value : e.value? = some (.int n)) (small : n ≤ 255) : Due e n
  | nothing (value : e.value? = some .null) : Due e ExitStatus.success
  /-- Any other value is an internal error. -/
  | strange {v : Datum} (value : e.value? = some v) (something : v ≠ .null)
    (noStatus : ∀ n : Nat, n ≤ 255 → v ≠ .int n) : Due e ExitStatus.internal
  /-- A failure that comes of a faulty configuration is one of the configuration. -/
  | configuration {g : FailureGraph} (fails : e = .failure g) (comes : g.ComesOfConfiguration) :
    Due e ExitStatus.configuration
  /-- Any other failure is an internal error. -/
  | unforeseen {g : FailureGraph} (fails : e = .failure g) (other : ¬ g.ComesOfConfiguration) :
    Due e ExitStatus.internal

variable {e : Conclusion} {status : Nat}

theorem status?_of_value {v : Datum} (value : e.value? = some v) :
    e.status? = some (ExitStatus.ofAnswer v).1 := by
  cases e with
  | answer | exit =>
      obtain rfl := Option.some.inj value
      rfl
  | failure | stopped => cases value

theorem status?_failure (g : FailureGraph) : (failure g).status? = some (ExitStatus.ofFailure g).1 := rfl

theorem Due.le (due : Due e status) : status ≤ 255 := by
  cases due with
  | number _ small => exact small
  | _ => decide

/-- The status of the process is the one that is due. -/
theorem Due.status?_eq (due : Due e status) : e.status? = some status := by
  cases due with
  | number value small =>
      rw [status?_of_value value, ExitStatus.ofAnswer, if_pos (by omega), Int.toNat_natCast]
  | nothing value => exact status?_of_value value
  | @strange v value something noStatus =>
      rw [status?_of_value value]
      cases v with
      | null => exact absurd rfl something
      | int n =>
          have outside : ¬ (0 ≤ n ∧ n ≤ 255) := by
            rintro ⟨below, above⟩
            exact noStatus n.toNat (by omega) (by rw [Int.toNat_of_nonneg below])
          rw [ExitStatus.ofAnswer, if_neg outside]
      | _ => rfl
  | @configuration g fails comes =>
      rw [fails, status?_failure, ExitStatus.ofFailure, if_pos (g.any_causes_iff.mpr comes)]
  | @unforeseen g fails other =>
      rw [fails, status?_failure, ExitStatus.ofFailure, if_neg (mt g.any_causes_iff.mp other)]

theorem exists_due_of_value {v : Datum} (value : e.value? = some v) : ∃ status, Due e status := by
  by_cases null : v = .null
  · exact ⟨_, .nothing (null ▸ value)⟩
  · by_cases number : ∃ n : Nat, n ≤ 255 ∧ v = .int n
    · obtain ⟨n, small, rfl⟩ := number
      exact ⟨n, .number value small⟩
    · exact ⟨_, .strange value null fun n small same => number ⟨n, small, same⟩⟩

/-- A status is due for every conclusion but being stopped by what is no failure of the program. -/
theorem eq_stopped_or_exists_due (e : Conclusion) : e = .stopped ∨ ∃ status, Due e status := by
  cases e with
  | answer | exit => exact .inr (exists_due_of_value rfl)
  | failure g =>
      by_cases comes : g.ComesOfConfiguration
      · exact .inr ⟨_, .configuration rfl comes⟩
      · exact .inr ⟨_, .unforeseen rfl comes⟩
  | stopped => exact .inl rfl

/-- **The process ends with the status that is due, which is within the range of statuses.**  Only where
the program is stopped by what is no failure of its own there is none.  The loop over what led to a failure
ends on every graph, after as many rounds as there are failures at most, and it has met the causes. -/
theorem status?_eq_some_iff (e : Conclusion) :
    (∀ status, e.status? = some status ↔ status ≤ 255 ∧ Due e status) ∧ (e.status? = none ↔ e = .stopped) ∧
      ∀ g : FailureGraph, ∃! met, FailureGraph.Follows g [] (some 0) met ∧ met.length ≤ g.length ∧
        g.causes = met.filterMap (g[·]?) := by
  refine ⟨fun status => ?_, ?_, fun g => ?_⟩
  · constructor
    · intro ends
      rcases eq_stopped_or_exists_due e with rfl | ⟨status', due⟩
      · cases ends
      · obtain rfl := Option.some.inj (ends.symm.trans due.status?_eq)
        exact ⟨due.le, due⟩
    · exact fun ⟨_, due⟩ => due.status?_eq
  · constructor
    · intro ends
      refine (eq_stopped_or_exists_due e).resolve_right ?_
      rintro ⟨status, due⟩
      cases ends.symm.trans due.status?_eq
    · rintro rfl
      rfl
  · obtain ⟨met, follows, -, bound, causes⟩ := FailureGraph.exists_follows g
    exact ⟨met, ⟨follows, bound, causes⟩, fun met' follows' => follows'.1.unique follows⟩

/-- A call that asks for help leaves the process, which is no internal error. -/
theorem not_internal_help :
    (∀ setting files, some (Cli.call setting files ["--help"]).status = (exit (.int 0)).status?) ∧
      (exit (.int 0)).status? ≠ some ExitStatus.internal := by
  have asked : Cli.Invocation.read ["--help"] = .error .help := by
    rfl
  refine ⟨fun setting files => ?_, by decide⟩
  unfold Cli.call
  rw [asked]
  rfl

end Conclusion

end IntentSpec
