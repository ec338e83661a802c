import Mathlib.Data.List.Forall2

/-!
# Attempts

Much of the program can fail, and fails by an error in place of a result.  Two ways to say what an attempt
does are used throughout.

Where several errors are possible, what matters is when the attempt succeeds and with what: `bind_eq_ok_iff`
and `mapM_eq_ok_iff` take a success apart into the successes of its parts.

Where there is only one error, more can be said.  An attempt to write a value fails in one way, whichever of
its parts cannot be written and however the work is arranged, so the attempt is described completely by a
condition and by the value that it gives under this condition (`Gives`).  The value is there whether the
condition holds or not; it is what a printer without a limit would have written, and it is what proofs about
texts speak of.  Since the one error does not tell which part has failed, conditions are simply conjoined:
there is one rule for each way to put attempts together (`Gives.bind`, `Gives.mapM`), and no proof that
follows a printer through its cases has to ask again where it may have stopped.

* `Gives` — an attempt with one error, by its condition and its value.
* `Gives.eq_ok_iff`, `Gives.eq_error_iff` — what such an attempt answers.
-/

namespace IntentSpec

theorem bind_eq_ok_iff {ε α β : Type} (x : Except ε α) (next : α → Except ε β) (b : β) :
    (x >>= next) = .ok b ↔ ∃ a, x = .ok a ∧ next a = .ok b := by
  cases x <;> simp [bind, Except.bind]

theorem mapM_eq_ok_iff {ε α β : Type} (f : α → Except ε β) (as : List α) (bs : List β) :
    as.mapM f = .ok bs ↔ List.Forall₂ (fun a b => f a = .ok b) as bs := by
  induction as generalizing bs with
  | nil => cases bs <;> simp [pure, Except.pure]
  | cons a as ih =>
      rw [List.mapM_cons, bind_eq_ok_iff]
      simp only [bind_eq_ok_iff, ih, pure, Except.pure, Except.ok.injEq]
      constructor
      · rintro ⟨b, first, bs, rest, rfl⟩
        exact .cons first rest
      · rintro (_ | ⟨first, rest⟩)
        exact ⟨_, first, _, rest, rfl⟩

/-- The attempt succeeds with the value under the condition, and otherwise fails with the error.  It is a
complete description: of two attempts that give the same in this sense, neither can be told from the other. -/
structure Gives {ε α : Type} (attempt : Except ε α) (error : ε) (condition : Prop) (value : α) : Prop where
  ok : condition → attempt = .ok value
  fails : ¬ condition → attempt = .error error

namespace Gives

variable {ε α β : Type} {error : ε} {attempt : Except ε α} {condition other : Prop} {value : α}

/-- What cannot fail gives its value under any condition that holds. -/
theorem of_holds (holds : condition) : Gives (.ok value) error condition value where
  ok _ := rfl
  fails lacks := absurd holds lacks

theorem congr (h : Gives attempt error condition value) (same : condition ↔ other) :
    Gives attempt error other value where
  ok holds := h.ok (same.mpr holds)
  fails lacks := h.fails (mt same.mp lacks)

/-- One attempt after another.  The second one is only asked for what it does with the value of the first. -/
theorem bind {next : α → Except ε β} {result : β} (first : Gives attempt error condition value)
    (second : Gives (next value) error other result) :
    Gives (attempt >>= next) error (condition ∧ other) result where
  ok both := by
    rw [first.ok both.1]
    exact second.ok both.2
  fails lacks := by
    by_cases holds : condition
    · rw [first.ok holds]
      exact second.fails fun also => lacks ⟨holds, also⟩
    · rw [first.fails holds]
      rfl

/-- An attempt whose value is worked on by what cannot fail. -/
theorem map (h : Gives attempt error condition value) (f : α → β) :
    Gives (attempt >>= fun a => Except.ok (f a)) error condition (f value) := by
  have last : Gives (.ok (f value)) error True (f value) := of_holds trivial
  exact (h.bind last).congr (and_iff_left trivial)

/-- One attempt for each item of a list. -/
theorem mapM {f : α → Except ε β} {holds : α → Prop} {g : α → β} {as : List α}
    (each : ∀ a ∈ as, Gives (f a) error (holds a) (g a)) :
    Gives (as.mapM f) error (∀ a ∈ as, holds a) (as.map g) := by
  induction as with
  | nil => exact of_holds (List.forall_mem_nil _)
  | cons a as ih =>
      obtain ⟨first, rest⟩ := List.forall_mem_cons.mp each
      rw [List.mapM_cons, List.forall_mem_cons]
      exact first.bind ((ih rest).map _)

theorem eq_ok_iff (h : Gives attempt error condition value) {result : α} :
    attempt = .ok result ↔ condition ∧ value = result := by
  by_cases holds : condition
  · rw [h.ok holds, Except.ok.injEq]
    exact (and_iff_right holds).symm
  · rw [h.fails holds]
    exact iff_of_false (by simp) fun both => holds both.1

theorem eq_error_iff (h : Gives attempt error condition value) {reason : ε} :
    attempt = .error reason ↔ ¬ condition ∧ error = reason := by
  by_cases holds : condition
  · rw [h.ok holds]
    exact iff_of_false (by simp) fun both => both.1 holds
  · rw [h.fails holds, Except.error.injEq]
    exact (and_iff_right holds).symm

theorem exists_ok_iff (h : Gives attempt error condition value) :
    (∃ result, attempt = .ok result) ↔ condition := by
  simp only [h.eq_ok_iff, exists_and_left, exists_eq', and_true]

/-- Two attempts with one error answer alike when they succeed under one condition and, under it, with one
value. -/
theorem eq_iff {attempt' : Except ε α} {condition' : Prop} {value' : α}
    (h : Gives attempt error condition value) (h' : Gives attempt' error condition' value') :
    attempt = attempt' ↔ (condition ↔ condition') ∧ (condition → value = value') := by
  constructor
  · intro same
    have conditions : condition ↔ condition' := by
      rw [← h.exists_ok_iff, ← h'.exists_ok_iff, same]
    refine ⟨conditions, fun holds => ?_⟩
    have values := (h.ok holds).symm.trans (same.trans (h'.ok (conditions.mp holds)))
    exact Except.ok.inj values
  · rintro ⟨conditions, values⟩
    by_cases holds : condition
    · rw [h.ok holds, h'.ok (conditions.mp holds), values holds]
    · rw [h.fails holds, h'.fails (mt conditions.mpr holds)]

end Gives

end IntentSpec
