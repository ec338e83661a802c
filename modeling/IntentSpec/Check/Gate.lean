import IntentSpec.Sorting

/-!
# Bounded concurrency

A gate has a number of permits.  A worker runs while it holds one, so no more workers than permits run at
the same time.  Results are returned in the order of the items, whatever the order in which the workers
end.

What a program can see of a gate is computed here: the permits in use, the most that ever were, the order in
which workers end that take given times, and the results or the first failure.  The computation follows one
course.  That it stands for all of them is shown on a machine whose steps are single workers that start and
return, and of which this course is one.

A gate without permits would let nobody through and is refused when it is made, as is a negative number.

## Main definitions

* `Gate`, `Gate.acquire`, `Gate.release` — the permits in use, and the most that ever were.
* `Gate.schedule` — the gate after all items have been worked on.
* `Gate.endingOrder` — the order in which workers end.
* `Gate.gather` — the results of all workers, or the first failure.
-/

namespace IntentSpec

/-- A gate with a number of permits. It counts the permits that are in use and remembers the most
that ever were, which is what a bound on concurrency is about. -/
structure Gate where
  limit : Nat
  inUse : Nat := 0
  /-- The most permits that were in use at once. -/
  peak : Nat := 0
deriving DecidableEq, Repr

namespace Gate

/-- The wording for a gate without permits. -/
def noPermits : String := "limit must be > 0"

/-- A gate with a positive number of permits. -/
def ofLimit? (limit : Int) : Option Gate := if 0 < limit then some { limit := limit.toNat } else none

/-- Takes a permit. -/
def acquire (gate : Gate) : Gate :=
  { gate with inUse := gate.inUse + 1, peak := max gate.peak (gate.inUse + 1) }

/-- Gives a permit back. -/
def release (gate : Gate) : Gate := { gate with inUse := gate.inUse - 1 }

/-- A worker that ends before another one gets a turn. -/
def runThrough (gate : Gate) : Gate := gate.acquire.release

/-- A worker that starts as soon as there is a permit, and gives way to others before it ends. -/
def start (gate : Gate) : Gate :=
  if gate.inUse < gate.limit then gate.acquire else gate.release.acquire

/-- The gate after a number of workers has run; `yielding` says whether they give way to each other. -/
def schedule (gate : Gate) (yielding : Bool) : Nat → Gate
  | 0 => gate
  | n + 1 => schedule (if yielding then gate.start else gate.runThrough) yielding n

/-- The gate when all workers have ended. -/
def drain (gate : Gate) : Gate := { gate with inUse := 0 }

/-- The times at which workers end that take given times, when each begins as soon as there is a permit
and those before it have begun; `busy` holds the times at which permits that were taken are free again. -/
def endings {α : Type} (limit : Nat) : List Nat → List (α × Nat) → List (α × Nat)
  | _, [] => []
  | busy, (a, time) :: workers =>
    let start := if busy.length < limit then 0 else busy.foldl min (busy.headD 0)
    let left := if busy.length < limit then busy else busy.erase start
    (a, start + time) :: endings limit ((start + time) :: left) workers

/-- Workers that take given times, in the order in which they end. Those that end together keep
their order. -/
def endingOrder {α : Type} (limit : Nat) (workers : List (α × Nat)) : List α :=
  (sortBy (fun a b => decide (a.2 ≤ b.2)) (endings limit [] workers)).map (·.1)

/-- The results of the workers in the order of their items, or the failure of the first that fails. -/
def gather {α β ε : Type} (worker : α → Except ε β) : List α → Except ε (List β)
  | [] => .ok []
  | item :: items =>
    match worker item with
    | .error e => .error e
    | .ok b =>
      match gather worker items with
      | .error e => .error e
      | .ok bs => .ok (b :: bs)

end Gate

end IntentSpec
