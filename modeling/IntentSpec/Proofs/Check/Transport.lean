import IntentSpec.Proofs.Check.Answer
import IntentSpec.Proofs.Failure.Order
import IntentSpec.Proofs.Text.Pieces

/-!
# What a failed request amounts to

A request fails with a failure that others have led to, and it amounts to the most telling of what can be
read off all of them.  The classes are ranked, and the outcome is that of the first class that applies.
Where a class names an error number, it is the one of the failure that comes first, breadth first.

When a class applies is said of the failures that the first one leads to, and of nothing that the classification
computes on its way: a traversal that missed a failure, or a classification that did not look at a message,
would have classes that apply and are not found.  The messages take some care.  A word without a blank stands in
one of them.  The phrases about name resolution have blanks in them, and what is searched is the messages with
blanks in between, so that such a phrase may begin in one message and end in the next; which message is the next
one is again a matter of the failures that lead to each other (`FailureGraph.Reads`).

* `Failure.Reports` — an error number that a failure carries.
* `FailureGraph.FirstReported` — the error number that comes first among those of some kind.
* `FailureGraph.Reads` — the messages of all failures, in their order.
* `FailureClass` — the classes, with their ranks and their outcomes.
* `FailureClass.Applies` — when a class applies to what led to a failure.
* `Check.transportOutcome_classified` — the outcome is that of the first class that applies.
-/

namespace IntentSpec

open Text

/-- The failure is one of the operating system and carries an error number that is not zero. -/
def Failure.Reports (f : Failure) (number : Int) : Prop :=
  f.kind.isSystem = true ∧ f.code = some number ∧ number ≠ 0

/-- Among the error numbers of a kind that what led to the first failure carries, this one comes first. -/
def FailureGraph.FirstReported (g : FailureGraph) (kind : Int → Prop) (number : Int) : Prop :=
  ∃ i f, g.Leads 0 i ∧ g[i]? = some f ∧ f.Reports number ∧ kind number ∧
    ∀ j f' number', g.Leads 0 j → g[j]? = some f' → f'.Reports number' → kind number' →
      j = i ∨ g.Earlier i j

/-- The messages of all failures that the first one leads to, breadth first, with a blank between two. -/
def FailureGraph.Reads (g : FailureGraph) (message : String) : Prop :=
  ∃ positions : List Nat, (∀ i, i ∈ positions ↔ i < g.length ∧ g.Leads 0 i) ∧ positions.Pairwise g.Earlier ∧
    message = " ".intercalate ((positions.filterMap (g[·]?)).map (·.text))

/-- What a failed request can amount to. -/
inductive FailureClass where
  | refused
  /-- The name of the server could not be resolved. -/
  | unresolved
  /-- The operating system gave up waiting for the connection. -/
  | timedOut
  /-- The network or the host cannot be reached. -/
  | unreachable (number : Int)
  /-- No secure connection could be set up. -/
  | insecure
  /-- The operating system reports another error. -/
  | numbered (number : Int)
  | unnumbered

namespace FailureClass

/-- The classes in their order, the most telling first. -/
def rank : FailureClass → Nat
  | refused => 0
  | unresolved => 1
  | timedOut => 2
  | unreachable _ => 3
  | insecure => 4
  | numbered _ => 5
  | unnumbered => 6

/-- The outcome of a check whose request amounts to a class. -/
def outcome : FailureClass → CheckOutcome
  | refused => .failed "connection_refused"
  | unresolved => .unknown "dns_failure"
  | timedOut => .unknown "timeout_exceeded"
  | unreachable number | numbered number => .unknown ("network_error:" ++ Errno.name (some number))
  | insecure => .unknown "tls_error"
  | unnumbered => .unknown "network_error:unknown"

/-- The class applies to a failed request, for the failures that led to it and for their messages. -/
def Applies (g : FailureGraph) : FailureClass → Prop
  | refused => ∃ f, g.Involves f ∧ f.ShowsRefusal
  | unresolved => (∃ f, g.Involves f ∧ f.kind = .nameResolution) ∨ ∃ message, g.Reads message ∧
      ∃ phrase ∈ ["name or service not known", "nodename nor servname", "getaddrinfo failed",
        "temporary failure in name resolution", "no address associated with hostname"],
        phrase.toList <:+: lower message.toList
  | timedOut => ∃ f, g.Involves f ∧ f.Reports Errno.timedOut
  | unreachable number =>
    g.FirstReported (fun n => n = Errno.networkUnreachable ∨ n = Errno.hostUnreachable) number
  | insecure => ∃ f, g.Involves f ∧
      (f.kind = .secureConnection ∨ "SSL".toList <:+: f.text.toList ∨ "TLS".toList <:+: f.text.toList)
  | numbered number => g.FirstReported (fun _ => True) number
  | unnumbered => True

/-- The class applies, and none before it does. -/
def IsFirst (g : FailureGraph) (c : FailureClass) : Prop :=
  c.Applies g ∧ ∀ c' : FailureClass, c'.Applies g → c.rank ≤ c'.rank

end FailureClass

/-! ## The first error number -/

/-- The first hit in a list without a turn is the one before all others. -/
theorem find?_filterMap_eq_some_iff {α β : Type} {R : α → α → Prop} {l : List α} (ordered : l.Pairwise R)
    (asymm : ∀ a b, R a b → ¬ R b a) (f : α → Option β) (p : β → Bool) (b : β) :
    (l.filterMap f).find? p = some b ↔
      ∃ a ∈ l, f a = some b ∧ p b = true ∧
        ∀ a' ∈ l, ∀ b', f a' = some b' → p b' = true → a' = a ∨ R a a' := by
  induction l with
  | nil => simp
  | cons x l ih =>
      obtain ⟨first, rest⟩ := List.pairwise_cons.mp ordered
      -- What stands in front changes nothing unless it is a hit.
      have passed (miss : ∀ c, f x = some c → ¬ p c = true) :
          (∃ a ∈ x :: l, f a = some b ∧ p b = true ∧
            ∀ a' ∈ x :: l, ∀ b', f a' = some b' → p b' = true → a' = a ∨ R a a') ↔
          ∃ a ∈ l, f a = some b ∧ p b = true ∧
            ∀ a' ∈ l, ∀ b', f a' = some b' → p b' = true → a' = a ∨ R a a' := by
        constructor
        · rintro ⟨a, here, is, hit, before⟩
          rcases List.mem_cons.mp here with rfl | later
          · exact absurd hit (miss b is)
          · exact ⟨a, later, is, hit, fun a' there => before a' (List.mem_cons_of_mem _ there)⟩
        · rintro ⟨a, here, is, hit, before⟩
          refine ⟨a, List.mem_cons_of_mem _ here, is, hit, fun a' there b' is' hit' => ?_⟩
          rcases List.mem_cons.mp there with rfl | later
          · exact absurd hit' (miss b' is')
          · exact before a' later b' is' hit'
      cases given : f x with
      | none =>
          rw [List.filterMap_cons_none given, ih rest, passed (by simp [given])]
      | some c =>
          rw [List.filterMap_cons_some given]
          by_cases hit : p c = true
          · rw [List.find?_cons_of_pos hit]
            constructor
            · rintro ⟨rfl⟩
              refine ⟨x, List.mem_cons_self, given, hit, fun a' there _ _ _ => ?_⟩
              exact (List.mem_cons.mp there).imp id (first a')
            · rintro ⟨a, here, is, -, before⟩
              rcases before x List.mem_cons_self c given hit with rfl | earlier
              · exact given.symm.trans is
              · rcases List.mem_cons.mp here with rfl | later
                · exact given.symm.trans is
                · exact absurd earlier (asymm x a (first a later))
          · rw [List.find?_cons_of_neg hit, ih rest, passed]
            intro c' given'
            obtain rfl := Option.some.inj (given.symm.trans given')
            exact hit

theorem FailureGraph.FirstReported.unique {g : FailureGraph} {kind : Int → Prop} {n n' : Int}
    (first : g.FirstReported kind n) (first' : g.FirstReported kind n') : n = n' := by
  obtain ⟨i, f, leads, here, reports, isKind, before⟩ := first
  obtain ⟨i', f', leads', here', reports', isKind', before'⟩ := first'
  have same : i = i' := by
    rcases before i' f' n' leads' here' reports' isKind' with same | earlier
    · exact same.symm
    · rcases before' i f n leads here reports isKind with same | later
      · exact same
      · exact absurd later earlier.asymm
  subst same
  obtain rfl := Option.some.inj (here.symm.trans here')
  exact Option.some.inj (reports.2.1.symm.trans reports'.2.1)

namespace Check

/-! ## What is read off the failures -/

section Read

variable (g : FailureGraph)

theorem number_eq_some_iff (f : Failure) (n : Int) :
    (if f.kind.isSystem then f.code.filter (· != 0) else none) = some n ↔ f.Reports n := by
  unfold Failure.Reports
  cases f.kind.isSystem <;> simp [Option.filter_eq_some_iff]

theorem mem_errorNumbers_reachable_iff (n : Int) :
    n ∈ errorNumbers g.reachable ↔ ∃ f, g.Involves f ∧ f.Reports n := by
  unfold errorNumbers
  rw [List.mem_filterMap]
  simp only [FailureGraph.mem_reachable_iff, number_eq_some_iff]

/-- The first error number of a kind that is found is the one that comes first, breadth first. -/
theorem find?_errorNumbers_reachable_iff {kind : Int → Prop} {p : Int → Bool}
    (decides : ∀ n, p n = true ↔ kind n) (n : Int) :
    (errorNumbers g.reachable).find? p = some n ↔ g.FirstReported kind n := by
  have number_iff (i : Nat) (n : Int) :
      (g[i]?.bind fun f => if f.kind.isSystem then f.code.filter (· != 0) else none) = some n ↔
        ∃ f, g[i]? = some f ∧ f.Reports n := by
    rw [Option.bind_eq_some_iff]
    simp only [number_eq_some_iff]
  have positions_iff {i : Nat} {f : Failure} (here : g[i]? = some f) :
      i ∈ g.reachablePositions ↔ g.Leads 0 i :=
    FailureGraph.mem_reachablePositions_iff g (List.getElem?_eq_some_iff.mp here).1
  unfold errorNumbers FailureGraph.reachable
  rw [List.filterMap_filterMap, find?_filterMap_eq_some_iff FailureGraph.pairwise_reachablePositions
    fun _ _ => FailureGraph.Earlier.asymm]
  simp only [number_iff, decides]
  constructor
  · rintro ⟨i, met, ⟨f, here, reports⟩, isKind, before⟩
    refine ⟨i, f, (positions_iff here).mp met, here, reports, isKind, fun j f' n' leads here' => ?_⟩
    exact fun reports' => before j ((positions_iff here').mpr leads) n' ⟨f', here', reports'⟩
  · rintro ⟨i, f, leads, here, reports, isKind, before⟩
    refine ⟨i, (positions_iff here).mpr leads, ⟨f, here, reports⟩, isKind, ?_⟩
    rintro j met n' ⟨f', here', reports'⟩
    exact before j f' n' ((positions_iff here').mp met) here' reports'

theorem any_kind_reachable_iff (kind : FailureKind) :
    g.reachable.any (·.kind == kind) = true ↔ ∃ f, g.Involves f ∧ f.kind = kind := by
  rw [List.any_eq_true]
  simp only [FailureGraph.mem_reachable_iff, beq_iff_eq]

/-- **The messages are those of the failures met**, for an order that has no ties arranges them in one way. -/
theorem reads_iff (message : String) :
    g.Reads message ↔ message = " ".intercalate (g.reachable.map (·.text)) := by
  have ordered : g.reachablePositions.Pairwise g.Earlier := FailureGraph.pairwise_reachablePositions
  constructor
  · rintro ⟨positions, members, sorted, rfl⟩
    have same : positions.Perm g.reachablePositions :=
      (List.perm_ext_iff_of_nodup (sorted.imp FailureGraph.Earlier.ne)
        (ordered.imp FailureGraph.Earlier.ne)).mpr fun i =>
          (members i).trans (FailureGraph.mem_reachablePositions_iff_leads g i).symm
    rw [same.eq_of_pairwise (fun i j _ _ before after => absurd after before.asymm) sorted ordered,
      FailureGraph.reachable]
  · rintro rfl
    exact ⟨g.reachablePositions, FailureGraph.mem_reachablePositions_iff_leads g, ordered, rfl⟩

/-- A word without a blank stands in the messages exactly if it stands in one of them. -/
theorem occurs_messages_iff {word : List Char} (given : word ≠ []) (plain : ' ' ∉ word) :
    occurs word (messages g.reachable) = true ↔ ∃ f, g.Involves f ∧ word <:+: f.text.toList := by
  have blank : " ".toList = [' '] := rfl
  rw [occurs_iff, messages, String.toList_intercalate, blank, infix_intercalate_iff given plain]
  simp only [List.mem_map, exists_exists_and_eq_and, FailureGraph.mem_reachable_iff]

theorem refused_iff : (g.reachable.any (·.kind == .connectionRefused) ||
    (errorNumbers g.reachable).contains Errno.connectionRefused) = true ↔
      FailureClass.refused.Applies g := by
  rw [any_kind_or_contains_iff]
  simp only [FailureGraph.mem_reachable_iff, FailureClass.Applies]

theorem unresolved_iff : (g.reachable.any (·.kind == .nameResolution) ||
    resolutionHints.any fun hint => occurs hint.toList (lower (messages g.reachable))) = true ↔
      FailureClass.unresolved.Applies g := by
  rw [Bool.or_eq_true, any_kind_reachable_iff, List.any_eq_true, FailureClass.Applies]
  simp only [reads_iff, exists_eq_left, occurs_iff]
  rfl

theorem timedOut_iff : (errorNumbers g.reachable).contains Errno.timedOut = true ↔
    FailureClass.timedOut.Applies g := by
  rw [List.contains_iff_mem, mem_errorNumbers_reachable_iff, FailureClass.Applies]

theorem unreachable_iff (n : Int) : ((errorNumbers g.reachable).find? fun n =>
    n == Errno.networkUnreachable || n == Errno.hostUnreachable) = some n ↔
      (FailureClass.unreachable n).Applies g := by
  unfold FailureClass.Applies
  exact find?_errorNumbers_reachable_iff g (fun n => by simp) n

theorem insecure_iff : (g.reachable.any (·.kind == .secureConnection) ||
    occurs "SSL".toList (messages g.reachable) || occurs "TLS".toList (messages g.reachable)) = true ↔
      FailureClass.insecure.Applies g := by
  rw [Bool.or_eq_true, Bool.or_eq_true, any_kind_reachable_iff,
    occurs_messages_iff g (by decide) (by decide), occurs_messages_iff g (by decide) (by decide),
    FailureClass.Applies, or_assoc]
  simp only [and_or_left, exists_or]

theorem numbered_iff (n : Int) : (errorNumbers g.reachable).head? = some n ↔
    (FailureClass.numbered n).Applies g := by
  rw [FailureClass.Applies, ← find?_errorNumbers_reachable_iff g (p := fun _ => true) (by simp)]
  cases errorNumbers g.reachable <;> simp

end Read

/-! ## Classes -/

theorem isFirst_of {g : FailureGraph} {c : FailureClass} (applies : c.Applies g)
    (none : ∀ c' : FailureClass, c'.rank < c.rank → ¬ c'.Applies g) : c.IsFirst g :=
  ⟨applies, fun c' applies' => Nat.le_of_not_lt fun less => none c' less applies'⟩

/-- Classes of one rank differ at most in the number that they name. -/
theorem eq_or_of_rank_eq {c c' : FailureClass} (same : c.rank = c'.rank) :
    c = c' ∨ (∃ n n', c = .unreachable n ∧ c' = .unreachable n') ∨
      ∃ n n', c = .numbered n ∧ c' = .numbered n' := by
  cases c <;> cases c' <;> simp [FailureClass.rank] at same ⊢

theorem isFirst_unique {g : FailureGraph} {c c' : FailureClass} (first : c.IsFirst g)
    (first' : c'.IsFirst g) : c = c' := by
  obtain ⟨applies, least⟩ := first
  obtain ⟨applies', least'⟩ := first'
  rcases eq_or_of_rank_eq (Nat.le_antisymm (least c' applies') (least' c applies)) with
    same | ⟨n, n', rfl, rfl⟩ | ⟨n, n', rfl, rfl⟩
  · exact same
  · unfold FailureClass.Applies at applies applies'
    rw [applies.unique applies']
  · unfold FailureClass.Applies at applies applies'
    rw [applies.unique applies']

/-- The outcome of a failed request is that of the first class that applies. -/
theorem exists_isFirst (g : FailureGraph) :
    ∃ c : FailureClass, c.IsFirst g ∧ transportOutcome g.reachable = c.outcome := by
  unfold transportOutcome
  dsimp only
  by_cases refused : FailureClass.refused.Applies g
  · rw [if_pos ((refused_iff g).mpr refused)]
    exact ⟨.refused, isFirst_of refused (by simp [FailureClass.rank]), rfl⟩
  rw [if_neg (mt (refused_iff g).mp refused)]
  by_cases unresolved : FailureClass.unresolved.Applies g
  · rw [if_pos ((unresolved_iff g).mpr unresolved)]
    refine ⟨.unresolved, isFirst_of unresolved fun c' less => ?_, rfl⟩
    cases c' <;> simp_all [FailureClass.rank]
  rw [if_neg (mt (unresolved_iff g).mp unresolved)]
  by_cases timedOut : FailureClass.timedOut.Applies g
  · rw [if_pos ((timedOut_iff g).mpr timedOut)]
    refine ⟨.timedOut, isFirst_of timedOut fun c' less => ?_, rfl⟩
    cases c' <;> simp_all [FailureClass.rank]
  rw [if_neg (mt (timedOut_iff g).mp timedOut)]
  split
  next n found =>
    refine ⟨.unreachable n, isFirst_of ((unreachable_iff g n).mp found) fun c' less => ?_, rfl⟩
    cases c' <;> simp_all [FailureClass.rank]
  next missing =>
    have reached : ∀ n, ¬ (FailureClass.unreachable n).Applies g := by
      intro n applies
      rw [(unreachable_iff g n).mpr applies] at missing
      cases missing
    by_cases insecure : FailureClass.insecure.Applies g
    · rw [if_pos ((insecure_iff g).mpr insecure)]
      refine ⟨.insecure, isFirst_of insecure fun c' less => ?_, rfl⟩
      cases c' <;> simp_all [FailureClass.rank]
    rw [if_neg (mt (insecure_iff g).mp insecure)]
    cases head : (errorNumbers g.reachable).head? with
    | some n =>
        refine ⟨.numbered n, isFirst_of ((numbered_iff g n).mp head) fun c' less => ?_, rfl⟩
        cases c' <;> simp_all [FailureClass.rank]
    | none =>
        have unnumbered : ∀ n, ¬ (FailureClass.numbered n).Applies g := by
          intro n applies
          rw [(numbered_iff g n).mpr applies] at head
          cases head
        refine ⟨.unnumbered, isFirst_of trivial fun c' less => ?_, rfl⟩
        cases c' <;> simp_all [FailureClass.rank]

/-- **What a failed request amounts to.**  The traversal of the failures ends, however they are shared and
whatever circles they form; it meets exactly the failures that the first one leads to, each once, and
breadth first.  The check is failed exactly if a refused connection is among them, and otherwise it is
unknown, for the first class that applies. -/
theorem transportOutcome_classified (g : FailureGraph) :
    (∀ met, g.Walks [] [0] met ↔ met = g.reachablePositions) ∧
      (g.reachablePositions.Nodup ∧
        ∀ j, j ∈ g.reachablePositions ↔ j < g.length ∧ g.Leads 0 j) ∧
      g.reachablePositions.Pairwise g.Earlier ∧
      (transportOutcome g.reachable = .failed "connection_refused" ↔
        ∃ f, g.Involves f ∧ f.ShowsRefusal) ∧
      ∃ c : FailureClass, c.IsFirst g ∧ (∀ c' : FailureClass, c'.IsFirst g → c' = c) ∧
        transportOutcome g.reachable = c.outcome := by
  have ordered : g.reachablePositions.Pairwise g.Earlier := FailureGraph.pairwise_reachablePositions
  obtain ⟨c, first, same⟩ := exists_isFirst g
  refine ⟨FailureGraph.walks_iff, ⟨ordered.imp FailureGraph.Earlier.ne,
    FailureGraph.mem_reachablePositions_iff_leads g⟩, ordered, ?_,
    c, first, fun c' first' => isFirst_unique first' first, same⟩
  rw [same]
  constructor
  · intro failed
    cases c with
    | refused => exact first.1
    | _ => simp [FailureClass.outcome, CheckOutcome.failed, CheckOutcome.unknown] at failed
  · intro refusal
    have least := first.2 .refused refusal
    cases c with
    | refused => rfl
    | _ => simp [FailureClass.rank] at least

end Check

end IntentSpec
