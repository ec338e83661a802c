import IntentSpec.Check.Http
import IntentSpec.Proofs.Failure.Reachable
import Mathlib.Data.List.Basic

/-!
# What the answer of a server comes to

A request ends with a status, or it fails.  It also fails where a redirection names a location that is
read and cannot be followed, although none is.

The client reads the location of a redirection before it hands the answer on, in order to prepare a
request for it.  Reading can go wrong in ways that the check knows, and then it counts as a failed request; it can
also go wrong in ways that the check does not know, and then the check has no outcome at all.  The answers
that the check can deal with are set apart for this reason (`HttpAnswer.Legible`), and it is proved that
on all others there is no outcome, instead of leaving them out by a hypothesis.

* `HttpAnswer.Obtains` — a status is obtained.
* `HttpAnswer.Refused` — the request fails, and a refused connection led to it.
* `HttpAnswer.Legible` — the answer is one that the check can deal with.
* `Check.Settles` — how an answer settles a check.
* `Check.httpOutcome_cases` — what follows from each answer.
-/

namespace IntentSpec

/-! ## Failed requests -/

/-- The failure shows that a connection was refused. -/
def Failure.ShowsRefusal (f : Failure) : Prop :=
  f.kind = .connectionRefused ∨ f.kind.isSystem = true ∧ f.code = some Errno.connectionRefused

/-- The kinds of failures in which a request ends because its time is over. -/
def FailureKind.IsTimeout : FailureKind → Prop
  | timeout | requestTimeout _ => True
  | _ => False

/-- The kinds of failures in which a request ends otherwise, a refused connection among what may have led
to them. -/
def FailureKind.IsTransport : FailureKind → Prop
  | transport _ => True
  | _ => False

/-- The kinds of failures that a request is known to have. -/
def FailureKind.IsRequest : FailureKind → Prop
  | timeout | requestTimeout _ | unsupportedProtocol | invalidLocator | transport _ => True
  | _ => False

theorem FailureKind.IsTransport.not_isTimeout {kind : FailureKind} (transport : kind.IsTransport) :
    ¬ kind.IsTimeout := by
  intro timeout
  cases kind with
  | transport name => exact timeout
  | timeout | requestTimeout | unsupportedProtocol | invalidLocator | configuration
    | connectionRefused | nameResolution | secureConnection | system | several | other =>
      exact transport

/-! ## Locations -/

/-- A locator with a scheme and without a host has a path that fits behind no host. -/
def Url.Unplaced (url : Url) : Prop :=
  url.scheme ≠ "" ∧ url.host = "" ∧ url.path ≠ "" ∧ url.path.startsWith "/" = false

instance (url : Url) : Decidable url.Unplaced := inferInstanceAs (Decidable (_ ∧ _ ∧ _ ∧ _))

/-- A request can be made for a location. -/
def Followable (location : String) : Prop :=
  ∃ url, Url.parse location = .ok url ∧ ¬ url.Unplaced

/-- A location for which a request can be made has a host that can be shown, and an address where it
takes its scheme from the request. -/
def LegibleLocation (location : String) : Prop :=
  ∀ url, Url.parse location = .ok url → ¬ url.Unplaced →
    (∃ host, url.shownHost = .ok host) ∧ (url.scheme = "" → url.cutAddress? = none)

namespace HttpAnswer

/-- A status is obtained: the server answers with it, and if it is one of a redirection to a location,
then a request can be made for the location. -/
def Obtains (status : Int) : HttpAnswer → Prop
  | .response actual location => actual = status ∧
      (status ∈ Check.redirections → ∀ l, location = some l → Followable l)
  | .failed _ => False

/-- The request fails, though not because its time is over or its locator is not supported, and a
refused connection is among the failures that led to it. -/
def Refused : HttpAnswer → Prop
  | .failed failures => (∃ f, failures.head? = some f ∧ f.kind.IsTransport) ∧
      ∃ f, failures.Involves f ∧ f.ShowsRefusal
  | .response _ _ => False

/-- The time of the request is over. -/
def TimesOut : HttpAnswer → Prop
  | .failed failures => ∃ f, failures.head? = some f ∧ f.kind.IsTimeout
  | .response _ _ => False

/-- The check can deal with the answer, given what is wrong with the locator of the request when it is
read again. -/
def Legible (trouble : Option Trouble) : HttpAnswer → Prop
  | .failed failures => ∃ f, failures.head? = some f ∧ f.kind.IsRequest
  | .response status location => trouble = none ∧
      ∀ l, location = some l →
        (∀ c ∈ l.toList, c.toNat < 0x80) ∧ (status ∈ Check.redirections → LegibleLocation l)

theorem Obtains.unique {answer : HttpAnswer} {status status' : Int} (obtains : answer.Obtains status)
    (obtains' : answer.Obtains status') : status = status' := by
  cases answer with
  | response actual location => exact obtains.1.symm.trans obtains'.1
  | failed g => exact obtains.elim

end HttpAnswer

namespace Check

/-! ## Outcomes of failed requests -/

theorem any_kind_or_contains_iff (failures : List Failure) :
    (failures.any (·.kind == .connectionRefused) ||
        (errorNumbers failures).contains Errno.connectionRefused) = true ↔
      ∃ f ∈ failures, f.ShowsRefusal := by
  unfold errorNumbers Failure.ShowsRefusal
  rw [Bool.or_eq_true, List.any_eq_true, List.contains_iff_mem, List.mem_filterMap, ← exists_or]
  refine exists_congr fun f => ?_
  rw [← and_or_left, beq_iff_eq]
  refine and_congr_right fun _ => or_congr_right ?_
  cases f.kind.isSystem <;> simp [Option.filter_eq_some_iff, Errno.connectionRefused]

/-- A failed request is a failed check if a connection was refused, and leaves the check unknown
otherwise. -/
theorem transportOutcome_cases (failures : List Failure) :
    ((∃ f ∈ failures, f.ShowsRefusal) ∧ transportOutcome failures = .failed "connection_refused") ∨
      ((¬ ∃ f ∈ failures, f.ShowsRefusal) ∧ ∃ reason, transportOutcome failures = .unknown reason) := by
  rw [← any_kind_or_contains_iff]
  unfold transportOutcome
  dsimp only
  split
  next refused => exact Or.inl ⟨refused, rfl⟩
  next notRefused =>
    refine Or.inr ⟨notRefused, ?_⟩
    split
    · exact ⟨_, rfl⟩
    · split
      · exact ⟨_, rfl⟩
      · split
        · exact ⟨_, rfl⟩
        · split <;> exact ⟨_, rfl⟩

/-- What a failed request comes to, by the failure in which it ends. -/
theorem requestFailure_cases (g : FailureGraph) :
    ((¬ ∃ f, g.head? = some f ∧ f.kind.IsRequest) ∧ requestFailure g = .error (.failed g)) ∨
      ∃ f, g.head? = some f ∧ f.kind.IsRequest ∧
        (f.kind.IsTransport ∧ requestFailure g = .ok (transportOutcome g.reachable) ∨
          ¬ f.kind.IsTransport ∧ ∃ reason, requestFailure g = .ok (.unknown reason)) := by
  cases g with
  | nil => exact Or.inl ⟨by simp, rfl⟩
  | cons f g =>
      unfold requestFailure
      cases kind : f.kind with
      | timeout | requestTimeout | unsupportedProtocol | invalidLocator =>
          exact Or.inr ⟨f, rfl, by simp [kind, FailureKind.IsRequest],
            Or.inr ⟨by simp [kind, FailureKind.IsTransport], by simp only [kind]; exact ⟨_, rfl⟩⟩⟩
      | transport =>
          exact Or.inr ⟨f, rfl, by simp [kind, FailureKind.IsRequest],
            Or.inl ⟨by simp [kind, FailureKind.IsTransport], by simp only [kind]⟩⟩
      | configuration | connectionRefused | nameResolution | secureConnection | system | several
        | other =>
          exact Or.inl ⟨by simp [kind, FailureKind.IsRequest], by simp only [kind]⟩

/-- How an answer settles a check. -/
inductive Settles (expected : Int) (answer : HttpAnswer) (o : CheckOutcome) : Prop where
  /-- A status is obtained and compared. -/
  | status (status : Int) (obtained : answer.Obtains status) (same : o = statusOutcome expected status)
  | refused (refused : answer.Refused) (reason : String) (same : o = .failed reason)
  /-- There is neither a status nor a refusal. -/
  | unknown (unanswered : ∀ status, ¬ answer.Obtains status) (notRefused : ¬ answer.Refused)
      (reason : String) (same : o = .unknown reason)

/-- An answer that the check can deal with settles it, and no other has an outcome. -/
def Answers (expected : Int) (trouble : Option Trouble) (answer : HttpAnswer) : Prop :=
  (¬ answer.Legible trouble ∧ ∃ t, httpOutcome expected trouble answer = .error t) ∨
    (answer.Legible trouble ∧
      ∃ o, httpOutcome expected trouble answer = .ok o ∧ Settles expected answer o)

theorem answers_failed (expected : Int) (trouble : Option Trouble) (g : FailureGraph) :
    Answers expected trouble (.failed g) := by
  have opened : httpOutcome expected trouble (.failed g) = requestFailure g := rfl
  unfold Answers
  rw [opened]
  rcases requestFailure_cases g with ⟨unknown, raised⟩ |
    ⟨f, head, request, ⟨transport, outcome⟩ | ⟨other, reason, outcome⟩⟩
  · exact Or.inl ⟨unknown, _, raised⟩
  · refine Or.inr ⟨⟨f, head, request⟩, _, outcome, ?_⟩
    have refused_iff : (HttpAnswer.failed g).Refused ↔ ∃ f ∈ g.reachable, f.ShowsRefusal := by
      simp only [HttpAnswer.Refused, FailureGraph.mem_reachable_iff]
      exact and_iff_right ⟨f, head, transport⟩
    -- A refused connection counts however far it lies behind the failure that ends the request.
    rcases transportOutcome_cases g.reachable with ⟨refused, same⟩ | ⟨notRefused, reason, same⟩
    · exact .refused (refused_iff.mpr refused) _ same
    · exact .unknown (fun _ => id) (fun h => notRefused (refused_iff.mp h)) reason same
  · refine Or.inr ⟨⟨f, head, request⟩, _, outcome, .unknown (fun _ => id) ?_ reason rfl⟩
    rintro ⟨⟨f', head', transport⟩, -⟩
    obtain rfl := Option.some.inj (head.symm.trans head')
    exact other transport

/-! ## Outcomes of answers -/

/-- The failure for a location that is no locator shows no refused connection. -/
theorem requestFailure_badLocation (fault : Url.Fault) :
    ∃ reason, requestFailure (badLocation fault) = .ok (.unknown reason) := by
  have returned : requestFailure (badLocation fault) =
      .ok (transportOutcome (badLocation fault).reachable) := rfl
  rw [returned]
  rcases transportOutcome_cases (badLocation fault).reachable with ⟨⟨f, met, refusal⟩, -⟩ |
    ⟨-, reason, same⟩
  · have known : f ∈ badLocation fault := by
      obtain ⟨i, -, here⟩ := List.mem_filterMap.mp met
      exact List.mem_of_getElem? here
    exfalso
    unfold badLocation at known
    simp only [List.mem_cons, List.not_mem_nil, or_false] at known
    rcases known with rfl | rfl <;> simp [Failure.ShowsRefusal, FailureKind.isSystem] at refusal
  · exact ⟨reason, by rw [same]⟩

/-- What reading a location comes to. -/
theorem readLocation_cases (location : String) :
    (Followable location ∧ LegibleLocation location ∧ readLocation location = .ok ()) ∨
      (¬ Followable location ∧ LegibleLocation location ∧
        ∃ reason, readLocation location = .error (.ok (.unknown reason))) ∨
      (¬ LegibleLocation location ∧ ∃ trouble, readLocation location = .error (.error trouble)) := by
  cases parsed : Url.parse location with
  | error fault =>
      obtain ⟨reason, unknown⟩ := requestFailure_badLocation fault
      refine Or.inr (Or.inl ⟨?_, ?_, reason, ?_⟩)
      · rintro ⟨url, parsed', -⟩
        rw [parsed] at parsed'
        cases parsed'
      · intro url parsed'
        rw [parsed] at parsed'
        cases parsed'
      · simp only [readLocation, parsed, unknown]
  | ok url =>
      have unplaced_iff : (url.scheme != "" && url.host == "" && url.path != "" &&
          !url.path.startsWith "/") = true ↔ url.Unplaced := by
        simp [Url.Unplaced, and_assoc]
      have followable : Followable location ↔ ¬ url.Unplaced := by
        simp [Followable, parsed]
      have legible : LegibleLocation location ↔ ¬ url.Unplaced →
          (∃ host, url.shownHost = .ok host) ∧ (url.scheme = "" → url.cutAddress? = none) := by
        simp [LegibleLocation, parsed]
      rw [followable, legible]
      unfold readLocation
      simp only [parsed, unplaced_iff]
      by_cases unplaced : url.Unplaced
      · exact Or.inr (Or.inl ⟨by simp [unplaced], by simp [unplaced], _, by rw [if_pos unplaced]⟩)
      · simp only [if_neg unplaced]
        cases shown : url.shownHost <;> by_cases relative : url.scheme = "" <;>
          cases cut : url.cutAddress? <;> simp [unplaced, relative, beq_iff_eq]

/-- A status with a location that is not to be followed, or with none. -/
theorem answers_plain {expected status : Int} {location : Option String}
    (ascii : ∀ l, location = some l → ∀ c ∈ l.toList, c.toNat < 0x80)
    (stays : status ∈ redirections → location = none) :
    Answers expected none (.response status location) := by
  have unread : (if redirections.contains status then location else none) = none := by
    split
    next redirects => exact stays (by simpa using redirects)
    next => rfl
  have plain : ¬ (location.any fun l => l.toList.any fun c => 0x80 ≤ c.toNat) = true := by
    cases location with
    | none => simp
    | some l => simpa using ascii l rfl
  have outcome : httpOutcome expected none (.response status location) =
      .ok (statusOutcome expected status) := by
    unfold httpOutcome
    dsimp only
    rw [if_neg plain, unread]
  have unlocated : ∀ l, location = some l → status ∉ redirections := by
    rintro l rfl redirects
    cases stays redirects
  refine Or.inr ⟨⟨rfl, fun l given => ⟨ascii l given, fun redirects => ?_⟩⟩, _, outcome,
    .status status ⟨rfl, fun redirects l given => ?_⟩ rfl⟩
  · exact absurd redirects (unlocated l given)
  · exact absurd redirects (unlocated l given)

/-- A redirection to a location, which is read. -/
theorem answers_redirection {expected status : Int} {l : String}
    (ascii : ∀ c ∈ l.toList, c.toNat < 0x80) (redirects : status ∈ redirections) :
    Answers expected none (.response status (some l)) := by
  have plain : ¬ ((some l).any fun l => l.toList.any fun c => 0x80 ≤ c.toNat) = true := by
    simpa using ascii
  have contained : redirections.contains status = true := by
    simpa using redirects
  have followed : readLocation l = .ok () →
      httpOutcome expected none (.response status (some l)) = .ok (statusOutcome expected status) :=
    fun read => by simp only [httpOutcome, if_neg plain, if_pos contained, read]
  have stopped : ∀ outcome, readLocation l = .error outcome →
      httpOutcome expected none (.response status (some l)) = outcome :=
    fun outcome read => by simp only [httpOutcome, if_neg plain, if_pos contained, read]
  have legible_iff : HttpAnswer.Legible none (.response status (some l)) ↔ LegibleLocation l := by
    simp only [HttpAnswer.Legible, Option.some.injEq, forall_eq', true_and, redirects, forall_const]
    exact and_iff_right ascii
  have obtains_iff : ∀ n, HttpAnswer.Obtains n (.response status (some l)) ↔
      status = n ∧ Followable l := by
    intro n
    simp only [HttpAnswer.Obtains, Option.some.injEq, forall_eq']
    refine and_congr_right ?_
    rintro rfl
    simp [redirects]
  unfold Answers
  rw [legible_iff]
  rcases readLocation_cases l with ⟨followable, legible, read⟩ | ⟨lost, legible, reason, read⟩ |
    ⟨illegible, t, read⟩
  · exact Or.inr ⟨legible, _, followed read,
      .status status ((obtains_iff status).mpr ⟨rfl, followable⟩) rfl⟩
  · exact Or.inr ⟨legible, _, stopped _ read,
      .unknown (fun n obtained => lost ((obtains_iff n).mp obtained).2) id reason rfl⟩
  · exact Or.inl ⟨illegible, t, stopped _ read⟩

/-- A location beyond ASCII, whatever the status is. -/
theorem answers_not_ascii {l : String} {c : Char} (here : c ∈ l.toList) (beyond : 0x80 ≤ c.toNat)
    (expected : Int) (trouble : Option Trouble) (status : Int) :
    Answers expected trouble (.response status (some l)) := by
  have found : ((some l).any fun l => l.toList.any fun c => 0x80 ≤ c.toNat) = true := by
    rw [Option.any_some, List.any_eq_true]
    exact ⟨c, here, by simpa using beyond⟩
  refine Or.inl ⟨fun legible => ?_, .notAscii, ?_⟩
  · exact absurd ((legible.2 l rfl).1 c here) (by omega)
  · unfold httpOutcome
    dsimp only
    rw [if_pos found]

/-- A status from a locator that is read again as something else. -/
theorem answers_trouble (expected : Int) (trouble : Trouble) (status : Int)
    (location : Option String) : Answers expected (some trouble) (.response status location) := by
  refine Or.inl ⟨fun legible => Option.some_ne_none trouble legible.1, ?_⟩
  unfold httpOutcome
  dsimp only
  split
  · exact ⟨_, rfl⟩
  · exact ⟨_, rfl⟩

/-- **What follows from an answer.**  The check has an outcome exactly if it can deal with the answer,
and then the outcome is settled by a status or by a refused connection, or else it is unknown. -/
theorem httpOutcome_cases (expected : Int) (trouble : Option Trouble) (answer : HttpAnswer) :
    Answers expected trouble answer := by
  cases answer with
  | failed g => exact answers_failed expected trouble g
  | response status location =>
      cases trouble with
      | some trouble => exact answers_trouble expected trouble status location
      | none =>
          cases location with
          | none => exact answers_plain (fun l given => by cases given) fun _ => rfl
          | some l =>
              by_cases ascii : ∀ c ∈ l.toList, c.toNat < 0x80
              · by_cases redirects : status ∈ redirections
                · exact answers_redirection ascii redirects
                · refine answers_plain (fun l' given => ?_) fun h => absurd h redirects
                  obtain rfl := Option.some.inj given
                  exact ascii
              · push Not at ascii
                obtain ⟨c, here, beyond⟩ := ascii
                exact answers_not_ascii here beyond expected none status

end Check

end IntentSpec
