import IntentSpec.Proofs.Check.Question

/-!
# When the status of an answer decides

A request check is about the status of the answer, and it follows no redirection.  Still the location that
a redirection names is read, and where it cannot be read the status is lost.  So the status decides exactly
if the location is in order, besides what has to be in order with the parameters alone: the time limit is
a number of seconds, and the locator is read again as what it is.

* `Check.DecidedByStatus` — one request is made, and the outcome is what the status says.
* `Check.LocationReads` — the location of an answer is in order.
* `Check.run_decidedByStatus_iff` — the status decides exactly if the location is in order.
* `Check.not_decidedByStatus_strayLocation` — a redirection to a location with a port that is no number.
-/

namespace IntentSpec.Check

open Params

/-- The check makes one request, and its outcome depends on the status of the answer alone. -/
structure DecidedByStatus (expected status : Int) (q : Question) (trace : Trace) : Prop where
  once : trace.questions = [q]
  /-- With the status that is expected the check is passed. -/
  passed : status = expected → trace.outcome = .ok (.passed [("actual_status", .int status)])
  /-- With any other status it is failed. -/
  failed : status ≠ expected → trace.outcome = .ok
    (.failed ("status_mismatch:expected=" ++ toString expected ++ ",actual=" ++ toString status)
      (some [("actual_status", .int status)]))

/-- The location of an answer is a header that can be written, and if the answer is a redirection, then the
location can be followed and shown. -/
def LocationReads (status : Int) (location : Option String) : Prop :=
  ∀ l, location = some l →
    (∀ c ∈ l.toList, c.toNat < 0x80) ∧ (status ∈ redirections → Followable l ∧ LegibleLocation l)

theorem decidedByStatus_iff (expected status : Int) (q : Question) (trace : Trace) :
    DecidedByStatus expected status q trace ↔
      trace.questions = [q] ∧ trace.outcome = .ok (statusOutcome expected status) := by
  unfold statusOutcome
  constructor
  · rintro ⟨once, passed, failed⟩
    refine ⟨once, ?_⟩
    split
    next other => exact failed other
    next same => exact passed (not_not.mp same)
  · rintro ⟨once, outcome⟩
    exact ⟨once, fun same => by simpa [same] using outcome, fun other => by simpa [other] using outcome⟩

/-- What is unknown is not what a status says. -/
theorem statusOutcome_ne_unknown (expected status : Int) (reason : String) :
    statusOutcome expected status ≠ .unknown reason := by
  unfold statusOutcome
  split <;> simp [CheckOutcome.passed, CheckOutcome.failed, CheckOutcome.unknown]

theorem legible_and_obtains_iff (trouble : Option Trouble) (status : Int) (location : Option String) :
    (HttpAnswer.response status location).Legible trouble ∧
        (HttpAnswer.response status location).Obtains status ↔
      trouble = none ∧ LocationReads status location := by
  unfold HttpAnswer.Legible HttpAnswer.Obtains LocationReads
  constructor
  · rintro ⟨⟨untroubled, legible⟩, -, followable⟩
    refine ⟨untroubled, fun l given => ⟨(legible l given).1, fun redirects => ?_⟩⟩
    exact ⟨followable redirects l given, (legible l given).2 redirects⟩
  · rintro ⟨untroubled, reads⟩
    refine ⟨⟨untroubled, fun l given => ⟨(reads l given).1, fun redirects => ?_⟩⟩, rfl, ?_⟩
    · exact ((reads l given).2 redirects).2
    · intro redirects l given
      exact ((reads l given).2 redirects).1

/-- The outcome for an answer is what its status says exactly if nothing is wrong with the locator and the
location. -/
theorem httpOutcome_eq_statusOutcome_iff (expected : Int) (trouble : Option Trouble) (status : Int)
    (location : Option String) :
    httpOutcome expected trouble (.response status location) = .ok (statusOutcome expected status) ↔
      trouble = none ∧ LocationReads status location := by
  rw [← legible_and_obtains_iff]
  rcases httpOutcome_cases expected trouble (.response status location) with
    ⟨illegible, t, raised⟩ | ⟨legible, o, returned, settles⟩
  · exact iff_of_false (by simp [raised]) fun both => illegible both.1
  · rw [returned, Except.ok.injEq, and_iff_right legible]
    cases settles with
    | status actual obtained same =>
        obtain rfl : status = actual := obtained.1
        exact iff_of_true same obtained
    | refused refused reason same => exact refused.elim
    | unknown unanswered notRefused reason same =>
        rw [same]
        exact iff_of_false (statusOutcome_ne_unknown expected status reason).symm (unanswered status)

/-- A redirection to a location that cannot be followed leaves the check unknown. -/
theorem httpOutcome_of_not_followable (expected : Int) {status : Int} {location : String}
    (ascii : ∀ c ∈ location.toList, c.toNat < 0x80) (redirects : status ∈ redirections)
    (lost : ¬ Followable location) :
    ∃ reason, httpOutcome expected none (.response status (some location)) = .ok (.unknown reason) := by
  have legible : (HttpAnswer.response status (some location)).Legible none := by
    refine ⟨rfl, ?_⟩
    rintro _ ⟨rfl⟩
    refine ⟨ascii, fun _ url parsed placed => ?_⟩
    exact absurd ⟨url, parsed, placed⟩ lost
  rcases httpOutcome_cases expected none (.response status (some location)) with
    ⟨illegible, -⟩ | ⟨-, o, returned, settles⟩
  · exact absurd legible illegible
  · cases settles with
    | status actual obtained same => exact absurd (obtained.2 (obtained.1 ▸ redirects) _ rfl) lost
    | refused refused reason same => exact refused.elim
    | unknown unanswered notRefused reason same => exact ⟨reason, same ▸ returned⟩

section Answered

variable {context : CheckContext} {params : Params} {q : Question} {world : World} {status : Int}
  {location : Option String} (positive : context.Positive) (accepted : Accepted .httpEndpoint params)
  (asks : Asks context params .httpEndpoint q)
  (answered : world.reply q = .server (.response status location))
include positive accepted asks answered

theorem run_of_answered :
    (InTime context params .httpEndpoint → run world context .httpEndpoint params =
      { questions := [q]
        outcome := httpOutcome (integerOr "expected_status" 200 params) (locatorTrouble? params)
          (.response status location) }) ∧
      (¬ InTime context params .httpEndpoint → (run world context .httpEndpoint params).questions = []) := by
  obtain ⟨q', asks', course⟩ := run_of_accepted positive accepted
  obtain rfl := asks.unique asks'
  obtain ⟨early, late⟩ := course world
  rw [answered] at early
  exact ⟨early, fun overdue => by rw [late overdue]⟩

theorem decidedByStatus_run_iff :
    DecidedByStatus (integerOr "expected_status" 200 params) status q
        (run world context .httpEndpoint params) ↔
      InTime context params .httpEndpoint ∧ locatorTrouble? params = none ∧
        LocationReads status location := by
  obtain ⟨early, late⟩ := run_of_answered positive accepted asks answered
  rw [decidedByStatus_iff]
  by_cases inTime : InTime context params .httpEndpoint
  · rw [early inTime, and_iff_right rfl, and_iff_right inTime]
    exact httpOutcome_eq_statusOutcome_iff _ _ status location
  · rw [late inTime]
    exact iff_of_false (by simp) fun all => inTime all.1

end Answered

/-- **When the status decides.**  A check with accepted parameters has one question, and to whatever is
answered with a status and a location, the outcome is what the status says exactly if the time limit is a
number of seconds, the locator is read again as what it is, and the location is in order.  In time the
question is always asked once, and a redirection to a location that cannot be followed leaves the check
unknown. -/
theorem run_decidedByStatus_iff (context : CheckContext) (params : Params) (positive : context.Positive)
    (accepted : Accepted .httpEndpoint params) :
    ∃ q, Asks context params .httpEndpoint q ∧ ∀ (world : World) (status : Int) (location : Option String),
      world.reply q = .server (.response status location) →
        (DecidedByStatus (integerOr "expected_status" 200 params) status q
            (run world context .httpEndpoint params) ↔
          InTime context params .httpEndpoint ∧ locatorTrouble? params = none ∧
            LocationReads status location) ∧
        (InTime context params .httpEndpoint →
          (run world context .httpEndpoint params).questions = [q]) ∧
        (InTime context params .httpEndpoint → locatorTrouble? params = none →
          ∀ l, location = some l → (∀ c ∈ l.toList, c.toNat < 0x80) → status ∈ redirections →
            ¬ Followable l →
            ∃ reason, (run world context .httpEndpoint params).outcome = .ok (.unknown reason)) := by
  obtain ⟨q, asks, -⟩ := run_of_accepted positive accepted
  refine ⟨q, asks, fun world status location answered => ?_⟩
  obtain ⟨early, -⟩ := run_of_answered positive accepted asks answered
  refine ⟨decidedByStatus_run_iff positive accepted asks answered, fun inTime => by rw [early inTime], ?_⟩
  rintro inTime untroubled l rfl ascii redirects lost
  rw [early inTime, untroubled]
  exact httpOutcome_of_not_followable _ ascii redirects lost

/-- A world in which every server redirects to a location. -/
def redirectingWorld (location : String) : World where
  stat _ := .failed (some Errno.noEntry)
  run _ _ := .ok {}
  request _ _ _ := .response 302 (some location)

/-- The parameters of a check whose server is to answer with a redirection. -/
def redirectingSite : Params := [("url", "http://svc.test/"), ("expected_status", "302")]

theorem accepted_redirectingSite : Accepted .httpEndpoint redirectingSite := by
  unfold Accepted
  decide +kernel

theorem inTime_redirectingSite : InTime {} redirectingSite .httpEndpoint := by
  rw [inTime_iff rfl]
  decide +kernel

theorem reply_redirectingWorld {context : CheckContext} {params : Params} {q : Question}
    (asks : Asks context params .httpEndpoint q) (location : String) :
    (redirectingWorld location).reply q = .server (.response 302 (some location)) := by
  cases asks with
  | server => rfl

/-- A location on the same server is in order. -/
theorem locationReads_moved : LocationReads 302 (some "/moved") := by
  have parsed : Url.parse "/moved" = .ok { scheme := "", host := "", path := "/moved" } := by
    decide +kernel
  have shown : ({ scheme := "", host := "", path := "/moved" } : Url).shownHost = .ok "" := by
    decide +kernel
  have ascii : ("/moved".toList.all fun c => c.toNat < 0x80) = true := by
    decide +kernel
  rintro _ ⟨rfl⟩
  refine ⟨fun c here => by simpa using List.all_eq_true.mp ascii c here, fun _ => ?_⟩
  refine ⟨⟨_, parsed, by decide⟩, fun url parsed' _ => ?_⟩
  obtain rfl := Except.ok.inj (parsed.symm.trans parsed')
  exact ⟨⟨"", shown⟩, fun _ => rfl⟩

/-- A redirection on the same server is what is expected, and the check is passed. -/
theorem run_decidedByStatus_redirectingSite :
    ({} : CheckContext).Positive ∧ Accepted .httpEndpoint redirectingSite ∧
      ∃ q, Asks {} redirectingSite .httpEndpoint q ∧
        DecidedByStatus 302 302 q (run (redirectingWorld "/moved") {} .httpEndpoint redirectingSite) := by
  have positive : ({} : CheckContext).Positive := ⟨by decide, by decide⟩
  obtain ⟨q, asks, course⟩ :=
    run_decidedByStatus_iff {} redirectingSite positive accepted_redirectingSite
  refine ⟨positive, accepted_redirectingSite, q, asks, ?_⟩
  refine ((course _ _ _ (reply_redirectingWorld asks "/moved")).1).mpr ⟨inTime_redirectingSite, ?_,
    locationReads_moved⟩
  decide +kernel

/-- A redirection to a location whose port is no number loses the status that is expected. -/
theorem not_decidedByStatus_strayLocation :
    Accepted .httpEndpoint redirectingSite ∧ ∃ q, Asks {} redirectingSite .httpEndpoint q ∧
      (redirectingWorld "http://svc.test:port/").reply q =
        .server (.response 302 (some "http://svc.test:port/")) ∧
      ¬ DecidedByStatus 302 302 q
        (run (redirectingWorld "http://svc.test:port/") {} .httpEndpoint redirectingSite) := by
  have positive : ({} : CheckContext).Positive := ⟨by decide, by decide⟩
  obtain ⟨q, asks, -⟩ := run_of_accepted positive accepted_redirectingSite
  have answered := reply_redirectingWorld asks "http://svc.test:port/"
  have expected : integerOr "expected_status" 200 redirectingSite = 302 := by
    decide +kernel
  have decided_iff := decidedByStatus_run_iff positive accepted_redirectingSite asks answered
  rw [expected] at decided_iff
  refine ⟨accepted_redirectingSite, q, asks, answered, fun decided => ?_⟩
  obtain ⟨-, -, reads⟩ := decided_iff.mp decided
  obtain ⟨⟨url, parsed, -⟩, -⟩ := (reads _ rfl).2 (by decide)
  have stray : Url.parse "http://svc.test:port/" = .error (.port "port") := by
    decide +kernel
  cases stray.symm.trans parsed

end IntentSpec.Check
