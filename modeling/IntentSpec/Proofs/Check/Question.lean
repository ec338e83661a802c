import IntentSpec.Check.Verify
import IntentSpec.Proofs.Check.Answer
import IntentSpec.Proofs.Number.Rounding
import IntentSpec.Proofs.Predicate.Acceptance

/-!
# What a check with accepted parameters asks

A check whose parameters are accepted asks one question, which its parameters determine, and its outcome
follows from the reply alone (`run_of_accepted`).  The one thing that comes in between is its time limit:
milliseconds are an integer of any size, and seconds a floating-point number.

The course of a check is taken apart along the monad in which it is written.  A part that only reads parameters
is an attempt that is lifted, and asks nothing; the access to the world asks its question and nothing else.  With
one equation for each of these the questions of a check, and their number, follow from its text, and no
later proof looks into the layers of the monad.

* `Trace.of_lift_bind` — what follows an attempt is reached only with its value.
* `Trace.of_ask` — an access asks one question, if the rest is an attempt to deal with the answer.
* `Asks` — the question of a check.
* `InTime` — the time limit of a check is a number of seconds.
* `settle` — the outcome that a reply leads to.
* `run_returns_iff` — a check with accepted parameters has an outcome exactly if its time limit is a
  number of seconds and it can deal with the reply.
* `not_returns_centuries` — a time limit that is accepted, and is no number of seconds.
-/

namespace IntentSpec

open Params

/-! ## Asking -/

section Asking

variable (world : World)

/-- What follows an attempt that fails is not reached. -/
theorem Trace.of_lift_bind {α : Type} (attempt : Except Trouble α) (next : α → Inquiry CheckOutcome) :
    Trace.of world (liftM attempt >>= next) =
      match attempt with
      | .ok a => Trace.of world (next a)
      | .error trouble => { outcome := .error trouble } := by
  cases attempt <;> rfl

/-- **An access asks one question**, if nothing is asked about the answer. -/
theorem Trace.of_ask {q : Question} {next : q.Answer → Inquiry CheckOutcome}
    {attempt : Except Trouble CheckOutcome} (quiet : next (world.answer q) = liftM attempt) :
    Trace.of world (Inquiry.ask q >>= next) = { questions := [q], outcome := attempt } := by
  have first : (Inquiry.ask q >>= next : Inquiry CheckOutcome) world [] = next (world.answer q) world [q] := rfl
  unfold Trace.of ExceptT.run
  rw [first, quiet]
  cases attempt <;> rfl

end Asking

/-! ## Questions and replies -/

/-- What the world replies to a question. -/
inductive Reply where
  | file (answer : FileAnswer)
  /-- How a command ended, or that it could not be asked for. -/
  | command (answer : Except FailureGraph CommandAnswer)
  | server (answer : HttpAnswer)

/-- The reply to a question. -/
def World.reply (world : World) : Question → Reply
  | .stat path => .file (world.stat path)
  | .command argv limit => .command (world.run argv limit)
  | .request method locator limit => .server (world.request method locator limit)

/-- Positive limits. -/
structure CheckContext.Positive (context : CheckContext) : Prop where
  /-- The time limit of a command. -/
  command : 0 < context.commandTimeout
  /-- The time limit of a request. -/
  http : 0 < context.httpTimeout

/-- Settings that can be made. -/
def VerificationSettings.Admitted (settings : VerificationSettings) : Prop :=
  ∃ get, VerificationSettings.ofFields get = .ok settings

theorem positiveField_pos {type name : String} {default n : Int} {given : Option Datum}
    (positive : 0 < default) (read : positiveField type name default given = .ok n) : 0 < n := by
  unfold positiveField at read
  split at read
  · exact Except.ok.inj read ▸ positive
  · split at read
    next some => exact Except.ok.inj read ▸ some
    next => cases read
  · cases read

theorem VerificationSettings.Admitted.positive {settings : VerificationSettings}
    (admitted : settings.Admitted) : settings.toCheckContext.Positive := by
  obtain ⟨get, made⟩ := admitted
  unfold ofFields at made
  simp only [bind, Except.bind, pure, Except.pure] at made
  split at made
  · cases made
  · split at made
    · cases made
    next commandTimeout command =>
      split at made
      · cases made
      next httpTimeout http =>
        split at made
        · cases made
        · obtain rfl := Except.ok.inj made
          exact ⟨positiveField_pos (by decide) command, positiveField_pos (by decide) http⟩

namespace Check

/-- The time limit of a check in milliseconds, if it has one. -/
def timeLimit? (context : CheckContext) (params : Params) : Capability → Option Int
  | .fileExists => none
  | .commandExit => some (integerOr "timeout_ms" context.commandTimeout params)
  | .httpEndpoint => some (integerOr "timeout_ms" context.httpTimeout params)

/-- The time limit of a check, if it has one, is less than what is rounded to infinity. -/
def InTime (context : CheckContext) (params : Params) (capability : Capability) : Prop :=
  ∀ limit, timeLimit? context params capability = some limit →
    limit < 1000 * (Binary64.overflowBound : Int)

theorem inTime_iff {context : CheckContext} {params : Params} {capability : Capability} {limit : Int}
    (limited : timeLimit? context params capability = some limit) :
    InTime context params capability ↔ limit < 1000 * (Binary64.overflowBound : Int) := by
  unfold InTime
  rw [limited]
  constructor
  · intro early
    exact early limit rfl
  · rintro early _ ⟨rfl⟩
    exact early

/-- The method of a request. -/
def requestMethod (params : Params) : String :=
  upperMethod (((value? "method" params).filter (· != "")).getD "GET")

/-- The question of a check with given parameters. -/
inductive Asks (context : CheckContext) (params : Params) : Capability → Question → Prop where
  /-- A file check asks what stands at its path. -/
  | file {path : String} (given : value? "path" params = some path) :
    Asks context params .fileExists (.stat path)
  /-- A command check asks how its command ends, its arguments being those between commas that are not
  empty. -/
  | command {cmd args : String} (named : value? "cmd" params = some cmd)
    (given : value? "args" params = some args) :
    Asks context params .commandExit (.command (argv cmd args)
      (.ofIntRatio (integerOr "timeout_ms" context.commandTimeout params) 1000))
  /-- A request check asks how its locator is answered. -/
  | server {text : String} (located : value? "url" params = some text) :
    Asks context params .httpEndpoint (.request (requestMethod params) text
      (.ofIntRatio (integerOr "timeout_ms" context.httpTimeout params) 1000))

/-- What is wrong with the locator of a request when it is read again for the answer. -/
def locatorTrouble? (params : Params) : Option Trouble :=
  match (value? "url" params).map Url.parse with
  | some (.ok url) => url.cutAddress?.map .noAddress
  | _ => none

/-- The outcome that a reply leads to. -/
def settle (context : CheckContext) (params : Params) : Reply → Except Trouble CheckOutcome
  | .file answer => .ok <| statOutcome ((value? "type" params).filter (· != ""))
      ((value? "min_size_bytes" params).bind Text.exactInteger?) answer
  | .command (.ok answer) =>
    .ok (commandOutcome context.maxOutput (integerOr "expected_exit" 0 params) answer)
  | .command (.error failures) => .error (.failed failures)
  | .server answer =>
    httpOutcome (integerOr "expected_status" 200 params) (locatorTrouble? params) answer

/-! ## Accepted parameters -/

theorem integer?_of_sound {key : String} {good : Int → Bool} {params : Params}
    (sound : integerFault? key good params = none) :
    integer? key params = .ok ((value? key params).bind Text.exactInteger?) := by
  unfold integer?
  cases given : value? key params with
  | none => rfl
  | some text =>
      obtain ⟨n, exact, -⟩ := (integerFault?_eq_none_iff ..).mp sound text given
      obtain ⟨read, -⟩ := (Text.exactInteger?_eq_some_iff ..).mp exact
      simp only [read, exact, Option.bind_some]

/-- Positive milliseconds are a number of seconds exactly below the bound. -/
theorem seconds_of_pos {limit : Int} (positive : 0 < limit) :
    seconds limit =
      if limit < 1000 * (Binary64.overflowBound : Int) then .ok (.ofIntRatio limit 1000)
      else .error .overflow := by
  unfold seconds
  have finite : (Binary64.ofIntRatio limit 1000).isFinite = true ↔
      limit < 1000 * (Binary64.overflowBound : Int) := by
    unfold Binary64.ofIntRatio
    rw [Binary64.isFinite_ofRatio_iff _ (by omega) (by decide)]
    omega
  simp only [finite]

/-- A time limit that is not less than a millisecond is no refused one. -/
theorem check_of_pos {cmd args : String} {limit : Int} (positive : 0 < limit) :
    CommandSpec.check { argv := argv cmd args, timeout := some (.ofIntRatio limit 1000) } =
      .ok { argv := argv cmd args, timeout := some (.ofIntRatio limit 1000) } := by
  have least : 1000 ≤ limit.natAbs * twoTo 1074 := by
    have room : 1000 ≤ twoTo 1074 := by
      have split : twoTo 1074 = twoTo 10 * twoTo 1064 := twoTo_add 10 1064
      rw [split]
      exact le_trans (by decide) (Nat.le_mul_of_pos_right (twoTo 10) (twoTo_pos 1064))
    exact le_trans room (Nat.le_mul_of_pos_left _ (by omega))
  have unsigned : decide (limit < 0) = false := decide_eq_false (by omega)
  obtain ⟨some, sign⟩ := Binary64.positive_ofRatio (by decide) least
  unfold CommandSpec.check
  rw [if_neg (by simp [argv]), if_neg]
  simp [Binary64.ofIntRatio, unsigned, some, sign]

theorem fileQuestion_of_accepted {params : Params} (accepted : Accepted .fileExists params) :
    ∃ path, value? "path" params = some path ∧
      fileQuestion params = .ok (path, (value? "type" params).filter (· != ""),
        (value? "min_size_bytes" params).bind Text.exactInteger?) := by
  obtain ⟨⟨path, given⟩, size⟩ := accepted_file accepted
  refine ⟨path, given, ?_⟩
  unfold fileQuestion need
  rw [given, integer?_of_sound size]
  rfl

theorem commandQuestion_of_accepted {context : CheckContext} {params : Params}
    (positive : context.Positive) (accepted : Accepted .commandExit params) :
    ∃ cmd args, value? "cmd" params = some cmd ∧ value? "args" params = some args ∧
      (InTime context params .commandExit → commandQuestion context params =
        .ok (integerOr "expected_exit" 0 params, argv cmd args,
          .ofIntRatio (integerOr "timeout_ms" context.commandTimeout params) 1000)) ∧
      (¬ InTime context params .commandExit → commandQuestion context params = .error .overflow) := by
  obtain ⟨⟨cmd, named⟩, ⟨args, given⟩, status, time⟩ := accepted_command accepted
  have limit := timeoutFault?_eq_none time positive.command
  refine ⟨cmd, args, named, given, ?_⟩
  rw [inTime_iff rfl]
  rw [integerOr_eq] at limit ⊢
  unfold commandQuestion need
  simp only [integer?_of_sound status, integer?_of_sound time, named, given, bind, Except.bind,
    seconds_of_pos limit]
  refine ⟨fun early => ?_, fun late => ?_⟩
  · -- The limit is not rounded to zero, which the command would refuse.
    simp only [if_pos early, check_of_pos limit]
    rfl
  · simp only [if_neg late]

theorem httpQuestion_of_accepted {context : CheckContext} {params : Params} {text : String}
    (positive : context.Positive) (accepted : Accepted .httpEndpoint params)
    (located : value? "url" params = some text) :
    (InTime context params .httpEndpoint → httpQuestion context params =
        .ok (requestMethod params, integerOr "expected_status" 200 params,
          .ofIntRatio (integerOr "timeout_ms" context.httpTimeout params) 1000, text)) ∧
      (¬ InTime context params .httpEndpoint → httpQuestion context params = .error .overflow) := by
  obtain ⟨-, status, time⟩ := accepted_http accepted
  have limit := timeoutFault?_eq_none time positive.http
  have opened : httpQuestion context params =
      (seconds (integerOr "timeout_ms" context.httpTimeout params)).bind fun limit =>
        .ok (requestMethod params, integerOr "expected_status" 200 params, limit, text) := by
    unfold httpQuestion need
    simp only [integer?_of_sound status, integer?_of_sound time, located, bind, Except.bind,
      integerOr_eq]
    rfl
  rw [opened, seconds_of_pos limit, inTime_iff rfl]
  refine ⟨fun early => ?_, fun late => ?_⟩
  · rw [if_pos early]
    rfl
  · rw [if_neg late]
    rfl

/-! ## The course of a check -/

/-- **The course of a check with accepted parameters.**  If its time limit is a number of seconds, then it
asks its question, and the reply leads to its outcome; otherwise it asks nothing and has no outcome. -/
theorem run_of_accepted {context : CheckContext} (positive : context.Positive) {capability : Capability}
    {params : Params} (accepted : Accepted capability params) :
    ∃ q, Asks context params capability q ∧ ∀ world,
      (InTime context params capability → run world context capability params =
        { questions := [q], outcome := settle context params (world.reply q) }) ∧
      (¬ InTime context params capability → run world context capability params =
        { outcome := .error .overflow }) := by
  cases capability with
  | fileExists =>
      obtain ⟨path, given, question⟩ := fileQuestion_of_accepted accepted
      refine ⟨_, .file given, fun world => ⟨fun _ => ?_, fun late => ?_⟩⟩
      · simp only [run, inquiry, file, question, Trace.of_lift_bind]
        exact Trace.of_ask world rfl
      · -- A check without a time limit is always in time.
        exact absurd (fun _ none => by cases none) late
  | commandExit =>
      obtain ⟨cmd, args, named, given, question, none⟩ := commandQuestion_of_accepted positive accepted
      refine ⟨_, .command named given, fun world => ⟨fun early => ?_, fun late => ?_⟩⟩
      · simp only [run, inquiry, command, question early, Trace.of_lift_bind]
        refine Trace.of_ask world ?_
        simp only [World.answer, World.reply]
        cases world.run (argv cmd args) _ <;> rfl
      · simp only [run, inquiry, command, none late, Trace.of_lift_bind]
  | httpEndpoint =>
      obtain ⟨⟨text, url, host, located, parsed, absolute, shown⟩, -⟩ := accepted_http accepted
      obtain ⟨question, none⟩ := httpQuestion_of_accepted positive accepted located
      -- The locator that was accepted is read again, once to send the request and once for the answer.
      have trouble : locatorTrouble? params = url.cutAddress?.map .noAddress := by
        simp [locatorTrouble?, located, parsed]
      refine ⟨_, .server located, fun world => ⟨fun early => ?_, fun late => ?_⟩⟩
      · simp only [run, inquiry, http, question early, Trace.of_lift_bind, parsed, absolute, shown, if_true,
          settle, World.reply, trouble]
        exact Trace.of_ask world rfl
      · simp only [run, inquiry, http, none late, Trace.of_lift_bind]

/-- The parameters determine the question. -/
theorem Asks.unique {context : CheckContext} {params : Params} {capability : Capability}
    {q q' : Question} (asks : Asks context params capability q)
    (asks' : Asks context params capability q') : q = q' := by
  cases asks with
  | file given =>
      cases asks' with
      | file given' => rw [Option.some.inj (given.symm.trans given')]
  | command named given =>
      cases asks' with
      | command named' given' =>
          rw [Option.some.inj (named.symm.trans named'), Option.some.inj (given.symm.trans given')]
  | server located =>
      cases asks' with
      | server located' => rw [Option.some.inj (located.symm.trans located')]

/-- The check can deal with a reply. -/
def Foreseen (params : Params) : Reply → Prop
  | .file _ => True
  | .command answer => ∃ a, answer = .ok a
  | .server answer => answer.Legible (locatorTrouble? params)

theorem settle_returns_iff (context : CheckContext) (params : Params) (reply : Reply) :
    (∃ o, settle context params reply = .ok o) ↔ Foreseen params reply := by
  cases reply with
  | file answer => exact iff_of_true ⟨_, rfl⟩ trivial
  | command answer => cases answer <;> simp [settle, Foreseen]
  | server answer =>
      unfold settle Foreseen
      rcases httpOutcome_cases (integerOr "expected_status" 200 params) (locatorTrouble? params)
        answer with ⟨illegible, t, raised⟩ | ⟨legible, o, returned, -⟩
      · exact iff_of_false (by simp [raised]) illegible
      · exact iff_of_true ⟨o, returned⟩ legible

/-- **When a check with accepted parameters has an outcome.**  It has one exactly if its time limit is a
number of seconds and it can deal with the reply to its question. -/
theorem run_returns_iff (world : World) (settings : VerificationSettings) (capability : Capability)
    (params : Params) (admitted : settings.Admitted) (accepted : Accepted capability params) :
    (∃ o, (run world settings.toCheckContext capability params).outcome = .ok o) ↔
      InTime settings.toCheckContext params capability ∧
        ∃ q, Asks settings.toCheckContext params capability q ∧ Foreseen params (world.reply q) := by
  obtain ⟨q, asks, course⟩ := run_of_accepted admitted.positive accepted
  obtain ⟨early, late⟩ := course world
  by_cases inTime : InTime settings.toCheckContext params capability
  · rw [early inTime, settle_returns_iff]
    constructor
    · intro foreseen
      exact ⟨inTime, q, asks, foreseen⟩
    · rintro ⟨-, q', asks', foreseen⟩
      rwa [asks.unique asks']
  · rw [late inTime]
    exact iff_of_false (by simp) fun returns => inTime returns.1

/-! ## Time limits that are no number of seconds -/

/-- A world without files in which every command succeeds and every server answers. -/
def emptyWorld : World where
  stat _ := .failed (some Errno.noEntry)
  run _ _ := .ok {}
  request _ _ _ := .response 200 none

/-- The parameters of a check that runs a command without arguments. -/
def bareCommand : Params := [("cmd", "true"), ("args", "")]

/-- Under the default time limit the command has an outcome. -/
theorem run_returns_bareCommand :
    ({} : VerificationSettings).Admitted ∧ Accepted .commandExit bareCommand ∧
      ∃ o, (run emptyWorld ({} : VerificationSettings).toCheckContext .commandExit bareCommand).outcome =
        .ok o := by
  have admitted : ({} : VerificationSettings).Admitted := ⟨fun _ => none, rfl⟩
  have accepted : Accepted .commandExit bareCommand := by
    unfold Accepted
    decide +kernel
  refine ⟨admitted, accepted, (run_returns_iff emptyWorld {} .commandExit bareCommand admitted
    accepted).mpr ⟨(inTime_iff rfl).mpr ?_, _, .command rfl rfl, {}, rfl⟩⟩
  decide +kernel

/-- The parameters of a check that may take as many milliseconds as no floating-point number of seconds
counts. -/
def centuries : Params := bareCommand ++ [("timeout_ms", toString (tenTo 312 : Int))]

/-- The time limit is accepted, and yet the check has no outcome. -/
theorem not_returns_centuries :
    Accepted .commandExit centuries ∧
      ¬ ∃ o, (run emptyWorld ({} : VerificationSettings).toCheckContext .commandExit centuries).outcome =
        .ok o := by
  have given : value? "timeout_ms" centuries = some (toString (tenTo 312 : Int)) := rfl
  have exact : Text.exactInteger? (toString (tenTo 312 : Int)) = some (tenTo 312 : Int) := by
    refine (Text.exactInteger?_eq_some_iff_toString ..).mpr ⟨rfl, ?_⟩
    rw [Int.natAbs_natCast]
    exact tenTo_lt (by decide)
  have sound : timeoutFault? centuries = none := by
    refine (integerFault?_eq_none_iff ..).mpr fun text given' => ?_
    obtain rfl := Option.some.inj (given.symm.trans given')
    exact ⟨_, exact, decide_eq_true (Int.natCast_pos.mpr (tenTo_pos 312))⟩
  have complete : Complete .commandExit centuries :=
    ⟨by simp [required, centuries, bareCommand, value?], by simp [known, centuries, bareCommand]⟩
  have accepted : Accepted .commandExit centuries :=
    (accepted_command_iff _).mpr ⟨complete, rfl, sound⟩
  have late : ¬ InTime ({} : VerificationSettings).toCheckContext centuries .commandExit := by
    rw [inTime_iff rfl, integerOr, given, Option.bind_some, exact, Option.getD_some]
    have overlong : 1000 * twoTo 1024 ≤ tenTo 312 := by decide +kernel
    have bound := Binary64.overflowBound_lt
    omega
  obtain ⟨q, -, course⟩ := run_of_accepted (VerificationSettings.Admitted.positive ⟨fun _ => none, rfl⟩)
    accepted
  refine ⟨accepted, ?_⟩
  rw [(course emptyWorld).2 late]
  simp

end Check

end IntentSpec
