import IntentSpec.Proofs.Check.Question

/-!
# Confirmed, refuted, undetermined

A reply confirms what a check expects, or it refutes it, or it does neither.  A check is passed, failed or
unknown accordingly (`run_judgement`), so that nothing that is merely undetermined is taken for a failure
or for a pass.

What confirms and what refutes is said of the parameters and of the reply alone, for each kind of reply on
its own: a file that is there conforms or does not; a command ended with a status or it did not; a server
answered with a status, refused the connection, or did neither.  No reply does both
(`not_refutes_of_confirms`), so the three outcomes exclude each other, and a judgement says for each of them
exactly when it is given.

Time that is over is neither: a command that was stopped and a server that was too slow may still have done
what was expected.

* `Check.Confirms`, `Check.Refutes` — what a reply says about a check.
* `Reply.TimesOut` — the time of the check is over.
* `Check.Judgement` — the outcome that goes with a reply.
* `Check.run_judgement` — every check that has an outcome has it by such a judgement.
-/

namespace IntentSpec

open Params

/-- The command was started, its time was not over, and it ended with a status; where a signal ended it,
the status is one. -/
def CommandAnswer.EndsWith (answer : CommandAnswer) (status : Int) : Prop :=
  answer.startError = none ∧ answer.timedOut = false ∧
    ((answer.exitCode = some status ∧ 0 ≤ status) ∨
      ((∀ code, answer.exitCode = some code → code < 0) ∧ status = 1))

/-- The time of the check is over. -/
def Reply.TimesOut : Reply → Prop
  | .command (.ok answer) => answer.startError = none ∧ answer.timedOut = true
  | .server answer => answer.TimesOut
  | _ => False

namespace Check

/-- A file of a kind and a size is what the parameters of a file check want: its kind is the one that they
name, if they name one, and if it is a regular file, it has at least the size that they name. -/
def Conforms (params : Params) (kind : FileKind) (size : Int) : Prop :=
  (∀ wanted, value? "type" params = some wanted → wanted ≠ "" → kind.name = wanted) ∧
    ∀ least, (value? "min_size_bytes" params).bind Text.exactInteger? = some least →
      kind = .file → least ≤ size

/-- The reply confirms what is expected: a file that conforms, a command that ended with the
expected status, or a server that answered with it. The statuses are those of the parameters, or
zero and two hundred where these name none. -/
def Confirms (params : Params) : Reply → Prop
  | .file (.found kind size) => Conforms params kind size
  | .command (.ok answer) => answer.EndsWith (integerOr "expected_exit" 0 params)
  | .server answer => answer.Obtains (integerOr "expected_status" 200 params)
  | _ => False

/-- The reply refutes what is expected. What is not there refutes a check, be it a file or a
program, and so does a refused connection; any other trouble says nothing about what was expected.
-/
def Refutes (params : Params) : Reply → Prop
  | .file (.found kind size) => ¬ Conforms params kind size
  | .file (.failed code) => code = some Errno.noEntry
  | .command (.ok answer) => answer.startError = some Errno.noEntry ∨
      ∃ status, answer.EndsWith status ∧ status ≠ integerOr "expected_exit" 0 params
  | .server answer => answer.Refused ∨
      ∃ status, answer.Obtains status ∧ status ≠ integerOr "expected_status" 200 params
  | _ => False

/-- The outcome says what follows from the reply, and why, unless the check is passed. Each status
is given in both directions, so no reply is left for which two outcomes would do. -/
structure Judgement (params : Params) (reply : Reply) (o : CheckOutcome) : Prop where
  /-- What is confirmed is passed, and nothing else. -/
  passed : o.status = .passed ↔ Confirms params reply
  /-- What is refuted is failed, and nothing else. -/
  failed : o.status = .failed ↔ Refutes params reply
  unknown : o.status = .unknown ↔ ¬ Confirms params reply ∧ ¬ Refutes params reply
  /-- Whatever is over in time is among what is unknown. -/
  timeout : reply.TimesOut → o.status = .unknown
  /-- There is a reason unless the check is passed. -/
  reason : o.reason = none ↔ o.status = .passed

/-! ## No reply confirms and refutes -/

theorem endsWith_iff (answer : CommandAnswer) (status : Int) :
    answer.EndsWith status ↔ answer.startError = none ∧ answer.timedOut = false ∧
      effectiveExit answer.exitCode = status := by
  unfold CommandAnswer.EndsWith
  refine and_congr_right fun _ => and_congr_right fun _ => ?_
  cases answer.exitCode with
  | none => simp [effectiveExit, eq_comm]
  | some code =>
      by_cases signal : code < 0
      · simp only [effectiveExit, if_pos signal, Option.some.injEq, forall_eq']
        omega
      · simp only [effectiveExit, if_neg signal, Option.some.injEq, forall_eq']
        omega

theorem not_refutes_of_confirms {params : Params} {reply : Reply} (confirms : Confirms params reply) :
    ¬ Refutes params reply := by
  intro refutes
  cases reply with
  | file answer =>
      cases answer with
      | found kind size => exact refutes confirms
      | failed code => exact confirms
      | noPath => exact confirms
  | command answer =>
      cases answer with
      | error failures => exact confirms
      | ok answer =>
          obtain ⟨started, -, ends⟩ := (endsWith_iff ..).mp confirms
          rcases refutes with missing | ⟨status, ends', other⟩
          · rw [started] at missing
            cases missing
          · exact other (((endsWith_iff ..).mp ends').2.2.symm.trans ends)
  | server answer =>
      rcases refutes with refused | ⟨status, obtains, other⟩
      · cases answer with
        | response actual location => exact refused
        | failed g => exact confirms
      · exact other (obtains.unique confirms)

/-! ## Judgements -/

theorem Judgement.of_passed {params : Params} {reply : Reply} {evidence : List (String × Json)}
    (confirms : Confirms params reply) (inTime : ¬ reply.TimesOut) :
    Judgement params reply (.passed evidence) where
  passed := iff_of_true rfl confirms
  failed := iff_of_false (by simp [CheckOutcome.passed]) (not_refutes_of_confirms confirms)
  unknown := iff_of_false (by simp [CheckOutcome.passed]) fun neither => neither.1 confirms
  timeout expired := absurd expired inTime
  reason := iff_of_true rfl rfl

theorem Judgement.of_failed {params : Params} {reply : Reply} {reason : String}
    {evidence : Option (List (String × Json))} (refutes : Refutes params reply)
    (inTime : ¬ reply.TimesOut) :
    Judgement params reply (.failed reason evidence) where
  passed := iff_of_false (by simp [CheckOutcome.failed]) fun confirms =>
    not_refutes_of_confirms confirms refutes
  failed := iff_of_true rfl refutes
  unknown := iff_of_false (by simp [CheckOutcome.failed]) fun neither => neither.2 refutes
  timeout expired := absurd expired inTime
  reason := iff_of_false (by simp [CheckOutcome.failed]) (by simp [CheckOutcome.failed])

theorem Judgement.of_unknown {params : Params} {reply : Reply} {reason : String}
    {evidence : Option (List (String × Json))} (unconfirmed : ¬ Confirms params reply)
    (unrefuted : ¬ Refutes params reply) :
    Judgement params reply (.unknown reason evidence) where
  passed := iff_of_false (by simp [CheckOutcome.unknown]) unconfirmed
  failed := iff_of_false (by simp [CheckOutcome.unknown]) unrefuted
  unknown := iff_of_true rfl ⟨unconfirmed, unrefuted⟩
  timeout _ := rfl
  reason := iff_of_false (by simp [CheckOutcome.unknown]) (by simp [CheckOutcome.unknown])

/-! ## Files -/

/-- No other kind is wanted than the kind of the file. -/
theorem filter_kind_eq_none_iff (params : Params) (kind : FileKind) :
    ((value? "type" params).filter (· != "")).filter (· != kind.name) = none ↔
      ∀ wanted, value? "type" params = some wanted → wanted ≠ "" → kind.name = wanted := by
  cases value? "type" params with
  | none => simp
  | some wanted =>
      by_cases empty : wanted = ""
      · simp [empty]
      · simp [empty, @eq_comm _ kind.name]

/-- A file that conforms is passed, and any other is failed. -/
theorem fileOutcome_cases (params : Params) (kind : FileKind) (size : Int) :
    let outcome := fileOutcome ((value? "type" params).filter (· != ""))
      ((value? "min_size_bytes" params).bind Text.exactInteger?) kind size
    (Conforms params kind size ∧ ∃ evidence, outcome = .passed evidence) ∨
      (¬ Conforms params kind size ∧ ∃ reason evidence, outcome = .failed reason evidence) := by
  dsimp only
  unfold Conforms
  rw [← filter_kind_eq_none_iff]
  generalize (value? "min_size_bytes" params).bind Text.exactInteger? = least
  unfold fileOutcome
  dsimp only
  split
  next wanted other => exact Or.inr ⟨by simp [other], _, _, rfl⟩
  next same =>
    split
    next least actual regular =>
      obtain ⟨file, rfl⟩ : kind = .file ∧ size = actual := by simpa using regular
      split
      next small => exact Or.inr ⟨fun conforms => absurd (conforms.2 least rfl file) (by omega), _, _, rfl⟩
      next enough =>
        refine Or.inl ⟨⟨same, fun least' given _ => ?_⟩, _, rfl⟩
        obtain rfl := Option.some.inj given
        omega
    next unmeasured =>
      -- There is no least size, or the file is no regular one.
      refine Or.inl ⟨⟨same, fun least' given file => ?_⟩, _, rfl⟩
      exact absurd (if_pos file) (unmeasured least' size given)

theorem statOutcome_judgement (params : Params) (answer : FileAnswer) :
    Judgement params (.file answer) (statOutcome ((value? "type" params).filter (· != ""))
      ((value? "min_size_bytes" params).bind Text.exactInteger?) answer) := by
  cases answer with
  | found kind size =>
      rcases fileOutcome_cases params kind size with ⟨conforms, evidence, same⟩ |
        ⟨deviates, reason, evidence, same⟩
      · rw [statOutcome, same]
        exact .of_passed conforms id
      · rw [statOutcome, same]
        exact .of_failed deviates id
  | noPath => exact .of_unknown id id
  | failed code =>
      rw [statOutcome, statFailure]
      by_cases missing : code = some Errno.noEntry
      · rw [if_pos missing]
        exact .of_failed missing id
      · rw [if_neg missing]
        split
        · exact .of_unknown id missing
        · exact .of_unknown id missing

/-! ## Commands -/

/-- A command that did not end with a status confirms nothing, and refutes only if it does not exist. -/
theorem Judgement.of_endless {params : Params} {answer : CommandAnswer} {reason : String}
    {evidence : Option (List (String × Json))} (endless : ∀ status, ¬ answer.EndsWith status)
    (present : answer.startError ≠ some Errno.noEntry) :
    Judgement params (.command (.ok answer)) (.unknown reason evidence) := by
  refine .of_unknown (endless _) ?_
  rintro (missing | ⟨status, ends, -⟩)
  · exact present missing
  · exact endless status ends

theorem commandOutcome_judgement (params : Params) (limit : Int) (answer : CommandAnswer) :
    Judgement params (.command (.ok answer))
      (commandOutcome limit (integerOr "expected_exit" 0 params) answer) := by
  unfold commandOutcome
  cases started : answer.startError with
  | some code =>
      -- A command that was not started has neither a status nor a time that could be over.
      have endless : ∀ status, ¬ answer.EndsWith status := fun status ends => by
        cases started.symm.trans ends.1
      have inTime : ¬ (Reply.command (.ok answer)).TimesOut := fun expired => by
        cases started.symm.trans expired.1
      dsimp only
      unfold startFailure
      by_cases missing : some code = some Errno.noEntry
      · rw [if_pos missing]
        exact .of_failed (Or.inl (started.trans missing)) inTime
      · rw [if_neg missing]
        have present : answer.startError ≠ some Errno.noEntry := fun h => missing (started.symm.trans h)
        split
        · exact .of_endless endless present
        · exact .of_endless endless present
  | none =>
      dsimp only
      cases expired : answer.timedOut with
      | true =>
          rw [if_pos rfl]
          refine .of_endless (fun status ends => ?_) (by simp [started])
          cases expired.symm.trans ends.2.1
      | false =>
          have inTime : ¬ (Reply.command (.ok answer)).TimesOut := fun late => by
            cases expired.symm.trans late.2
          have ends : answer.EndsWith (effectiveExit answer.exitCode) :=
            (endsWith_iff ..).mpr ⟨started, expired, rfl⟩
          rw [if_neg (by simp)]
          split
          next other => exact .of_failed (Or.inr ⟨_, ends, other⟩) inTime
          next same =>
            have confirms : Confirms params (.command (.ok answer)) := by
              rwa [not_not.mp same] at ends
            exact .of_passed confirms inTime

/-! ## Servers -/

theorem httpOutcome_judgement {params : Params} {answer : HttpAnswer} {o : CheckOutcome}
    (settles : Settles (integerOr "expected_status" 200 params) answer o) :
    Judgement params (.server answer) o := by
  cases settles with
  | status actual obtained same =>
      have inTime : ¬ (Reply.server answer).TimesOut := by
        cases answer with
        | response actual location => exact id
        | failed g => exact obtained.elim
      rw [same, statusOutcome]
      split
      next other => exact .of_failed (Or.inr ⟨actual, obtained, other⟩) inTime
      next equal =>
        have confirms : Confirms params (.server answer) := by
          rwa [not_not.mp equal] at obtained
        exact .of_passed confirms inTime
  | refused refused reason same =>
      have inTime : ¬ (Reply.server answer).TimesOut := by
        cases answer with
        | response actual location => exact id
        | failed g =>
            obtain ⟨⟨f, head, transport⟩, -⟩ := refused
            rintro ⟨f', head', timeout⟩
            obtain rfl := Option.some.inj (head.symm.trans head')
            exact transport.not_isTimeout timeout
      rw [same]
      exact .of_failed (Or.inl refused) inTime
  | unknown unanswered notRefused reason same =>
      rw [same]
      refine .of_unknown (unanswered _) ?_
      rintro (refused | ⟨status, obtains, -⟩)
      · exact notRefused refused
      · exact unanswered status obtains

/-! ## Checks -/

theorem settle_judgement {context : CheckContext} {params : Params} {reply : Reply} {o : CheckOutcome}
    (returned : settle context params reply = .ok o) : Judgement params reply o := by
  cases reply with
  | file answer =>
      obtain rfl := Except.ok.inj returned
      exact statOutcome_judgement params answer
  | command answer =>
      cases answer with
      | error failures => cases returned
      | ok answer =>
          obtain rfl := Except.ok.inj returned
          exact commandOutcome_judgement params context.maxOutput answer
  | server answer =>
      rcases httpOutcome_cases (integerOr "expected_status" 200 params) (locatorTrouble? params)
        answer with ⟨-, t, raised⟩ | ⟨-, o', same, settles⟩
      · cases raised.symm.trans returned
      · obtain rfl := Except.ok.inj (same.symm.trans returned)
        exact httpOutcome_judgement settles

/-- **The judgement of a check.**  Where a check with accepted parameters has an outcome, it has asked one
question, the reply confirms, refutes or leaves open what is expected, and the outcome says so. -/
theorem run_judgement (world : World) (context : CheckContext) (capability : Capability)
    (params : Params) (o : CheckOutcome) (positive : context.Positive)
    (accepted : Accepted capability params)
    (returned : (run world context capability params).outcome = .ok o) :
    ∃ q, Asks context params capability q ∧
      (run world context capability params).questions = [q] ∧
      Judgement params (world.reply q) o := by
  obtain ⟨q, asks, course⟩ := run_of_accepted positive accepted
  obtain ⟨early, late⟩ := course world
  by_cases inTime : InTime context params capability
  · rw [early inTime] at returned ⊢
    exact ⟨q, asks, rfl, settle_judgement returned⟩
  · rw [late inTime] at returned
    cases returned

/-- The parameters of a check for a file of at least a byte. -/
def nonemptyFile : Params := [("path", "/srv"), ("type", "file"), ("min_size_bytes", "1")]

/-- Where there are no files, the check is failed. -/
theorem run_judgement_nonemptyFile :
    ({} : CheckContext).Positive ∧ Accepted .fileExists nonemptyFile ∧
      ∃ o, (run emptyWorld {} .fileExists nonemptyFile).outcome = .ok o ∧ o.status = .failed ∧
        ∃ q, Asks {} nonemptyFile .fileExists q ∧
          (run emptyWorld {} .fileExists nonemptyFile).questions = [q] ∧
          Judgement nonemptyFile (emptyWorld.reply q) o := by
  have positive : ({} : CheckContext).Positive := ⟨by decide, by decide⟩
  have accepted : Accepted .fileExists nonemptyFile := by
    unfold Accepted
    decide +kernel
  have returned : (run emptyWorld {} .fileExists nonemptyFile).outcome =
      .ok (.failed "path_not_found" (some [("exists", .bool false)])) := by
    rfl
  exact ⟨positive, accepted, _, returned, rfl,
    run_judgement _ _ _ _ _ positive accepted returned⟩

end Check

end IntentSpec
