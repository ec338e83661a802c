import IntentSpec.Proofs.Check.Account

/-!
# Selections of a verification

A verification may be asked for some of the checks only: for those of given validations, or else for
those of the validations whose identifiers begin in given ways.  A selection changes nothing about the
checks that it keeps.  Their records are those of the full verification, no question is asked that the
full verification does not ask, and the state can only get better, since a state is as bad as the worst
of its checks.

The two verifications are compared as wholes: receipts, states and questions.  From the full one, if it can
be carried out, the other is constructed.  Nothing has to be assumed about the selected one, as trouble with
a check that is kept would be trouble with the full verification already.  The converse fails, and for this
the selection is there: the full verification may come to nothing because of a check that is left out.

* `Selects` — which validations a request asks for.
* `VerificationState.severity` — how bad a state is.
* `verifyText_filtered` — what a verification of some of the checks returns, against that of all.
-/

namespace IntentSpec

/-- A request with identifiers and with beginnings of identifiers asks for a validation. -/
inductive Selects (ids beginnings : List String) (validation : String) : Prop where
  /-- The validation is one of those that are named. -/
  | named (listed : validation ∈ ids)
  /-- None are named, and the identifier begins in one of the ways. -/
  | begun (unnamed : ids = []) {beginning : String} (listed : beginning ∈ beginnings)
    (begins : beginning.toList <+: validation.toList)
  /-- There is nothing to select by. -/
  | all (unnamed : ids = []) (unbegun : beginnings = [])

theorem selects_iff (ids beginnings : List String) (validation : String) :
    Selects ids beginnings validation ↔
      validation ∈ ids ∨ ids = [] ∧
        ((∃ beginning ∈ beginnings, beginning.toList <+: validation.toList) ∨ beginnings = []) := by
  constructor
  · rintro (listed | ⟨unnamed, listed, begins⟩ | ⟨unnamed, unbegun⟩)
    · exact .inl listed
    · exact .inr ⟨unnamed, .inl ⟨_, listed, begins⟩⟩
    · exact .inr ⟨unnamed, .inr unbegun⟩
  · rintro (listed | ⟨unnamed, ⟨_, listed, begins⟩ | unbegun⟩)
    · exact .named listed
    · exact .begun unnamed listed begins
    · exact .all unnamed unbegun

instance (ids beginnings : List String) : DecidablePred (Selects ids beginnings) :=
  fun validation => decidable_of_iff' _ (selects_iff ids beginnings validation)

/-- The request for all checks. -/
def VerificationRequest.unfiltered (request : VerificationRequest) : VerificationRequest :=
  { request with ids := [], beginnings := [] }

/-- The validation that a record is about. -/
def CheckRecord.validation (record : CheckRecord) : String :=
  String.ofList (record.id.toList.drop "validations.".toList.length)

/-- The request asks for the check of a record. -/
abbrev VerificationRequest.Wants (request : VerificationRequest) (record : CheckRecord) : Prop :=
  Selects request.ids request.beginnings record.validation

/-- How bad a state is. -/
def VerificationState.severity : VerificationState → ℕ
  | verified => 0
  | unknown => 1
  | unverified => 2

/-- The fewer the checks, the less bad their state. -/
theorem VerificationState.severity_ofStatuses_le {statuses statuses' : List CheckStatus}
    (fewer : statuses ⊆ statuses') :
    (ofStatuses statuses).severity ≤ (ofStatuses statuses').severity := by
  cases whole : ofStatuses statuses' with
  | unverified => cases ofStatuses statuses <;> decide
  | unknown =>
      have noneFailed := ((ofStatuses_eq_unknown_iff _).mp whole).1
      cases part : ofStatuses statuses with
      | unverified => exact absurd (fewer ((ofStatuses_eq_unverified_iff _).mp part)) noneFailed
      | unknown => exact le_rfl
      | verified => decide
  | verified =>
      have passed := (ofStatuses_eq_verified_iff _).mp whole
      rw [(ofStatuses_eq_verified_iff _).mpr fun status here => passed status (fewer here)]

/-- Filtering keeps the checks of the validations that are asked for. -/
theorem PlannedCheck.filter_eq_filter (ids beginnings : List String) (checks : List PlannedCheck) :
    filter ids beginnings checks =
      checks.filter fun check => decide (Selects ids beginnings check.validation) := by
  unfold filter
  split
  next named =>
    have nonempty : ids ≠ [] := by simpa using named
    simp [selects_iff, nonempty]
  next unnamed =>
    have empty : ids = [] := by simpa using unnamed
    split
    next begun =>
      have nonempty : beginnings ≠ [] := by simpa using begun
      refine List.filter_congr fun check _ => Bool.eq_iff_iff.mpr ?_
      simp [selects_iff, empty, nonempty]
    next unbegun =>
      have nothing : beginnings = [] := by simpa using unbegun
      simp [selects_iff, empty, nothing]

/-- A record is about the validation of its check. -/
theorem CheckRecord.validation_eq {record : CheckRecord} {check : PlannedCheck}
    (same : record.id = check.id) : record.validation = check.validation := by
  rw [validation, same, PlannedCheck.id, String.toList_append, List.drop_left, String.ofList_toList]

/-- The checks of a request are those of all checks that it asks for. -/
theorem PlannedCheck.ofText_unfiltered (request : VerificationRequest) (text : String) :
    ofText text request.ids request.beginnings =
      (ofText text request.unfiltered.ids request.unfiltered.beginnings).filter
        fun check => decide (Selects request.ids request.beginnings check.validation) :=
  filter_eq_filter ..

/-- The records that a request asks for are those of the checks that it asks for. -/
theorem forall₂_filter_recordOf (world : World) (context : CheckContext)
    (request : VerificationRequest) {checks : List PlannedCheck}
    {accounts : List (CheckRecord × List Question)}
    (each : List.Forall₂ (fun check a => recordOf world context check = .ok a) checks accounts) :
    List.Forall₂ (fun check a => recordOf world context check = .ok a)
      (checks.filter fun check => decide (Selects request.ids request.beginnings check.validation))
      (accounts.filter fun a => decide (request.Wants a.1)) := by
  refine List.rel_filter (fun check a recorded => ?_) each
  simp only [decide_eq_true_eq, VerificationRequest.Wants,
    CheckRecord.validation_eq (recordOf_id recorded)]

/-- The receipt of some of the records, against that of all of them. -/
theorem receiptOf_filter (spec : Document.Spec) (request : VerificationRequest)
    (records : List CheckRecord) (p : CheckRecord → Bool) :
    (receiptOf spec request (records.filter p)).checks =
      (receiptOf spec request records).checks.filter p :=
  (filter_sortBy (textLe_comparison.on CheckRecord.id) p records).symm

/-- **A selection changes nothing about the checks that it keeps.**  If all checks of a text can be
verified, then so can those that a request asks for: the receipt has the same records for them and no
others, its state is no worse, and no question is asked that is not asked for all checks. -/
theorem verifyText_filtered (world : World) (request : VerificationRequest) (text : String)
    (receipt : Receipt) (records : List CheckRecord) (questions : List Question)
    (returned : verifyText world request.unfiltered text = .ok (receipt, records, questions)) :
    ∃ receipt' records' questions',
      verifyText world request text = .ok (receipt', records', questions') ∧
        receipt'.checks = receipt.checks.filter (fun record => decide (request.Wants record)) ∧
        receipt'.state.severity ≤ receipt.state.severity ∧ questions'.Sublist questions := by
  obtain ⟨accounts, each, rfl, rfl, rfl⟩ := (verifyText_eq_ok_iff ..).mp returned
  let kept := accounts.filter fun a => decide (request.Wants a.1)
  have keptRecords : kept.map (·.1) =
      (accounts.map (·.1)).filter fun record => decide (request.Wants record) := by
    rw [List.filter_map]
    rfl
  have each' := forall₂_filter_recordOf world request.settings.toCheckContext request each
  rw [← PlannedCheck.ofText_unfiltered] at each'
  refine ⟨_, _, _, (verifyText_eq_ok_iff ..).mpr ⟨kept, each', rfl, rfl, rfl⟩, ?_, ?_, ?_⟩
  · rw [keptRecords]
    exact receiptOf_filter _ request _ _
  · refine VerificationState.severity_ofStatuses_le ?_
    exact List.map_subset _ (List.map_subset _ List.filter_sublist.subset)
  · exact List.filter_sublist.flatMap _

/-- A request for the first of two validations, with a beginning of the second that does not count. -/
def firstRequest : VerificationRequest := { plainRequest with ids := ["V"], beginnings := ["W"] }

/-- Both checks can be verified, and so can the first of them alone. -/
theorem verifyText_filtered_fileChecks :
    ∃ receipt records questions,
      verifyText Check.emptyWorld firstRequest.unfiltered fileChecks =
          .ok (receipt, records, questions) ∧
        receipt.checks.map (fun record => (record.id, decide (firstRequest.Wants record))) =
          [("validations.V", true), ("validations.W", false)] ∧
        ∃ receipt' records' questions',
          verifyText Check.emptyWorld firstRequest fileChecks = .ok (receipt', records', questions') ∧
            receipt'.checks =
              receipt.checks.filter (fun record => decide (firstRequest.Wants record)) ∧
            receipt'.state.severity ≤ receipt.state.severity ∧ questions'.Sublist questions := by
  have seen : (verifyText Check.emptyWorld firstRequest.unfiltered fileChecks).map
      (fun r => r.1.checks.map fun record => (record.id, decide (firstRequest.Wants record))) =
      .ok [("validations.V", true), ("validations.W", false)] := by
    decide +kernel
  obtain ⟨⟨receipt, records, questions⟩, returned, shown⟩ := (map_eq_ok_iff ..).mp seen
  exact ⟨receipt, records, questions, returned, shown, verifyText_filtered _ _ _ _ _ _ returned⟩

end IntentSpec
