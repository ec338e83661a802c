import IntentSpec.Proofs.Check.Gathering
import IntentSpec.Proofs.Check.Question
import IntentSpec.Proofs.Predicate.Faithful
import IntentSpec.Proofs.Sorting

/-!
# The account of a verification

A verification accounts for every planned check with one record and with the questions that the check
asked: none if its parameters are rejected, and its own one if they are accepted.  The receipt holds the
records by increasing identifiers, and the state that they amount to.  The world is consulted through the
questions only: a world that replies to them alike leads to the same receipt.

The questions are counted where the world is accessed, by the access itself, so the account of a check does
not depend on what the check says about its own doings.  That a rejected check asks nothing is a statement
about the whole run of the check, and so is that an accepted one asks once.

Identifiers increase strictly.  They come from the names of validations, which are distinct in a table, and
putting the same beginning in front of all of them keeps them distinct (`PlannedCheck.id_injective`).

* `Check.Accounts` — the record and the questions of a planned check.
* `recordOf_accounts` — every record is made so, in every world that replies alike.
* `Account` — the receipt and the questions of a verification.
* `verifyText_account` — what a verification returns is an account.
-/

namespace IntentSpec

open Params

/-- The worlds reply to the questions alike. -/
def World.Agrees (world world' : World) (questions : List Question) : Prop :=
  ∀ q ∈ questions, world'.reply q = world.reply q

/-- What a planned check is recorded with, and what it asked. The two cases are told apart by
reading its parameters, before the world comes into it. -/
inductive Check.Accounts (world : World) (context : CheckContext) (check : PlannedCheck) :
    CheckRecord → List Question → Prop where
  /-- A check whose parameters are rejected is unknown for the reason of the rejection, and asks
  nothing. -/
  | rejected {fault : Params.Fault}
    (read : Params.read check.predicate check.capability = .ok (.error fault)) :
    Accounts world context check
      { id := check.id, capability := check.capability, status := .unknown, reason := some fault.reason }
      []
  /-- A check whose parameters are accepted asks its question and is recorded with the outcome that the
  reply leads to. -/
  | accepted {capability : Capability} {params : Params} {q : Question} {o : CheckOutcome}
    (named : capability.name = check.capability)
    (read : Params.read check.predicate check.capability = .ok (.ok params))
    (asks : Asks context params capability q)
    (settled : settle context params (world.reply q) = .ok o) :
    Accounts world context check (.ofOutcome check.id check.capability o) [q]

/-- The receipt and the questions account for the planned checks of a text. The state is given by
three equivalences, so it is determined by the statuses on the receipt, and exactly one of the three
states is given. -/
structure Account (world : World) (request : VerificationRequest) (text : String) (receipt : Receipt)
    (questions : List Question) : Prop where
  /-- Each planned check has its record and its questions, and there are no others. -/
  each : ∃ accounts : List (CheckRecord × List Question),
    List.Forall₂ (fun check a => Check.Accounts world request.settings.toCheckContext check a.1 a.2)
      (PlannedCheck.ofText text request.ids request.beginnings) accounts ∧
    receipt.checks.Perm (accounts.map (·.1)) ∧ questions = accounts.flatMap (·.2)
  /-- The identifiers of the records increase. -/
  increasing : receipt.checks.Pairwise fun a b => a.id < b.id
  /-- Some check is failed exactly if the specification is unverified. -/
  unverified : receipt.state = .unverified ↔ ∃ r ∈ receipt.checks, r.status = .failed
  /-- None is failed and some is unknown exactly if the specification is unknown. -/
  unknown : receipt.state = .unknown ↔
    (¬ ∃ r ∈ receipt.checks, r.status = .failed) ∧ ∃ r ∈ receipt.checks, r.status = .unknown
  /-- All are passed exactly if the specification is verified. -/
  verified : receipt.state = .verified ↔ ∀ r ∈ receipt.checks, r.status = .passed
  /-- The world is consulted through the questions only. -/
  closed : ∀ world', world.Agrees world' questions →
    verifyText world' request text = verifyText world request text

/-! ## States -/

namespace VerificationState

theorem ofStatuses_eq_unverified_iff (statuses : List CheckStatus) :
    ofStatuses statuses = .unverified ↔ .failed ∈ statuses := by
  unfold ofStatuses
  split
  next some => exact iff_of_true rfl (by simpa using some)
  next none => split <;> exact iff_of_false (by simp) (by simpa using none)

theorem ofStatuses_eq_unknown_iff (statuses : List CheckStatus) :
    ofStatuses statuses = .unknown ↔ .failed ∉ statuses ∧ .unknown ∈ statuses := by
  unfold ofStatuses
  split
  next some => exact iff_of_false (by simp) fun h => h.1 (by simpa using some)
  next none =>
    rw [and_iff_right (by simpa using none)]
    split
    next open' => exact iff_of_true rfl (by simpa using open')
    next closed => exact iff_of_false (by simp) (by simpa using closed)

theorem ofStatuses_eq_verified_iff (statuses : List CheckStatus) :
    ofStatuses statuses = .verified ↔ ∀ status ∈ statuses, status = .passed := by
  unfold ofStatuses
  split
  next some => exact iff_of_false (by simp) fun h => by cases h .failed (by simpa using some)
  next none =>
    split
    next open' => exact iff_of_false (by simp) fun h => by cases h .unknown (by simpa using open')
    next closed =>
      refine iff_of_true rfl fun status here => ?_
      cases status with
      | passed => rfl
      | failed => exact absurd here (by simpa using none)
      | unknown => exact absurd here (by simpa using closed)

end VerificationState

/-! ## Planned checks -/

namespace PlannedCheck

theorem id_injective {a b : PlannedCheck} (same : a.id = b.id) : a.validation = b.validation :=
  (String.append_right_inj "validations.").mp same

/-- No two checks of a specification have the same identifier. -/
theorem pairwise_select (spec : Document.Spec) (predicates : List (String × String)) :
    (select spec predicates).Pairwise fun a b => a.id ≠ b.id := by
  -- A check carries the name of its validation, and validations are declared once.
  have distinct := List.pairwise_map.mp spec.validations.nodup
  refine List.Pairwise.filterMap _ ?_ distinct
  intro v v' other check planned check' planned' same
  obtain ⟨named, -⟩ := (Predicate.ofValidation?_eq_some_iff ..).mp planned
  obtain ⟨named', -⟩ := (Predicate.ofValidation?_eq_some_iff ..).mp planned'
  exact other (named.symm.trans ((id_injective same).trans named'))

theorem filter_sublist (ids beginnings : List String) (checks : List PlannedCheck) :
    (filter ids beginnings checks).Sublist checks := by
  unfold filter
  split
  · exact List.filter_sublist
  · split
    · exact List.filter_sublist
    · exact List.Sublist.refl _

theorem pairwise_ofText (text : String) (ids beginnings : List String) :
    (ofText text ids beginnings).Pairwise fun a b => a.id ≠ b.id :=
  (pairwise_select _ _).sublist (filter_sublist ..)

end PlannedCheck

/-! ## Records -/

/-- Accepted parameters are those of a capability. -/
theorem Params.accepted_of_read {check : PlannedCheck} {params : Params}
    (answered : read check.predicate check.capability = .ok (.ok params)) :
    ∃ capability : Capability, capability.name = check.capability ∧ Accepted capability params := by
  obtain ⟨-, accepted⟩ := (read_eq_ok_ok_iff ..).mp answered
  cases known : Capability.ofName? check.capability with
  | none =>
      unfold fault? at accepted
      rw [known] at accepted
      cases accepted
  | some capability =>
      have named := (Capability.ofName?_eq_some_iff _ _).mp known
      exact ⟨capability, named, by rwa [Accepted, named]⟩

/-- A check whose parameters are rejected asks nothing, whatever the world is like. -/
theorem Check.runPlanned_of_rejected {context : CheckContext} {check : PlannedCheck}
    {fault : Params.Fault} (answered : read check.predicate check.capability = .ok (.error fault))
    (world : World) :
    runPlanned world context check = { outcome := .ok (.unknown fault.reason) } := by
  rw [runPlanned, planned, answered]
  rfl

/-- A check whose parameters are accepted is carried out with them. -/
theorem Check.runPlanned_of_accepted {context : CheckContext} {check : PlannedCheck} {params : Params}
    {capability : Capability} (named : capability.name = check.capability)
    (answered : read check.predicate check.capability = .ok (.ok params)) (world : World) :
    runPlanned world context check = run world context capability params := by
  have known := (Capability.ofName?_eq_some_iff _ _).mpr named
  simp only [runPlanned, planned, answered, known]
  rfl

theorem map_eq_ok_iff {ε α β : Type} (x : Except ε α) (f : α → β) (b : β) :
    x.map f = .ok b ↔ ∃ a, x = .ok a ∧ f a = b := by
  cases x <;> simp [Except.map]

theorem recordOf_eq_ok_iff (world : World) (context : CheckContext) (check : PlannedCheck)
    (a : CheckRecord × List Question) :
    recordOf world context check = .ok a ↔
      ∃ o, (Check.runPlanned world context check).outcome = .ok o ∧
        a = (.ofOutcome check.id check.capability o, (Check.runPlanned world context check).questions) := by
  unfold recordOf
  dsimp only
  rw [map_eq_ok_iff]
  simp only [eq_comm]

theorem recordOf_id {world : World} {context : CheckContext} {check : PlannedCheck}
    {a : CheckRecord × List Question} (returned : recordOf world context check = .ok a) :
    a.1.id = check.id := by
  obtain ⟨o, -, rfl⟩ := (recordOf_eq_ok_iff ..).mp returned
  rfl

/-- **The record of a check.**  Where there is one, it is accounted for, and any world that replies to the
questions of the check alike gives the same. -/
theorem recordOf_accounts {world : World} {context : CheckContext} (positive : context.Positive)
    {check : PlannedCheck} {a : CheckRecord × List Question}
    (returned : recordOf world context check = .ok a) :
    Check.Accounts world context check a.1 a.2 ∧
      ∀ world', world.Agrees world' a.2 → recordOf world' context check = .ok a := by
  obtain ⟨o, outcome, rfl⟩ := (recordOf_eq_ok_iff ..).mp returned
  cases answered : read check.predicate check.capability with
  | error fault =>
      rw [Check.runPlanned, Check.planned, answered] at outcome
      cases outcome
  | ok answer =>
      cases answer with
      | error fault =>
          have rejected : ∀ world, Check.runPlanned world context check = _ :=
            Check.runPlanned_of_rejected answered
          rw [rejected world] at outcome ⊢
          obtain rfl := Except.ok.inj outcome
          refine ⟨.rejected answered, fun world' _ => ?_⟩
          rw [recordOf_eq_ok_iff, rejected world']
          exact ⟨_, rfl, rfl⟩
      | ok params =>
          obtain ⟨capability, named, accepted⟩ := accepted_of_read answered
          -- The question is the same in every world.
          obtain ⟨q, asks, course⟩ := Check.run_of_accepted positive accepted
          by_cases inTime : Check.InTime context params capability
          · have asked : ∀ world, Check.runPlanned world context check =
                { questions := [q], outcome := Check.settle context params (world.reply q) } :=
              fun world => (Check.runPlanned_of_accepted named answered world).trans
                ((course world).1 inTime)
            rw [asked world] at outcome ⊢
            refine ⟨.accepted named answered asks outcome, fun world' agrees => ?_⟩
            rw [recordOf_eq_ok_iff, asked world', agrees q (List.mem_singleton.mpr rfl)]
            exact ⟨o, outcome, rfl⟩
          · rw [Check.runPlanned_of_accepted named answered, (course world).2 inTime] at outcome
            cases outcome

theorem Check.Accounts.id_eq {world : World} {context : CheckContext} {check : PlannedCheck}
    {record : CheckRecord} {questions : List Question}
    (accounts : Accounts world context check record questions) : record.id = check.id := by
  cases accounts <;> rfl

/-! ## Receipts -/

/-- What is returned is made of a record and of questions for each planned check. -/
theorem verifyText_eq_ok_iff (world : World) (request : VerificationRequest) (text : String)
    (receipt : Receipt) (records : List CheckRecord) (questions : List Question) :
    verifyText world request text = .ok (receipt, records, questions) ↔
      ∃ accounts : List (CheckRecord × List Question),
        List.Forall₂ (fun check a => recordOf world request.settings.toCheckContext check = .ok a)
          (PlannedCheck.ofText text request.ids request.beginnings) accounts ∧
        receipt = receiptOf (Document.Spec.parse text) request records ∧
        records = accounts.map (·.1) ∧ questions = accounts.flatMap (·.2) := by
  simp only [← Gate.gather_eq_ok_iff, verifyText, bind, Except.bind]
  cases Gate.gather (recordOf world request.settings.toCheckContext)
      (PlannedCheck.ofText text request.ids request.beginnings) with
  | error trouble => simp
  | ok accounts =>
      simp only [pure, Except.pure, Except.ok.injEq, Prod.mk.injEq, exists_eq_left']
      constructor
      · rintro ⟨rfl, rfl, rfl⟩
        exact ⟨rfl, rfl, rfl⟩
      · rintro ⟨rfl, rfl, rfl⟩
        exact ⟨rfl, rfl, rfl⟩

section

variable (spec : Document.Spec) (request : VerificationRequest) {records : List CheckRecord}

theorem receiptOf_perm : (receiptOf spec request records).checks.Perm records := sortBy_perm records

/-- The records of a receipt are in increasing order of their identifiers, if these are distinct. -/
theorem receiptOf_increasing (distinct : records.Pairwise fun a b => a.id ≠ b.id) :
    (receiptOf spec request records).checks.Pairwise fun a b => a.id < b.id := by
  have sorted : (receiptOf spec request records).checks.Pairwise
      fun a b => textLe a.id b.id = true :=
    sortBy_pairwise (textLe_comparison.on CheckRecord.id) records
  have distinct' : (receiptOf spec request records).checks.Pairwise fun a b => a.id ≠ b.id :=
    (receiptOf_perm spec request).symm.pairwise distinct fun ne => ne.symm
  refine (sorted.and distinct').imp fun {a b} h => ?_
  obtain ⟨le, ne⟩ := h
  exact String.not_le.mp fun ge => ne (String.le_antisymm ((textLe_iff ..).mp le) ge)

/-- The statuses of the records are those on the receipt. -/
theorem mem_statuses_iff (status : CheckStatus) :
    status ∈ records.map CheckRecord.status ↔
      ∃ r ∈ (receiptOf spec request records).checks, r.status = status := by
  rw [List.mem_map]
  simp only [(receiptOf_perm spec request).mem_iff]

end

/-- The records have distinct identifiers if their checks have, in whatever way they are made from them,
as long as they carry their identifiers. -/
theorem pairwise_id_of_forall₂ {R : PlannedCheck → CheckRecord × List Question → Prop}
    (keeps : ∀ {check a}, R check a → a.1.id = check.id) {checks : List PlannedCheck}
    {accounts : List (CheckRecord × List Question)} (each : List.Forall₂ R checks accounts)
    (distinct : checks.Pairwise fun a b => a.id ≠ b.id) :
    (accounts.map (·.1)).Pairwise fun a b => a.id ≠ b.id := by
  have ids : checks.map PlannedCheck.id = (accounts.map (·.1)).map CheckRecord.id := by
    rw [List.map_map, ← List.forall₂_eq_eq_eq, List.forall₂_map_left_iff, List.forall₂_map_right_iff]
    exact each.imp fun check a related => (keeps related).symm
  rw [← List.pairwise_map] at distinct ⊢
  exact ids ▸ distinct

/-- **The account of a verification.** Under settings that admit a run, what a verification returns
accounts for every planned check: there is a record and there are questions for each, the receipt
has the records in the order of their identifiers and the state that they amount to, and another
world that replies to the same questions alike leads to the same receipt. -/
theorem verifyText_account (world : World) (request : VerificationRequest) (text : String)
    (receipt : Receipt) (records : List CheckRecord) (questions : List Question)
    (admitted : request.settings.Admitted)
    (returned : verifyText world request text = .ok (receipt, records, questions)) :
    Account world request text receipt questions := by
  obtain ⟨accounts, each, rfl, rfl, rfl⟩ := (verifyText_eq_ok_iff ..).mp returned
  have recorded := each.imp fun check a found => recordOf_accounts admitted.positive found
  have accounted := recorded.imp fun check a found => found.1
  have perm : (receiptOf (Document.Spec.parse text) request (accounts.map (·.1))).checks.Perm
      (accounts.map (·.1)) := receiptOf_perm ..
  exact {
    each := ⟨accounts, accounted, perm, rfl⟩
    increasing := receiptOf_increasing _ request
      (pairwise_id_of_forall₂ Check.Accounts.id_eq accounted (PlannedCheck.pairwise_ofText ..))
    unverified := by
      rw [← mem_statuses_iff]
      exact VerificationState.ofStatuses_eq_unverified_iff _
    unknown := by
      rw [← mem_statuses_iff, ← mem_statuses_iff]
      exact VerificationState.ofStatuses_eq_unknown_iff _
    verified := by
      simp only [perm.mem_iff]
      rw [← List.forall_mem_map (f := CheckRecord.status) (P := fun status => status = .passed)]
      exact VerificationState.ofStatuses_eq_verified_iff _
    closed := fun world' agrees => by
      -- What one check asked is among what was asked altogether.
      have within : ∀ a ∈ accounts, world.Agrees world' a.2 := fun a here q asked =>
        agrees q (List.mem_flatMap.mpr ⟨a, here, asked⟩)
      have again := (List.forall₂_and_left _ _).mpr ⟨within, recorded.flip⟩
      refine ((verifyText_eq_ok_iff ..).mpr ⟨accounts, ?_, rfl, rfl, rfl⟩).trans returned.symm
      exact again.flip.imp fun check a found => found.2.2 world' found.1 }

/-- A text with two checks, declared in decreasing order: the first asks for a file, and the second does
not say for which. -/
def fileChecks : String :=
  "DIL:spec v0\nsystem \"S\" \x7b\nvalidations \x7b\nvalidate W \x7b\n" ++
  "requires_capability: \"check_file_exists\"\npredicate: \"check_file_exists path=/\"\n\x7d\n" ++
  "validate V \x7b\n" ++
  "requires_capability: \"check_file_exists\"\npredicate: \"check_file_exists\"\n\x7d\n" ++
  "\x7d\n\x7d\n"

/-- A request for all checks under the default settings. -/
def plainRequest : VerificationRequest := { specHash := "", validationRef := "missing" }

/-- Without files the first check is failed, the second is unknown, and one question was asked. -/
theorem verifyText_account_fileChecks :
    plainRequest.settings.Admitted ∧ ∃ receipt records questions,
      verifyText Check.emptyWorld plainRequest fileChecks = .ok (receipt, records, questions) ∧
        receipt.checks.map (fun r => (r.id, r.status)) =
          [("validations.V", .unknown), ("validations.W", .failed)] ∧
        questions = [.stat "/"] ∧ Account Check.emptyWorld plainRequest fileChecks receipt questions := by
  have admitted : plainRequest.settings.Admitted := ⟨fun _ => none, rfl⟩
  have seen : (verifyText Check.emptyWorld plainRequest fileChecks).map
      (fun r => (r.1.checks.map (fun r => (r.id, r.status)), r.2.2)) =
      .ok ([("validations.V", .unknown), ("validations.W", .failed)], [.stat "/"]) := by
    decide +kernel
  cases returned : verifyText Check.emptyWorld plainRequest fileChecks with
  | error trouble =>
      rw [returned] at seen
      cases seen
  | ok r =>
      obtain ⟨receipt, records, questions⟩ := r
      rw [returned] at seen
      obtain ⟨checks, asked⟩ := Prod.mk.inj (Except.ok.inj seen)
      exact ⟨admitted, receipt, records, questions, rfl, checks, asked,
        verifyText_account _ _ _ _ _ _ admitted returned⟩

end IntentSpec
