import IntentSpec.Proofs.Check.Account
import Mathlib.Data.List.Perm.Basic

/-!
# Courses of a verification

The checks of a verification are gathered, as many at once as the settings say.  Which check is started
next and which one ends next is not fixed, so that one request has many courses.  They all lead to the
same receipt, and they ask the same questions: what a check comes out as does not depend on the others,
the gathering returns the records in the order of the checks, and the receipt sorts them by identifiers
that are distinct.  For the same reason it does not matter in which order the validations are declared.

* `Course` — the receipt and the questions of a verification whose checks run concurrently.
* `course_iff` — what a course leads to is what one check after the other leads to.
* `course_unique` — all courses lead to one text, for all orders of the declarations.
-/

namespace IntentSpec

open Document (Spec Table Validation)

/-- The checks that are asked for, of a specification with given predicates. -/
def VerificationRequest.planned (request : VerificationRequest) (spec : Spec)
    (predicates : List (String × String)) : List PlannedCheck :=
  PlannedCheck.filter request.ids request.beginnings (PlannedCheck.select spec predicates)

/-- The request, with another number of checks that run at once. -/
def VerificationRequest.withConcurrency (request : VerificationRequest) (concurrency : Int) :
    VerificationRequest :=
  { request with settings := { request.settings with maxConcurrency := concurrency } }

/-- A way in which a verification can go, by the receipt and by the questions that it leads to. -/
inductive Course (world : World) (request : VerificationRequest) (spec : Spec)
    (predicates : List (String × String)) : Receipt → List Question → Prop where
  /-- The checks have been gathered in some order of steps. -/
  | gathered {gate : Gate} {s : Gathering PlannedCheck (CheckRecord × List Question)}
    (opened : Gate.ofLimit? request.settings.maxConcurrency = some gate)
    (reachable : Gathering.Reachable (recordOf world request.settings.toCheckContext) gate
      (request.planned spec predicates) s)
    (complete : s.Complete) :
    Course world request spec predicates (receiptOf spec request (s.results.map (·.1)))
      (s.results.flatMap (·.2))

/-! ## One check after the other -/

theorem Gate.ofLimit?_eq_some_iff (limit : Int) (gate : Gate) :
    ofLimit? limit = some gate ↔ 1 ≤ limit ∧ gate = { limit := limit.toNat } := by
  unfold ofLimit?
  split
  next positive => simp [eq_comm, show 1 ≤ limit by omega]
  next nonpositive => simp [show ¬ 1 ≤ limit by omega]

theorem recordOf_rightUnique (world : World) (context : CheckContext) :
    Relator.RightUnique fun check a => recordOf world context check = .ok a :=
  fun _ _ _ first second => Except.ok.inj (first.symm.trans second)

section

variable (world : World) (request : VerificationRequest) (spec : Spec)
  (predicates : List (String × String))

/-- If no check raises trouble, the checks can be gathered. -/
theorem exists_course (positive : 1 ≤ request.settings.maxConcurrency)
    (returns : ∀ check ∈ request.planned spec predicates,
      ∃ a, recordOf world request.settings.toCheckContext check = .ok a) :
    ∃ receipt questions, Course world request spec predicates receipt questions := by
  have sound : Gathering.Sound (recordOf world request.settings.toCheckContext)
      request.settings.maxConcurrency.toNat (request.planned spec predicates) (.begun _ _) :=
    .of_reachable .refl
  obtain ⟨s, reachable, complete⟩ := sound.leads_complete (by omega) returns
  exact ⟨_, _, .gathered ((Gate.ofLimit?_eq_some_iff ..).mpr ⟨positive, rfl⟩) reachable complete⟩

/-- A course leads to what its records and its questions make. -/
theorem Course.exists_accounts {receipt : Receipt} {questions : List Question}
    (course : Course world request spec predicates receipt questions) :
    ∃ accounts : List (CheckRecord × List Question),
      List.Forall₂ (fun check a => recordOf world request.settings.toCheckContext check = .ok a)
        (request.planned spec predicates) accounts ∧
      receipt = receiptOf spec request (accounts.map (·.1)) ∧ questions = accounts.flatMap (·.2) := by
  obtain ⟨opened, reachable, complete⟩ := course
  obtain ⟨positive, rfl⟩ := (Gate.ofLimit?_eq_some_iff ..).mp opened
  exact ⟨_, (Gathering.Sound.of_reachable reachable).forall₂_results complete, rfl, rfl⟩

/-- What a course leads to is what one check after the other leads to. -/
theorem course_iff (receipt : Receipt) (questions : List Question) :
    Course world request spec predicates receipt questions ↔
      1 ≤ request.settings.maxConcurrency ∧ ∃ accounts : List (CheckRecord × List Question),
        List.Forall₂ (fun check a => recordOf world request.settings.toCheckContext check = .ok a)
          (request.planned spec predicates) accounts ∧
        receipt = receiptOf spec request (accounts.map (·.1)) ∧ questions = accounts.flatMap (·.2) := by
  constructor
  · intro course
    refine ⟨?_, course.exists_accounts⟩
    obtain ⟨opened, -, -⟩ := course
    exact ((Gate.ofLimit?_eq_some_iff ..).mp opened).1
  · rintro ⟨positive, accounts, each, rfl, rfl⟩
    have returns : ∀ check ∈ request.planned spec predicates,
        ∃ a, recordOf world request.settings.toCheckContext check = .ok a := by
      intro check here
      obtain ⟨i, inside, rfl⟩ := List.mem_iff_getElem.mp here
      exact ⟨_, each.get inside (each.length_eq ▸ inside)⟩
    obtain ⟨receipt, questions, course⟩ := exists_course world request spec predicates positive returns
    obtain ⟨accounts', each', rfl, rfl⟩ := course.exists_accounts
    obtain rfl := List.right_unique_forall₂' (recordOf_rightUnique ..) each' each
    exact course

/-- **The verification of a text goes one of its courses**, and all of them lead to the same. -/
theorem verifyText_iff_course (text : String) (receipt : Receipt) (questions : List Question)
    (positive : 1 ≤ request.settings.maxConcurrency) :
    (∃ records, verifyText world request text = .ok (receipt, records, questions)) ↔
      Course world request (Spec.parse text) (Predicate.extract text) receipt questions := by
  rw [course_iff, and_iff_right positive]
  simp only [verifyText_eq_ok_iff]
  constructor
  · rintro ⟨_, accounts, each, rfl, rfl, rfl⟩
    exact ⟨accounts, each, rfl, rfl⟩
  · rintro ⟨accounts, each, rfl, rfl⟩
    exact ⟨_, accounts, each, rfl, rfl, rfl⟩

end

/-! ## The order of the declarations -/

theorem PlannedCheck.filter_perm (ids beginnings : List String) {checks checks' : List PlannedCheck}
    (perm : checks.Perm checks') :
    (filter ids beginnings checks).Perm (filter ids beginnings checks') := by
  unfold filter
  split
  · exact perm.filter _
  · split
    · exact perm.filter _
    · exact perm

theorem VerificationState.ofStatuses_eq_of_perm {statuses statuses' : List CheckStatus}
    (perm : statuses.Perm statuses') : ofStatuses statuses = ofStatuses statuses' := by
  unfold ofStatuses
  rw [perm.contains_eq, perm.contains_eq]

/-- Records with distinct identifiers make one receipt in every order. -/
theorem receiptOf_eq_of_perm (spec : Spec) (request : VerificationRequest)
    {records records' : List CheckRecord} (perm : records.Perm records')
    (distinct : records.Pairwise fun a b => a.id ≠ b.id) :
    receiptOf spec request records = receiptOf spec request records' := by
  have alone : ∀ a ∈ records, ∀ b ∈ records, Receipt.recordLe a b = true →
      Receipt.recordLe b a = true → a = b := fun a ha b hb le ge =>
    List.inj_on_of_nodup_map (List.pairwise_map.mpr distinct) ha hb (textLe_antisymm le ge)
  have sorted : sortBy Receipt.recordLe records = sortBy Receipt.recordLe records' :=
    sortBy_eq_of_perm (textLe_comparison.on CheckRecord.id) perm alone
  have state := VerificationState.ofStatuses_eq_of_perm (perm.map CheckRecord.status)
  unfold receiptOf Receipt.sorted
  simp only [sorted, state]

section

variable {world : World} (request : VerificationRequest) {spec : Spec}
  {predicates : List (String × String)}

theorem VerificationRequest.planned_perm {validations : Table Validation}
    (perm : validations.entries.Perm spec.validations.entries) :
    (request.planned { spec with validations } predicates).Perm (request.planned spec predicates) :=
  PlannedCheck.filter_perm _ _ (perm.filterMap _)

theorem VerificationRequest.pairwise_planned :
    (request.planned spec predicates).Pairwise fun a b => a.id ≠ b.id :=
  (PlannedCheck.pairwise_select _ _).sublist (PlannedCheck.filter_sublist ..)

variable {request}

/-- Two courses, for two orders of the declarations and for two numbers of checks that run at once, lead
to the same receipt and ask the same questions. -/
theorem Course.agree {validations : Table Validation} {concurrency : Int} {receipt receipt' : Receipt}
    {questions questions' : List Question}
    (perm : validations.entries.Perm spec.validations.entries)
    (course : Course world request spec predicates receipt questions)
    (course' : Course world (request.withConcurrency concurrency) { spec with validations } predicates
      receipt' questions') :
    receipt' = receipt ∧ questions'.Perm questions := by
  obtain ⟨accounts, each, rfl, rfl⟩ := course.exists_accounts
  obtain ⟨accounts', each', rfl, rfl⟩ := course'.exists_accounts
  -- the accounts of one course, in the order of the checks of the other
  obtain ⟨accounts'', each'', reordered⟩ :=
    List.perm_comp_forall₂ (VerificationRequest.planned_perm _ perm) each
  obtain rfl := List.right_unique_forall₂' (recordOf_rightUnique ..) each'' each'
  have distinct := pairwise_id_of_forall₂ recordOf_id each (VerificationRequest.pairwise_planned request)
  refine ⟨?_, reordered.flatMap_right _⟩
  exact (receiptOf_eq_of_perm spec request (reordered.symm.map _) distinct).symm

end

/-- **The order in which checks run and validations are declared does not show.**  If no check raises
trouble, there is a text and there are questions such that, whatever the order of the declarations and
however many checks run at once, the verification has a course, and each of its courses leads to the text
and asks the questions, in some order. -/
theorem course_unique (world : World) (request : VerificationRequest) (spec : Spec)
    (predicates : List (String × String))
    (returns : ∀ check ∈ request.planned spec predicates,
      ∃ a, recordOf world request.settings.toCheckContext check = .ok a) :
    ∃ text questions, ∀ (validations : Table Validation) (concurrency : Int),
      validations.entries.Perm spec.validations.entries → 1 ≤ concurrency →
        (∃ receipt asked, Course world (request.withConcurrency concurrency)
          { spec with validations } predicates receipt asked) ∧
        ∀ receipt asked, Course world (request.withConcurrency concurrency)
          { spec with validations } predicates receipt asked →
            receipt.text = text ∧ asked.Perm questions := by
  obtain ⟨receipt, questions, course⟩ :=
    exists_course world (request.withConcurrency 1) spec predicates le_rfl returns
  refine ⟨receipt.text, questions, fun validations concurrency perm positive => ⟨?_, ?_⟩⟩
  · refine exists_course _ _ _ _ positive fun check here => returns check ?_
    exact (VerificationRequest.planned_perm _ perm).mem_iff.mp here
  · intro receipt' asked course'
    obtain ⟨rfl, reordered⟩ := course.agree perm course'
    exact ⟨rfl, reordered⟩

/-- No check of the text raises trouble, so that its two validations can be declared and checked in
either order. -/
theorem course_unique_fileChecks :
    (∀ check ∈ plainRequest.planned (Spec.parse fileChecks) (Predicate.extract fileChecks),
        ∃ a, recordOf Check.emptyWorld plainRequest.settings.toCheckContext check = .ok a) ∧
      ∃ text questions, ∀ (validations : Table Validation) (concurrency : Int),
        validations.entries.Perm (Spec.parse fileChecks).validations.entries → 1 ≤ concurrency →
          (∃ receipt asked, Course Check.emptyWorld (plainRequest.withConcurrency concurrency)
            { Spec.parse fileChecks with validations } (Predicate.extract fileChecks) receipt asked) ∧
          ∀ receipt asked, Course Check.emptyWorld (plainRequest.withConcurrency concurrency)
            { Spec.parse fileChecks with validations } (Predicate.extract fileChecks) receipt asked →
              receipt.text = text ∧ asked.Perm questions := by
  have returns : ∀ check ∈ plainRequest.planned (Spec.parse fileChecks) (Predicate.extract fileChecks),
      (recordOf Check.emptyWorld plainRequest.settings.toCheckContext check).toBool = true := by
    decide +kernel
  have returns' : ∀ check ∈
      plainRequest.planned (Spec.parse fileChecks) (Predicate.extract fileChecks),
      ∃ a, recordOf Check.emptyWorld plainRequest.settings.toCheckContext check = .ok a := by
    intro check here
    cases recorded : recordOf Check.emptyWorld plainRequest.settings.toCheckContext check with
    | ok a => exact ⟨a, rfl⟩
    | error trouble =>
        have returned := returns check here
        rw [recorded] at returned
        cases returned
  exact ⟨returns', course_unique _ _ _ _ returns'⟩

end IntentSpec
