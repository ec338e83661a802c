import IntentSpec.Proofs.Report.Reading

/-!
# The schema of a report

Which untyped values are reports is said here without the readers, by conditions on the fields of each
object.  The one condition that is open is what may stand for the references of a violation: the
schema is strict if it is nothing but an object of JSON values, null or absent, and loose if it may be
any value that counts as nothing.

All other conditions are shared, and the schema takes the open one as a parameter.  So the comparison of the
readers with either schema is one induction over the parts of a report, and the difference between the two
schemas is a difference at one field.  The field for further members, which is read next to it, has no such
exception: a value that counts as nothing and is no object is rejected there.

The order of the members of an object is free, and a key that stands twice cannot occur, as the value is a
mapping.

* `Fits` — the schema, for a condition on references.
* `exists_ofDatum_iff` — a value is read as a report exactly when it fits the loose schema.
* `fits_strict_iff` — the two schemas differ where false, zero or an empty text or sequence stands for
  the references of a violation.
-/

namespace IntentSpec

open IntentSpec.Field

namespace Datum

/-- A text. -/
def IsText (d : Datum) : Prop := ∃ s, d = .text s

/-- A sequence whose items satisfy a condition. -/
def ArrayOf (P : Datum → Prop) (d : Datum) : Prop :=
  ∃ items, (d = .list items ∨ d = .tuple items) ∧ ∀ item ∈ items, P item

/-- The null value, which also stands for an absent field, or what satisfies a condition. -/
def Nullable (P : Datum → Prop) (d : Datum) : Prop := d = .null ∨ P d

section Relations

variable {α : Type} {R : Datum → α → Prop} {P Q : Datum → Prop}

theorem ArrayOf.imp (holds : ∀ d, P d → Q d) {d : Datum} (each : ArrayOf P d) : ArrayOf Q d := by
  obtain ⟨items, isSequence, each⟩ := each
  exact ⟨items, isSequence, fun item here => holds item (each item here)⟩

theorem arrayOf_congr (same : ∀ d, P d ↔ Q d) (d : Datum) : ArrayOf P d ↔ ArrayOf Q d :=
  ⟨.imp fun d => (same d).mp, .imp fun d => (same d).mpr⟩

theorem nullable_congr (same : ∀ d, P d ↔ Q d) (d : Datum) : Nullable P d ↔ Nullable Q d :=
  or_congr_right (same d)

theorem exists_forall₂_iff (ds : List Datum) : (∃ as, List.Forall₂ R ds as) ↔ ∀ d ∈ ds, ∃ a, R d a := by
  induction ds with
  | nil => simp
  | cons d ds ih =>
      rw [List.forall_mem_cons, ← ih]
      constructor
      · rintro ⟨_, each⟩
        cases each with
        | cons first rest => exact ⟨⟨_, first⟩, _, rest⟩
      · rintro ⟨⟨a, first⟩, as, rest⟩
        exact ⟨a :: as, .cons first rest⟩

theorem exists_sequence_iff (d : Datum) :
    (∃ as, Sequence R d as) ↔ ArrayOf (fun d => ∃ a, R d a) d := by
  simp only [sequence_iff, ArrayOf, ← exists_forall₂_iff]
  constructor
  · rintro ⟨as, items, isSequence, each⟩
    exact ⟨items, isSequence, as, each⟩
  · rintro ⟨items, isSequence, as, each⟩
    exact ⟨as, items, isSequence, each⟩

theorem exists_perhaps_iff (d : Datum) :
    (∃ o, Perhaps R d o) ↔ Nullable (fun d => ∃ a, R d a) d := by
  constructor
  · rintro ⟨o, _ | there⟩
    · exact .inl rfl
    · exact .inr ⟨_, there⟩
  · rintro (rfl | ⟨a, there⟩)
    · exact ⟨none, .absent⟩
    · exact ⟨some a, .present there⟩

theorem exists_texts_iff (d : Datum) : (∃ l, Sequence TextIs d l) ↔ ArrayOf IsText d :=
  exists_sequence_iff d

theorem exists_notes_iff (d : Datum) :
    (∃ o, Perhaps (Sequence TextIs) d o) ↔ Nullable (ArrayOf IsText) d :=
  (exists_perhaps_iff d).trans (nullable_congr exists_texts_iff d)

end Relations

end Datum

open Datum

namespace Report

/-! ## The schema -/

/-- The fields of evidence. -/
structure Evidence.Schema (m : List (String × Datum)) : Prop where
  /-- The kind is one of the kinds of evidence. -/
  kind : ∃ k : EvidenceKind, get "kind" m = .text k.name
  value : IsText (get "value" m)

/-- An object that is evidence. -/
def Evidence.Fits (d : Datum) : Prop := HasFields ["kind", "value"] [] Evidence.Schema d

/-- The fields of an outcome. -/
structure Outcome.Schema (m : List (String × Datum)) : Prop where
  /-- The rule is a text that is not blank. -/
  validation : ∃ s, get "validation_id" m = .text s ∧ Text.isBlankText s = false
  /-- The status is one of the statuses. -/
  status : ∃ s : Status, get "status" m = .text s.name
  /-- The targets are an array of texts. -/
  targets : ArrayOf IsText (get "targets" m)
  /-- The reason is a text, if it is there. -/
  reason : Nullable IsText (get "reason" m)
  /-- The reason is there and not empty exactly when the status is unknown. -/
  explained : (∃ s, get "reason" m = .text s ∧ s ≠ "") ↔ get "status" m = .text Status.unknown.name
  /-- The evidence is an array of evidence, if it is there. -/
  evidence : Nullable (ArrayOf Evidence.Fits) (get "evidence" m)
  /-- The notes are an array of texts, if they are there. -/
  notes : Nullable (ArrayOf IsText) (get "notes" m)

/-- An object that is an outcome. -/
def Outcome.Fits (d : Datum) : Prop :=
  HasFields ["validation_id", "status", "targets"] ["reason", "evidence", "notes"] Outcome.Schema d

/-- The fields of a violation, where the references satisfy a condition. -/
structure Violation.Schema (refs : Datum → Prop) (m : List (String × Datum)) : Prop where
  /-- The kind is a text that is not blank. -/
  code : ∃ s, get "code" m = .text s ∧ Text.isBlankText s = false
  message : IsText (get "message" m)
  refs : refs (get "refs" m)
  /-- The evidence is an array of evidence, if it is there. -/
  evidence : Nullable (ArrayOf Evidence.Fits) (get "evidence" m)
  /-- The notes are an array of texts, if they are there. -/
  notes : Nullable (ArrayOf IsText) (get "notes" m)

/-- An object that is a violation. -/
def Violation.Fits (refs : Datum → Prop) (d : Datum) : Prop :=
  HasFields ["code", "message"] ["refs", "evidence", "notes"] (Violation.Schema refs) d

/-- The fields of a report, where the references of violations satisfy a condition. -/
structure Schema (refs : Datum → Prop) (m : List (String × Datum)) : Prop where
  /-- The version line is a text. -/
  specVersion : IsText (get "spec_version" m)
  systemId : IsText (get "system_id" m)
  /-- The verdict is one of the verdicts. -/
  verdict : ∃ v : Verdict, get "state" m = .text v.name
  /-- The outcomes are an array of outcomes. -/
  outcomes : ArrayOf Outcome.Fits (get "outcomes" m)
  /-- The violations are an array of violations. -/
  violations : ArrayOf (Violation.Fits refs) (get "errors" m)
  /-- The notes are an array of texts, if they are there. -/
  notes : Nullable (ArrayOf IsText) (get "notes" m)
  /-- The further members are an object of JSON values, if they are there. -/
  extensions : Nullable ExactObject (get "extensions" m)
  /-- There are no violations when the verdict is valid. -/
  sound : get "state" m = .text Verdict.valid.name →
    get "errors" m = .list [] ∨ get "errors" m = .tuple []

/-- An object that is a report. -/
def Fits (refs : Datum → Prop) (d : Datum) : Prop :=
  HasFields ["spec_version", "system_id", "state", "outcomes", "errors"] ["notes", "extensions"]
    (Schema refs) d

/-- References are an object of JSON values, if they are there. -/
def StrictRefs (d : Datum) : Prop := Nullable ExactObject d

/-- References are an object of JSON values, or anything that counts as nothing. -/
def LooseRefs (d : Datum) : Prop := d.isNothing = true ∨ d.ExactObject

/-! ## What is read fits the loose schema -/

theorem Evidence.exists_reads_iff (d : Datum) : (∃ e, Evidence.Reads d e) ↔ Evidence.Fits d := by
  unfold Evidence.Reads Evidence.Fits
  rw [exists_hasFields_iff]
  refine hasFields_congr fun m _ => ?_
  constructor
  · rintro ⟨e, kind, value⟩
    exact ⟨⟨e.kind, kind⟩, ⟨e.value, value⟩⟩
  · rintro ⟨⟨kind, isKind⟩, ⟨value, isValue⟩⟩
    exact ⟨⟨kind, value⟩, isKind, isValue⟩

theorem Evidence.exists_evidence_iff (d : Datum) :
    (∃ o, Perhaps (Sequence Evidence.Reads) d o) ↔ Nullable (ArrayOf Evidence.Fits) d := by
  refine (exists_perhaps_iff d).trans (nullable_congr (fun d => ?_) d)
  exact (exists_sequence_iff d).trans (arrayOf_congr Evidence.exists_reads_iff d)

/-- A reason that was read is not empty when its field is a text that is not empty. -/
theorem given_iff {d : Datum} {reason : Option String} (read : Perhaps TextIs d reason) :
    given reason = true ↔ ∃ s, d = .text s ∧ s ≠ "" := by
  cases read with
  | absent => simp [given]
  | @present _ s is =>
      obtain rfl : d = .text s := is
      simp [given]

theorem Outcome.exists_reads_iff (d : Datum) : (∃ o, Outcome.Reads d o) ↔ Outcome.Fits d := by
  unfold Outcome.Reads Outcome.Fits
  rw [exists_hasFields_iff]
  refine hasFields_congr fun m complete => ?_
  have targets : getOr "targets" (.tuple []) m = get "targets" m :=
    getOr_eq_get _ (complete.there "targets" (by simp))
  have unknown : ∀ s : Status, get "status" m = .text s.name →
      (s = .unknown ↔ get "status" m = .text Status.unknown.name) := by
    intro s status
    rw [status, Datum.text.injEq]
    exact ⟨congrArg Status.name, Status.name_injective s .unknown⟩
  constructor
  · rintro ⟨o, fields, evidence⟩
    exact {
      validation := ⟨o.validation, fields.validation, fields.admitted.named⟩
      status := ⟨o.status, fields.status⟩
      targets := (exists_texts_iff _).mp ⟨o.targets, targets ▸ fields.targets⟩
      reason := (exists_perhaps_iff _).mp ⟨o.reason, fields.reason⟩
      explained := by
        rw [← given_iff fields.reason, fields.admitted.explained]
        exact unknown o.status fields.status
      evidence := (Evidence.exists_evidence_iff _).mp ⟨o.evidence, evidence⟩
      notes := (exists_notes_iff _).mp ⟨o.notes, fields.notes⟩ }
  · intro schema
    obtain ⟨validation, isValidation, named⟩ := schema.validation
    obtain ⟨status, isStatus⟩ := schema.status
    obtain ⟨l, isTargets⟩ := (exists_texts_iff _).mpr schema.targets
    obtain ⟨reason, isReason⟩ := (exists_perhaps_iff _).mpr schema.reason
    obtain ⟨evidence, isEvidence⟩ := (Evidence.exists_evidence_iff _).mpr schema.evidence
    obtain ⟨notes, isNotes⟩ := (exists_notes_iff _).mpr schema.notes
    refine ⟨⟨validation, status, l, reason, evidence, notes⟩, ?_, isEvidence⟩
    refine ⟨isValidation, isStatus, targets ▸ isTargets, isReason, isNotes, named, ?_⟩
    rw [given_iff isReason, schema.explained]
    exact (unknown status isStatus).symm

theorem Violation.exists_refs_iff (m : List (String × Datum)) (path : String) :
    (∃ refs, jsonObject path (Violation.refsOf m) = .ok refs) ↔ LooseRefs (get "refs" m) := by
  rw [exists_jsonObject_iff]
  unfold Violation.refsOf LooseRefs
  by_cases nothing : (get "refs" m).isNothing = true
  · rw [if_pos nothing]
    have empty : (Datum.mapping []).ExactObject :=
      ⟨.mapping (List.forall_mem_nil _) (List.forall_mem_nil _), [], rfl⟩
    exact iff_of_true empty (.inl nothing)
  · rw [if_neg nothing]
    exact ⟨.inr, fun either => either.resolve_left nothing⟩

theorem Violation.exists_reads_iff (d : Datum) :
    (∃ v, Violation.Reads d v) ↔ Violation.Fits LooseRefs d := by
  unfold Violation.Reads Violation.Fits
  rw [exists_hasFields_iff]
  refine hasFields_congr fun m _ => ?_
  constructor
  · rintro ⟨v, fields, evidence⟩
    exact {
      code := ⟨v.code, fields.code, fields.named⟩
      message := ⟨v.message, fields.message⟩
      refs := (exists_refs_iff m _).mp ⟨v.refs, fields.refs⟩
      evidence := (Evidence.exists_evidence_iff _).mp ⟨v.evidence, evidence⟩
      notes := (exists_notes_iff _).mp ⟨v.notes, fields.notes⟩ }
  · intro schema
    obtain ⟨code, isCode, named⟩ := schema.code
    obtain ⟨message, isMessage⟩ := schema.message
    obtain ⟨refs, isRefs⟩ := (exists_refs_iff m "StructuredError.refs").mpr schema.refs
    obtain ⟨evidence, isEvidence⟩ := (Evidence.exists_evidence_iff _).mpr schema.evidence
    obtain ⟨notes, isNotes⟩ := (exists_notes_iff _).mpr schema.notes
    exact ⟨⟨code, message, refs, evidence, notes⟩, ⟨isCode, isMessage, isRefs, isNotes, named⟩,
      isEvidence⟩

/-- A sequence from which nothing is read is empty. -/
theorem sequence_nil_iff {α : Type} {R : Datum → α → Prop} {d : Datum} {as : List α}
    (read : Sequence R d as) : as = [] ↔ d = .list [] ∨ d = .tuple [] := by
  rcases read with each | each <;> cases each <;> simp

theorem exists_reads_iff (d : Datum) : (∃ r, Reads d r) ↔ Fits LooseRefs d := by
  unfold Reads Fits
  rw [exists_hasFields_iff]
  refine hasFields_congr fun m _ => ?_
  have valid : ∀ v : Verdict, get "state" m = .text v.name →
      (v = .valid ↔ get "state" m = .text Verdict.valid.name) := by
    intro v verdict
    rw [verdict, Datum.text.injEq]
    exact ⟨congrArg Verdict.name, Verdict.name_injective v .valid⟩
  have extensions : ∀ d, (∃ o, Perhaps
      (fun d members => jsonObject "CanonicalReport.extensions" d = .ok members) d o) ↔
        Nullable ExactObject d :=
    fun d => (exists_perhaps_iff d).trans (nullable_congr (exists_jsonObject_iff _) d)
  have outcomes : ∀ d, (∃ os, Sequence Outcome.Reads d os) ↔ ArrayOf Outcome.Fits d :=
    fun d => (exists_sequence_iff d).trans (arrayOf_congr Outcome.exists_reads_iff d)
  have violations : ∀ d, (∃ vs, Sequence Violation.Reads d vs) ↔ ArrayOf (Violation.Fits LooseRefs) d :=
    fun d => (exists_sequence_iff d).trans (arrayOf_congr Violation.exists_reads_iff d)
  constructor
  · rintro ⟨r, fields, isOutcomes, isViolations⟩
    exact {
      specVersion := ⟨r.specVersion, fields.specVersion⟩
      systemId := ⟨r.systemId, fields.systemId⟩
      verdict := ⟨r.verdict, fields.verdict⟩
      outcomes := (outcomes _).mp ⟨r.outcomes, isOutcomes⟩
      violations := (violations _).mp ⟨r.violations, isViolations⟩
      notes := (exists_notes_iff _).mp ⟨r.notes, fields.notes⟩
      extensions := (extensions _).mp ⟨r.extensions, fields.extensions⟩
      sound := by
        rw [← valid r.verdict fields.verdict, ← sequence_nil_iff isViolations]
        exact fields.sound }
  · intro schema
    obtain ⟨specVersion, isVersion⟩ := schema.specVersion
    obtain ⟨systemId, isSystem⟩ := schema.systemId
    obtain ⟨verdict, isVerdict⟩ := schema.verdict
    obtain ⟨os, isOutcomes⟩ := (outcomes _).mpr schema.outcomes
    obtain ⟨vs, isViolations⟩ := (violations _).mpr schema.violations
    obtain ⟨notes, isNotes⟩ := (exists_notes_iff _).mpr schema.notes
    obtain ⟨further, isFurther⟩ := (extensions _).mpr schema.extensions
    refine ⟨⟨specVersion, systemId, verdict, os, vs, notes, further⟩, ?_, isOutcomes, isViolations⟩
    refine ⟨isVersion, isSystem, isVerdict, isNotes, isFurther, ?_⟩
    rw [valid verdict isVerdict, sequence_nil_iff isViolations]
    exact schema.sound

/-- **A value is read as a report exactly when it fits the loose schema.** -/
theorem exists_ofDatum_iff (d : Datum) : (∃ r, ofDatum d = .ok r) ↔ Fits LooseRefs d := by
  rw [← exists_reads_iff]
  exact exists_congr (ofDatum_eq_ok_iff d)

/-! ## Where the two schemas differ -/

/-- What counts as nothing and is neither null nor an object. -/
def Stray (d : Datum) : Prop := d.isNothing = true ∧ ¬ StrictRefs d

/-- Some violation of the report has such a value for its references. -/
def HasStrayRefs (d : Datum) : Prop :=
  ∃ m, d = .object m ∧ ∃ items, (get "errors" m = .list items ∨ get "errors" m = .tuple items) ∧
    ∃ fields, .object fields ∈ items ∧ Stray (get "refs" fields)

theorem LooseRefs.of_strict {d : Datum} (strict : StrictRefs d) : LooseRefs d := by
  rcases strict with rfl | isObject
  · exact .inl rfl
  · exact .inr isObject

theorem strictRefs_iff (d : Datum) : StrictRefs d ↔ LooseRefs d ∧ ¬ Stray d := by
  constructor
  · exact fun strict => ⟨.of_strict strict, fun stray => stray.2 strict⟩
  · rintro ⟨nothing | isObject, kept⟩
    · exact by_contra fun strict => kept ⟨nothing, strict⟩
    · exact .inr isObject

theorem Violation.Schema.imp {refs refs' : Datum → Prop} {m : List (String × Datum)}
    (schema : Violation.Schema refs m) (holds : refs' (get "refs" m)) : Violation.Schema refs' m :=
  { schema with refs := holds }

theorem Schema.imp {refs refs' : Datum → Prop} {m : List (String × Datum)} (schema : Schema refs m)
    (violations : ArrayOf (Violation.Fits refs') (get "errors" m)) : Schema refs' m :=
  { schema with violations }

/-- **The schemas differ where the references of a violation count as nothing and are neither null nor
an object.** -/
theorem fits_strict_iff (d : Datum) : Fits StrictRefs d ↔ Fits LooseRefs d ∧ ¬ HasStrayRefs d := by
  constructor
  · rintro ⟨m, rfl, complete, schema⟩
    obtain ⟨items, isSequence, each⟩ := schema.violations
    refine ⟨⟨m, rfl, complete, schema.imp ⟨items, isSequence, fun item here => ?_⟩⟩, ?_⟩
    · obtain ⟨fields, isObject, known, fits⟩ := each item here
      exact ⟨fields, isObject, known, fits.imp (.of_strict fits.refs)⟩
    · rintro ⟨m', same, items', isSequence', fields, here, stray⟩
      obtain rfl := object_injective same
      have read := (sequence_eq_ok_iff "" _ _).mpr isSequence
      obtain rfl := Except.ok.inj (read.symm.trans ((sequence_eq_ok_iff "" _ _).mpr isSequence'))
      obtain ⟨fields', same, -, fits⟩ := each _ here
      obtain rfl := object_injective same
      exact stray.2 fits.refs
  · rintro ⟨⟨m, rfl, complete, schema⟩, kept⟩
    obtain ⟨items, isSequence, each⟩ := schema.violations
    refine ⟨m, rfl, complete, schema.imp ⟨items, isSequence, fun item here => ?_⟩⟩
    obtain ⟨fields, rfl, known, fits⟩ := each item here
    have strict : StrictRefs (get "refs" fields) :=
      (strictRefs_iff _).mpr ⟨fits.refs, fun stray => kept ⟨m, rfl, items, isSequence, fields, here, stray⟩⟩
    exact ⟨fields, rfl, known, fits.imp strict⟩

/-- **Reading is strict unless references that count as nothing are taken for none.**  A value is read
as a report when it fits the loose schema, and is rejected otherwise.  So the values that are read are
those of the strict schema, but for reports of the loose schema in which false, zero or an empty
text or sequence stands for the references of some violation. -/
theorem read_iff_fits (d : Datum) :
    ((∃ r, ofDatum d = .ok r) ↔ Fits LooseRefs d) ∧
      ((∃ rejection, ofDatum d = .error rejection) ↔ ¬ Fits LooseRefs d) ∧
        (((∃ r, ofDatum d = .ok r) ↔ Fits StrictRefs d) ↔ ¬ (Fits LooseRefs d ∧ HasStrayRefs d)) := by
  have rejected : (∃ rejection, ofDatum d = .error rejection) ↔ ¬ ∃ r, ofDatum d = .ok r := by
    cases ofDatum d <;> simp
  refine ⟨exists_ofDatum_iff d, rejected.trans (not_congr (exists_ofDatum_iff d)), ?_⟩
  rw [exists_ofDatum_iff, fits_strict_iff]
  tauto

/-- A report whose only violation has the value false for its references. -/
def falseRefsReport : Datum :=
  .object [("spec_version", .text "DIL:spec v0"), ("system_id", .text "S"), ("state", .text "invalid"),
    ("outcomes", .list []),
    ("errors", .list [.object [("code", .text "E"), ("message", .text "m"), ("refs", .bool false)]])]

/-- False references are read as none, and the strict schema does not allow them. -/
theorem not_read_iff_strict_falseRefsReport :
    ¬ ((∃ r, ofDatum falseRefsReport = .ok r) ↔ Fits StrictRefs falseRefsReport) := by
  intro strict
  have fits : Fits StrictRefs falseRefsReport := strict.mp ⟨_, rfl⟩
  refine ((fits_strict_iff _).mp fits).2 ⟨_, rfl, _, .inl rfl, _, List.mem_singleton_self _, rfl, ?_⟩
  rintro (absent | ⟨-, entries, isObject⟩)
  · cases absent
  · cases isObject

end Report

end IntentSpec
