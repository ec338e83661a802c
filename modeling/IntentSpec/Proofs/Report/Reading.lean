import IntentSpec.Proofs.Datum.Reading
import IntentSpec.Report.Reading

/-!
# What the readers of reports accept

Evidence, outcomes, violations and reports are read from objects or assembled from fields.  Both ways
look at the fields in the same order and end in one check, so both are described by one relation between
the fields and the value (`Outcome.From`, `Violation.From`, `From`); they differ in how they come by
the parts.

* `Evidence.Reads`, `Outcome.Reads`, `Violation.Reads`, `Reads` — an object, and the value that is read
  from it.
* `ofDatum_eq_ok_iff` — reading answers with exactly these values.
* `Outcome.Admitted`, `Violation.Admitted`, `Admitted` — what is true of every value that was read or
  assembled.
-/

namespace IntentSpec

open Datum IntentSpec.Field

theorem Field.getOr_eq_get {key : String} (default : Datum) {m : List (String × Datum)}
    (there : key ∈ m.map Prod.fst) : getOr key default m = get key m := by
  obtain ⟨field, here, rfl⟩ := List.mem_map.mp there
  have found : (m.find? (·.1 == field.1)).isSome :=
    List.find?_isSome.mpr ⟨field, here, beq_self_eq_true field.1⟩
  obtain ⟨field', found⟩ := Option.isSome_iff_exists.mp found
  rw [getOr, get, found]
  rfl

/-! ## Words of the vocabularies -/

theorem Verdict.mem_all (v : Verdict) : v ∈ Verdict.all := by cases v <;> decide

theorem Verdict.name_injective (v w : Verdict) (same : v.name = w.name) : v = w := by
  cases v <;> cases w <;> first | rfl | exact absurd same (by decide)

namespace Report

theorem Status.mem_all (s : Status) : s ∈ Status.all := by cases s <;> decide

theorem Status.name_injective (s t : Status) (same : s.name = t.name) : s = t := by
  cases s <;> cases t <;> first | rfl | exact absurd same (by decide)

theorem EvidenceKind.mem_all (k : EvidenceKind) : k ∈ EvidenceKind.all := by cases k <;> decide

theorem EvidenceKind.name_injective (k l : EvidenceKind) (same : k.name = l.name) : k = l := by
  cases k <;> cases l <;> first | rfl | exact absurd same (by decide)

/-! ## What is admitted -/

/-- An outcome names its rule, and gives a reason exactly when its status is unknown. -/
structure Outcome.Admitted (o : Outcome) : Prop where
  named : Text.isBlankText o.validation = false
  /-- There is a reason exactly when the rule could not be decided. -/
  explained : given o.reason = true ↔ o.status = .unknown

/-- A violation names its kind, and what it refers to has finite numbers. -/
structure Violation.Admitted (v : Violation) : Prop where
  named : Text.isBlankText v.code = false
  /-- What is referred to can be written down. -/
  finite : (Json.object v.refs).Finite

/-- A report consists of admitted parts, and has no violations if its verdict is valid. -/
structure Admitted (r : Report) : Prop where
  outcomes : ∀ o ∈ r.outcomes, o.Admitted
  violations : ∀ v ∈ r.violations, v.Admitted
  /-- A valid report has no violations. -/
  sound : r.verdict = .valid → r.violations = []
  /-- The further members have finite numbers. -/
  finite : ∀ members ∈ r.extensions, (Json.object members).Finite

theorem Outcome.accept_eq_ok_iff (o o' : Outcome) : o.accept = .ok o' ↔ o = o' ∧ o'.Admitted := by
  unfold Outcome.accept
  split
  next blank =>
    refine iff_of_false (by simp) ?_
    rintro ⟨rfl, admitted⟩
    exact absurd blank (by simp [admitted.named])
  next named =>
    split
    next missing =>
      refine iff_of_false (by simp) ?_
      rintro ⟨rfl, admitted⟩
      have given := admitted.explained.mpr missing.1
      exact absurd missing.2 (by simp [given])
    next noneMissing =>
      split
      next surplus =>
        refine iff_of_false (by simp) ?_
        rintro ⟨rfl, admitted⟩
        exact surplus.1 (admitted.explained.mp surplus.2)
      next noneSurplus =>
        have admitted : o.Admitted := by
          refine ⟨by simpa using named, fun given => ?_, fun unknown => ?_⟩
          · exact by_contra fun known => noneSurplus ⟨known, given⟩
          · exact by_contra fun absent => noneMissing ⟨unknown, by simpa using absent⟩
        constructor
        · rintro ⟨⟩
          exact ⟨rfl, admitted⟩
        · rintro ⟨rfl, -⟩
          rfl

theorem Violation.accept_eq_ok_iff (v v' : Violation) :
    v.accept = .ok v' ↔ v = v' ∧ Text.isBlankText v'.code = false := by
  unfold Violation.accept
  split
  next blank =>
    refine iff_of_false (by simp) ?_
    rintro ⟨rfl, named⟩
    exact absurd blank (by simp [named])
  next named =>
    constructor
    · rintro ⟨⟩
      exact ⟨rfl, by simpa using named⟩
    · rintro ⟨rfl, -⟩
      rfl

theorem accept_eq_ok_iff (r r' : Report) :
    r.accept = .ok r' ↔ r = r' ∧ (r'.verdict = .valid → r'.violations = []) := by
  unfold Report.accept
  split
  next found =>
    refine iff_of_false (by simp) ?_
    rintro ⟨rfl, sound⟩
    exact absurd found.2 (by simp [sound found.1])
  next sound =>
    constructor
    · rintro ⟨⟩
      refine ⟨rfl, fun valid => ?_⟩
      simpa [valid] using sound
    · rintro ⟨rfl, -⟩
      rfl

/-! ## Values and their fields -/

/-- Evidence has these fields. -/
structure Evidence.From (m : List (String × Datum)) (e : Evidence) : Prop where
  kind : TextIs (get "kind" m) e.kind.name
  value : TextIs (get "value" m) e.value

/-- An outcome has these fields beside its evidence. -/
structure Outcome.From (m : List (String × Datum)) (o : Outcome) : Prop where
  validation : TextIs (get "validation_id" m) o.validation
  status : TextIs (get "status" m) o.status.name
  targets : Sequence TextIs (getOr "targets" (.tuple []) m) o.targets
  reason : Perhaps TextIs (get "reason" m) o.reason
  notes : Perhaps (Sequence TextIs) (get "notes" m) o.notes
  admitted : o.Admitted

/-- A violation has these fields beside its evidence, where what it refers to is given. -/
structure Violation.From (m : List (String × Datum)) (refs : Datum) (v : Violation) : Prop where
  code : TextIs (get "code" m) v.code
  message : TextIs (get "message" m) v.message
  /-- What is referred to is an exact object. -/
  refs : jsonObject "StructuredError.refs" refs = .ok v.refs
  notes : Perhaps (Sequence TextIs) (get "notes" m) v.notes
  named : Text.isBlankText v.code = false

/-- A report has these fields beside its outcomes and its violations. -/
structure From (m : List (String × Datum)) (r : Report) : Prop where
  specVersion : TextIs (get "spec_version" m) r.specVersion
  systemId : TextIs (get "system_id" m) r.systemId
  verdict : TextIs (get "state" m) r.verdict.name
  notes : Perhaps (Sequence TextIs) (get "notes" m) r.notes
  extensions : Perhaps (fun d members => jsonObject "CanonicalReport.extensions" d = .ok members)
    (get "extensions" m) r.extensions
  /-- A valid report has no violations. -/
  sound : r.verdict = .valid → r.violations = []

section Fields

variable (m : List (String × Datum))

theorem optionalText_eq_ok_iff (path : String) (d : Datum) (o : Option String) :
    optional (text path) d = .ok o ↔ Perhaps TextIs d o :=
  optional_eq_ok_iff d (text_eq_ok_iff path) nofun o

theorem optionalTexts_eq_ok_iff (path : String) (d : Datum) (o : Option (List String)) :
    optional (texts path) d = .ok o ↔ Perhaps (Sequence TextIs) d o :=
  optional_eq_ok_iff d (texts_eq_ok_iff path) not_sequence_null o

theorem Evidence.ofFields_eq_ok_iff (e : Evidence) :
    Evidence.ofFields m = .ok e ↔ Evidence.From m e := by
  unfold Evidence.ofFields
  simp only [bind_eq_ok_iff, member_eq_ok_iff _ _ EvidenceKind.mem_all EvidenceKind.name_injective,
    text_eq_ok_iff]
  constructor
  · rintro ⟨kind, isKind, value, isValue, ⟨⟩⟩
    exact ⟨isKind, isValue⟩
  · rintro ⟨isKind, isValue⟩
    exact ⟨_, isKind, _, isValue, rfl⟩

theorem Outcome.ofFields_eq_ok_iff (evidence : Except Rejection (Option (List Evidence)))
    (o : Outcome) :
    Outcome.ofFields m evidence = .ok o ↔ Outcome.From m o ∧ evidence = .ok o.evidence := by
  unfold Outcome.ofFields
  simp only [bind_eq_ok_iff, name_eq_ok_iff,
    member_eq_ok_iff _ _ Status.mem_all Status.name_injective, texts_eq_ok_iff,
    optionalText_eq_ok_iff, optionalTexts_eq_ok_iff, Outcome.accept_eq_ok_iff]
  constructor
  · rintro ⟨_, ⟨validation, -⟩, _, status, _, targets, _, reason, _, read, _, notes, rfl, admitted⟩
    exact ⟨⟨validation, status, targets, reason, notes, admitted⟩, read⟩
  · rintro ⟨⟨validation, status, targets, reason, notes, admitted⟩, read⟩
    exact ⟨_, ⟨validation, admitted.named⟩, _, status, _, targets, _, reason, _, read, _, notes, rfl,
      admitted⟩

theorem Violation.ofFields_eq_ok_iff (refs : Datum)
    (evidence : Except Rejection (Option (List Evidence))) (v : Violation) :
    Violation.ofFields m refs evidence = .ok v ↔
      Violation.From m refs v ∧ evidence = .ok v.evidence := by
  unfold Violation.ofFields
  simp only [bind_eq_ok_iff, name_eq_ok_iff, text_eq_ok_iff, optionalTexts_eq_ok_iff,
    Violation.accept_eq_ok_iff]
  constructor
  · rintro ⟨_, ⟨code, -⟩, _, message, _, refs, _, read, _, notes, rfl, named⟩
    exact ⟨⟨code, message, refs, notes, named⟩, read⟩
  · rintro ⟨⟨code, message, refs, notes, named⟩, read⟩
    exact ⟨_, ⟨code, named⟩, _, message, _, refs, _, read, _, notes, rfl, named⟩

theorem ofFields_eq_ok_iff (outcomes : Except Rejection (List Outcome))
    (violations : Except Rejection (List Violation)) (r : Report) :
    ofFields m outcomes violations = .ok r ↔
      From m r ∧ outcomes = .ok r.outcomes ∧ violations = .ok r.violations := by
  have extensions : ∀ d o, optional (jsonObject "CanonicalReport.extensions") d = .ok o ↔
      Perhaps (fun d members => jsonObject "CanonicalReport.extensions" d = .ok members) d o :=
    fun d => optional_eq_ok_iff d (fun _ _ => Iff.rfl) nofun
  unfold ofFields
  simp only [bind_eq_ok_iff, text_eq_ok_iff,
    member_eq_ok_iff _ _ Verdict.mem_all Verdict.name_injective, optionalTexts_eq_ok_iff, extensions,
    accept_eq_ok_iff]
  constructor
  · rintro ⟨_, specVersion, _, systemId, _, verdict, _, outcomes, _, violations, _, notes, _,
      extensions, rfl, sound⟩
    exact ⟨⟨specVersion, systemId, verdict, notes, extensions, sound⟩, outcomes, violations⟩
  · rintro ⟨⟨specVersion, systemId, verdict, notes, extensions, sound⟩, outcomes, violations⟩
    exact ⟨_, specVersion, _, systemId, _, verdict, _, outcomes, _, violations, _, notes, _,
      extensions, rfl, sound⟩

end Fields

/-! ## Reading objects -/

/-- The object is read as the evidence. -/
def Evidence.Reads (d : Datum) (e : Evidence) : Prop :=
  HasFields ["kind", "value"] [] (fun m => Evidence.From m e) d

/-- The object is read as the outcome. -/
def Outcome.Reads (d : Datum) (o : Outcome) : Prop :=
  HasFields ["validation_id", "status", "targets"] ["reason", "evidence", "notes"]
    (fun m => Outcome.From m o ∧ Perhaps (Sequence Evidence.Reads) (get "evidence" m) o.evidence) d

/-- What a violation refers to, where whatever counts as nothing stands for no references. -/
def Violation.refsOf (m : List (String × Datum)) : Datum :=
  if (get "refs" m).isNothing then .mapping [] else get "refs" m

/-- The object is read as the violation. -/
def Violation.Reads (d : Datum) (v : Violation) : Prop :=
  HasFields ["code", "message"] ["refs", "evidence", "notes"]
    (fun m => Violation.From m (refsOf m) v ∧
      Perhaps (Sequence Evidence.Reads) (get "evidence" m) v.evidence) d

/-- The object is read as the report. -/
def Reads (d : Datum) (r : Report) : Prop :=
  HasFields ["spec_version", "system_id", "state", "outcomes", "errors"] ["notes", "extensions"]
    (fun m => From m r ∧ Sequence Outcome.Reads (get "outcomes" m) r.outcomes ∧
      Sequence Violation.Reads (get "errors" m) r.violations) d

section Objects

variable (d : Datum)

theorem Evidence.ofDatum_eq_ok_iff (e : Evidence) : Evidence.ofDatum d = .ok e ↔ Evidence.Reads d e := by
  unfold Evidence.ofDatum Evidence.Reads
  rw [members_bind_eq_ok_iff]
  exact hasFields_congr fun m _ => Evidence.ofFields_eq_ok_iff m e

theorem evidenceList_eq_ok_iff (path : String) (o : Option (List Evidence)) :
    evidenceList path d = .ok o ↔ Perhaps (Sequence Evidence.Reads) d o :=
  optional_eq_ok_iff d (fun d as => mapM_sequence_eq_ok_iff path d Evidence.ofDatum_eq_ok_iff as)
    not_sequence_null o

theorem Outcome.ofDatum_eq_ok_iff (o : Outcome) : Outcome.ofDatum d = .ok o ↔ Outcome.Reads d o := by
  unfold Outcome.ofDatum Outcome.Reads
  rw [members_bind_eq_ok_iff]
  refine hasFields_congr fun m _ => ?_
  simp only [bind_eq_ok_iff, evidenceList_eq_ok_iff, Outcome.ofFields_eq_ok_iff, Except.ok.injEq]
  constructor
  · rintro ⟨_, evidence, fields, rfl⟩
    exact ⟨fields, evidence⟩
  · rintro ⟨fields, evidence⟩
    exact ⟨_, evidence, fields, rfl⟩

theorem Violation.ofDatum_eq_ok_iff (v : Violation) :
    Violation.ofDatum d = .ok v ↔ Violation.Reads d v := by
  unfold Violation.ofDatum Violation.Reads Violation.refsOf
  rw [members_bind_eq_ok_iff]
  refine hasFields_congr fun m _ => ?_
  simp only [bind_eq_ok_iff, evidenceList_eq_ok_iff, Violation.ofFields_eq_ok_iff, Except.ok.injEq]
  constructor
  · rintro ⟨_, evidence, fields, rfl⟩
    exact ⟨fields, evidence⟩
  · rintro ⟨fields, evidence⟩
    exact ⟨_, evidence, fields, rfl⟩

/-- **An object is read as a report exactly when it has the fields of the report.** The relation on
the right is free of the reader and of the order in which it looks at fields. -/
theorem ofDatum_eq_ok_iff (r : Report) : ofDatum d = .ok r ↔ Reads d r := by
  have outcomes : ∀ ds os, List.mapM Outcome.ofDatum ds = .ok os ↔ List.Forall₂ Outcome.Reads ds os := by
    simp only [mapM_eq_ok_iff, Outcome.ofDatum_eq_ok_iff, implies_true]
  have violations : ∀ ds vs,
      List.mapM Violation.ofDatum ds = .ok vs ↔ List.Forall₂ Violation.Reads ds vs := by
    simp only [mapM_eq_ok_iff, Violation.ofDatum_eq_ok_iff, implies_true]
  unfold ofDatum Reads
  rw [members_bind_eq_ok_iff]
  refine hasFields_congr fun m _ => ?_
  simp only [bind_eq_ok_iff, sequence_eq_ok_iff, outcomes, violations, ofFields_eq_ok_iff,
    Except.ok.injEq, sequence_iff]
  constructor
  · rintro ⟨os, isSequence, vs, isSequence', _, each, _, each', fields, rfl, rfl⟩
    exact ⟨fields, ⟨os, isSequence, each⟩, ⟨vs, isSequence', each'⟩⟩
  · rintro ⟨fields, ⟨os, isSequence, each⟩, ⟨vs, isSequence', each'⟩⟩
    exact ⟨os, isSequence, vs, isSequence', _, each, _, each', fields, rfl, rfl⟩

end Objects

end Report

end IntentSpec
