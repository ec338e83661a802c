import IntentSpec.Config.Schema
import IntentSpec.Proofs.Datum.Lookup
import IntentSpec.Proofs.Datum.Shown

/-!
# What the check of a configuration finds

The check of a configuration collects issues, and on the way it writes down keys and advice, which fails where
an integer in them is too long.  The two concerns are taken apart here.  What is wrong with a configuration
(`found`), and the normal form of what is not wrong (`acceptedForm`), are said for every value, with keys in their
spelling.  When the check can write down what it looks at is a condition of its own (`Legible`): the keys of the
configuration and of its sections are written, and so is a version of the schema other than the supported one.
Then one equation says what the check does (`gives_validate`): it answers with what is found if the
configuration is legible, and fails otherwise, whatever else is wrong.

The condition is about keys and one field only.  Values are never written down by the check, so a limit of any
length is accepted, and a text that is not allowed is quoted without being read.

* `Spot` — a place in a configuration, with its section and its path.
* `found` — the issues with their places, in the order in which they are reported.
* `Legible` — the configurations about which everything can be said.
* `gives_validate` — what the check answers.
-/

namespace IntentSpec.Config

open Datum

/-- A section of the schema: its name, and its fields with their checks. -/
abbrev SectionRule := String × List (String × FieldCheck)

/-- A place in a configuration. -/
inductive Spot where
  | whole
  | part (section_ : String)
  | field (section_ name : String)
deriving DecidableEq

/-- The path under which a place is reported. -/
def Spot.path : Spot → String
  | whole => "<root>"
  | part s => s
  | field s name => s ++ "." ++ name

/-! ## What is found -/

/-- The keys of entries as they are shown, with integers of any length. -/
def shownKeys (entries : List (Datum × Datum)) : List String := entries.map fun e => e.1.label

/-- What is wrong with the keys of entries, in order. -/
def keyFindings (names : List String) (entries : List (Datum × Datum)) : List (String × Defect) :=
  (sortTexts (dedup (shownKeys entries ++ names))).filterMap fun key =>
    if !names.contains key then some (key, .unknownField)
    else if !(shownKeys entries).contains key then some (key, .missingField)
    else none

/-- What is wrong with the values of fields, in the order of the fields. -/
def valueFindings (fields : List (String × FieldCheck)) (inner : List (Datum × Datum)) :
    List (String × Defect) :=
  fields.filterMap fun f =>
    (lookup? f.1 inner).bind fun d =>
      match f.2 d with
      | .ok (.error defect) => some (f.1, defect)
      | _ => none

/-- What is wrong within a section, in the order in which it is reported. -/
def sectionFindings (entries : List (Datum × Datum)) (s : SectionRule) : List (Spot × Defect) :=
  match lookup? s.1 entries with
  | none | some .null => []
  | some (.mapping inner) =>
    (keyFindings (s.2.map Prod.fst) inner ++ valueFindings s.2 inner).map fun w => (.field s.1 w.1, w.2)
  | some d => [(.part s.1, .notObject d.typeName)]

/-- What is wrong with a configuration, in the order in which it is reported. -/
def found : Datum → List (Spot × Defect)
  | .mapping entries =>
    (keyFindings (schema.map Prod.fst) entries).map (fun w => (.part w.1, w.2)) ++
      schema.flatMap (sectionFindings entries)
  | d => [(.whole, .notObject d.typeName)]

/-- A thing that is wrong as it is reported. -/
def report (w : Spot × Defect) : Issue := ⟨w.1.path, w.2⟩

/-! ## What is accepted -/

/-- The fields of a section that are accepted, in their normal form. -/
def acceptedFields (fields : List (String × FieldCheck)) (inner : List (Datum × Datum)) :
    List (String × Datum) :=
  fields.filterMap fun f =>
    (lookup? f.1 inner).bind fun d =>
      match f.2 d with
      | .ok (.ok normal) => some (f.1, normal)
      | _ => none

/-- The normal form of a section that is a mapping. -/
def normalSection (entries : List (Datum × Datum)) (s : SectionRule) : Option (String × Datum) :=
  match lookup? s.1 entries with
  | some (.mapping inner) => some (s.1, .object (acceptedFields s.2 inner))
  | _ => none

/-- The normal form of entries: of each section the fields that are accepted. -/
def acceptedForm (entries : List (Datum × Datum)) : Datum :=
  .object (schema.filterMap (normalSection entries))

/-! ## What can be written down -/

/-- All keys of the entries can be written. -/
def KeysWritable (entries : List (Datum × Datum)) : Prop := ∀ e ∈ entries, e.1.Writable

/-- Everything about the entries of a configuration can be written down. -/
structure LegibleEntries (entries : List (Datum × Datum)) : Prop where
  sections : KeysWritable entries
  /-- The keys of a section are only looked at if it is one of the schema and a mapping. -/
  fields : ∀ s ∈ schema, ∀ inner, lookup? s.1 entries = some (.mapping inner) → KeysWritable inner
  /-- A version that is no positive integer is rejected without advice. -/
  version : ∀ inner n, lookup? "meta" entries = some (.mapping inner) →
    lookup? "schema_version" inner = some (.int n) → 0 < n → Text.Writable n

/-- Everything about a configuration can be written down.  What is no mapping is only named by its type. -/
def Legible (d : Datum) : Prop := ∀ entries, d = .mapping entries → LegibleEntries entries

/-- The checks of the fields that are there have an answer. -/
def Answered (fields : List (String × FieldCheck)) (inner : List (Datum × Datum)) : Prop :=
  ∀ f ∈ fields, ∀ d, lookup? f.1 inner = some d → ∃ answer, f.2 d = .ok answer

theorem gives_migrationGuidance {n : Int} (other : n ≠ schemaVersion) :
    ∃ words, Gives (migrationGuidance n) .unwritable (Text.Writable n) words := by
  have supported : Text.Writable schemaVersion := by decide +kernel
  have both : Text.Writable n ∧ Text.Writable schemaVersion ↔ Text.Writable n := and_iff_left supported
  unfold migrationGuidance
  -- the numbers are written the same whatever the supported version is
  generalize schemaVersion = current at other both ⊢
  have written (before between after : String) :
      Gives (do return before ++ (← Text.writeInteger n) ++ between ++ (← Text.writeInteger current) ++
        after) .unwritable (Text.Writable n)
        (before ++ toString n ++ between ++ toString current ++ after) := by
    refine Gives.congr (Gives.bind (Text.gives_writeInteger n) ?_) both
    exact (Text.gives_writeInteger current).map fun second => before ++ toString n ++ between ++ second ++ after
  rcases Int.lt_or_gt_of_ne other with older | newer
  · rw [if_pos older]
    exact ⟨_, written ..⟩
  · rw [if_neg (Int.not_lt.mpr (Int.le_of_lt newer)), if_pos newer]
    exact ⟨_, written ..⟩

/-- The check of the version has an answer unless it is asked for advice about a version that is too long. -/
theorem gives_currentVersion (d : Datum) :
    ∃ answer, Gives (currentVersion d) .unwritable (∀ n, d = .int n → 0 < n → Text.Writable n) answer := by
  have settled (answer : Except Defect Datum) (value : currentVersion d = .ok answer)
      (legible : ∀ n, d = .int n → 0 < n → Text.Writable n) :
      ∃ answer, Gives (currentVersion d) .unwritable (∀ n, d = .int n → 0 < n → Text.Writable n) answer :=
    ⟨answer, value ▸ .of_holds legible⟩
  cases d with
  | int n =>
      by_cases positive : n < 1
      · refine settled (.error .notPositive) (by simp [currentVersion, positiveInteger, positive]) ?_
        rintro m same above
        obtain rfl := Datum.int.inj same
        omega
      · by_cases current : n = schemaVersion
        · subst current
          refine settled (.ok (.int schemaVersion)) rfl ?_
          rintro m same -
          obtain rfl := Datum.int.inj same
          decide +kernel
        · obtain ⟨words, advice⟩ := gives_migrationGuidance current
          have asked : currentVersion (.int n) =
              migrationGuidance n >>= fun words => .ok (.error (.version words)) := by
            simp [currentVersion, positiveInteger, positive, current, pure, Except.pure]
          refine ⟨_, asked ▸ (advice.map fun words => (.error (.version words) : Except Defect Datum)).congr ?_⟩
          constructor
          · rintro short m same -
            exact Datum.int.inj same ▸ short
          · intro legible
            exact legible n rfl (by omega)
  | _ => exact settled (.error (.notInteger _)) rfl fun n same => by cases same

/-- The checks of the schema fail for one reason only. -/
theorem eq_unwritable_of_schema : ∀ s ∈ schema, ∀ f ∈ s.2, ∀ d e, f.2 d = .error e → e = .unwritable := by
  have version (d : Datum) (e : Text.NumeralError) (fails : currentVersion d = .error e) : e = .unwritable := by
    obtain ⟨answer, gives⟩ := gives_currentVersion d
    exact (gives.eq_error_iff.mp fails).2.symm
  have value (check : ValueCheck) (d : Datum) (e : Text.NumeralError)
      (fails : FieldCheck.ofValue check d = .error e) : e = .unwritable := by
    cases fails
  simp only [schema, List.forall_mem_cons, List.not_mem_nil, false_imp_iff, implies_true, and_true]
  exact ⟨version, ⟨value _, value _⟩, ⟨value _, value _, value _⟩, value _, value _, value _, value _⟩

/-- The fields of the schema are answered unless one of them is a version that cannot be written. -/
theorem answered_iff {s : SectionRule} (mem : s ∈ schema) (inner : List (Datum × Datum)) :
    Answered s.2 inner ↔ (s.1 = "meta" →
      ∀ n, lookup? "schema_version" inner = some (.int n) → 0 < n → Text.Writable n) := by
  have value (check : ValueCheck) (d : Datum) : ∃ answer, FieldCheck.ofValue check d = .ok answer :=
    ⟨_, rfl⟩
  have version (d : Datum) : (∃ answer, currentVersion d = .ok answer) ↔
      ∀ n, d = .int n → 0 < n → Text.Writable n := by
    obtain ⟨answer, gives⟩ := gives_currentVersion d
    exact gives.exists_ok_iff
  unfold Answered
  simp only [schema, List.mem_cons, List.not_mem_nil, or_false] at mem
  rcases mem with rfl | rfl | rfl | rfl
  · simp only [List.forall_mem_singleton, version, true_imp_iff]
    constructor
    · intro each n there
      exact each (.int n) there n rfl
    · rintro each d there n rfl
      exact each n there
  all_goals
    simp only [List.forall_mem_cons, List.not_mem_nil, false_imp_iff, implies_true, and_true, value]
    exact iff_of_true trivial fun same => absurd same (by decide)

/-- What can be written down about entries, section by section. -/
theorem legibleEntries_iff (entries : List (Datum × Datum)) :
    LegibleEntries entries ↔ KeysWritable entries ∧ ∀ s ∈ schema, ∀ inner,
      lookup? s.1 entries = some (.mapping inner) → KeysWritable inner ∧ Answered s.2 inner := by
  constructor
  · intro legible
    refine ⟨legible.sections, fun s mem inner there => ⟨legible.fields s mem inner there, ?_⟩⟩
    rw [answered_iff mem]
    rintro isMeta
    exact fun n => legible.version inner n (isMeta ▸ there)
  · rintro ⟨keys, each⟩
    refine ⟨keys, fun s mem inner there => (each s mem inner there).1, fun inner n there => ?_⟩
    have isMeta : ("meta", [("schema_version", currentVersion)]) ∈ schema := List.mem_cons_self
    exact (answered_iff isMeta inner).mp (each _ isMeta inner there).2 rfl n

/-! ## The check -/

theorem gives_keyIssues (entries : List (Datum × Datum)) (names : List String) (place : String → String) :
    Gives (keyIssues entries names place) .unwritable (KeysWritable entries)
      ((keyFindings names entries).map fun w => ⟨place w.1, w.2⟩) := by
  have same : (keyFindings names entries).map (fun w => (⟨place w.1, w.2⟩ : Issue)) =
      (sortTexts (dedup (shownKeys entries ++ names))).filterMap fun key =>
        if !names.contains key then some ⟨place key, .unknownField⟩
        else if !(shownKeys entries).contains key then some ⟨place key, .missingField⟩
        else none := by
    unfold keyFindings
    rw [List.map_filterMap]
    refine List.filterMap_congr fun key _ => ?_
    split
    · rfl
    · split <;> rfl
  rw [same]
  exact (Gives.mapM fun e _ => gives_plain e.1).map _

/-- What comes of a field: nothing if it is not there. -/
def fieldResult (section_ : String) (inner : List (Datum × Datum)) (f : String × FieldCheck) :
    Option (Except Issue (String × Datum)) :=
  (lookup? f.1 inner).bind fun d =>
    match f.2 d with
    | .ok (.ok normal) => some (.ok (f.1, normal))
    | .ok (.error defect) => some (.error ⟨section_ ++ "." ++ f.1, defect⟩)
    | .error _ => none

theorem gives_checkField {f : String × FieldCheck} (only : ∀ d e, f.2 d = .error e → e = .unwritable)
    (section_ : String) (inner : List (Datum × Datum)) :
    Gives (checkField section_ inner f.1 f.2) .unwritable
      (∀ d, lookup? f.1 inner = some d → ∃ answer, f.2 d = .ok answer) (fieldResult section_ inner f) := by
  unfold checkField fieldResult
  cases lookup? f.1 inner with
  | none => exact .of_holds fun d same => by cases same
  | some d =>
      simp only [Option.some.injEq, forall_eq', Option.bind_some]
      cases answer : f.2 d with
      | error e =>
          refine ⟨fun ⟨_, same⟩ => (by cases same), fun _ => ?_⟩
          rw [only d e answer]
          rfl
      | ok verdict =>
          cases verdict with
          | _ => exact .of_holds ⟨_, rfl⟩

theorem errors_fieldResult (section_ : String) (inner : List (Datum × Datum))
    (fields : List (String × FieldCheck)) :
    errors (fields.filterMap (fieldResult section_ inner)) =
      (valueFindings fields inner).map fun w => ⟨section_ ++ "." ++ w.1, w.2⟩ := by
  unfold errors valueFindings
  rw [List.filterMap_filterMap, List.map_filterMap]
  refine List.filterMap_congr fun f _ => ?_
  unfold fieldResult
  cases lookup? f.1 inner with
  | none => rfl
  | some d =>
      simp only [Option.bind_some]
      rcases f.2 d with _ | _ | _ <;> rfl

theorem values_fieldResult (section_ : String) (inner : List (Datum × Datum))
    (fields : List (String × FieldCheck)) :
    values (fields.filterMap (fieldResult section_ inner)) = acceptedFields fields inner := by
  unfold values acceptedFields
  rw [List.filterMap_filterMap]
  refine List.filterMap_congr fun f _ => ?_
  unfold fieldResult
  cases lookup? f.1 inner with
  | none => rfl
  | some d =>
      simp only [Option.bind_some]
      rcases f.2 d with _ | _ | _ <;> rfl

theorem gives_checkSection {s : SectionRule} (mem : s ∈ schema) (entries : List (Datum × Datum)) :
    Gives (checkSection entries s.1 s.2) .unwritable
      (∀ inner, lookup? s.1 entries = some (.mapping inner) → KeysWritable inner ∧ Answered s.2 inner)
      ((sectionFindings entries s).map report, normalSection entries s) := by
  unfold checkSection sectionFindings normalSection
  cases lookup? s.1 entries with
  | none => exact .of_holds fun inner there => by cases there
  | some d =>
      cases d with
      | mapping inner =>
          have results : Gives (s.2.mapM fun f => checkField s.1 inner f.1 f.2) .unwritable
              (Answered s.2 inner) (s.2.map (fieldResult s.1 inner)) :=
            Gives.mapM fun f here => gives_checkField (eq_unwritable_of_schema s mem f here) s.1 inner
          have wrong : errors ((s.2.map (fieldResult s.1 inner)).filterMap id) =
              (valueFindings s.2 inner).map fun w => ⟨s.1 ++ "." ++ w.1, w.2⟩ := by
            rw [List.filterMap_map, Function.id_comp, errors_fieldResult]
          have right : values ((s.2.map (fieldResult s.1 inner)).filterMap id) = acceptedFields s.2 inner := by
            rw [List.filterMap_map, Function.id_comp, values_fieldResult]
          simp only [Option.some.injEq, Datum.mapping.injEq, forall_eq', List.map_append, List.map_map]
          rw [← right, show List.map (report ∘ fun w => (Spot.field s.1 w.1, w.2)) (valueFindings s.2 inner) =
            _ from wrong.symm]
          exact (gives_keyIssues ..).bind (results.map _)
      | _ => exact .of_holds fun inner there => by cases there

theorem gives_checkEntries (entries : List (Datum × Datum)) :
    Gives (checkEntries entries) .unwritable (LegibleEntries entries)
      ((found (.mapping entries)).map report, acceptedForm entries) := by
  have sections : Gives (schema.mapM fun s => checkSection entries s.1 s.2) .unwritable
      (∀ s ∈ schema, ∀ inner, lookup? s.1 entries = some (.mapping inner) →
        KeysWritable inner ∧ Answered s.2 inner)
      (schema.map fun s => ((sectionFindings entries s).map report, normalSection entries s)) :=
    Gives.mapM fun s mem => gives_checkSection mem entries
  have wrong : (schema.flatMap (sectionFindings entries)).map report =
      (schema.map fun s => ((sectionFindings entries s).map report, normalSection entries s)).flatMap
        (·.1) := by
    rw [List.flatMap_map, List.map_flatMap]
  have right : schema.filterMap (normalSection entries) =
      (schema.map fun s => ((sectionFindings entries s).map report, normalSection entries s)).filterMap
        (·.2) := by
    rw [List.filterMap_map]
    rfl
  refine Gives.congr ?_ (legibleEntries_iff entries).symm
  unfold checkEntries found acceptedForm
  rw [List.map_append, List.map_map, wrong, right]
  exact (gives_keyIssues ..).bind (sections.map _)

/-- **The issues are what is found**, if the configuration is legible; otherwise the check fails,
and no issue is told. -/
theorem gives_issues (d : Datum) : Gives (issues d) .unwritable (Legible d) ((found d).map report) := by
  cases d with
  | mapping entries =>
      refine ((gives_checkEntries entries).map Prod.fst).congr ?_
      simp [Legible]
  | _ => exact .of_holds fun entries same => by cases same

/-- What the check says of a value. -/
def verdict : Datum → Except (List Issue) Datum
  | .mapping entries =>
    if found (.mapping entries) = [] then .ok (acceptedForm entries)
    else .error ((found (.mapping entries)).map report)
  | d => .error ((found d).map report)

/-- **What the check answers**: the verdict, if the configuration is legible. -/
theorem gives_validate (d : Datum) : Gives (validate d) .unwritable (Legible d) (verdict d) := by
  cases d with
  | mapping entries =>
      have silent : (found (.mapping entries)).map report = [] ↔ found (.mapping entries) = [] :=
        List.map_eq_nil_iff
      have outcome := (gives_checkEntries entries).map fun (answer : List Issue × Datum) =>
        if answer.1 = [] then Except.ok answer.2 else .error answer.1
      simp only [silent] at outcome
      have asked : validate (.mapping entries) = checkEntries entries >>= fun answer =>
          .ok (if answer.1 = [] then .ok answer.2 else .error answer.1) := by
        rw [validate]
        rcases checkEntries entries with _ | ⟨_ | _, normal⟩ <;> rfl
      rw [asked]
      exact outcome.congr (by simp [Legible])
  | _ => exact .of_holds fun entries same => by cases same

end IntentSpec.Config
