import IntentSpec.Proofs.Config.Findings

/-!
# What a valid configuration is

Which values are configurations is said here without the check, by conditions on sections and fields.
A configuration has exactly the sections of the schema, each of which is a mapping with exactly its
fields, and the check of every field accepts what the field holds.  The check of a configuration
asks for a little less: a section that is null is taken for one that need not be looked at.

What fits can always be written down, since its keys are names and its version is the supported one
(`FitsLoosely.legible`).  So the check answers for every value that fits, and fails only for values that do not;
for these it makes no difference that they are not told what is wrong with them, but it does make one that they
are not rejected like others.  An exact check has to answer, so this is one of the two ways in which the check
is not exact.

* `FitsStrictly`, `FitsLoosely` — the two schemas.
* `whole` — a configuration with a value for every field and nothing else.
* `issues_eq_nil_iff` — nothing is wrong with a value exactly when it fits the loose schema.
* `validate_iff_fits` — the check agrees with the strict schema unless a section is null or something is too long
  to be written.
-/

namespace IntentSpec.Config

open Datum

/-! ## The schemas -/

/-- The keys of entries are the given names and no others. -/
def HasKeys (names : List String) (entries : List (Datum × Datum)) : Prop :=
  ∀ key, key ∈ entries.map Prod.fst ↔ ∃ name ∈ names, key = .text name

/-- A mapping with exactly the given fields, each of which holds what its check accepts. -/
def FitsSection (fields : List (String × FieldCheck)) (d : Datum) : Prop :=
  ∃ inner, d = .mapping inner ∧ HasKeys (fields.map Prod.fst) inner ∧
    ∀ f ∈ fields, ∃ value normal, lookup? f.1 inner = some value ∧ f.2 value = .ok (.ok normal)

/-- A mapping with exactly the sections of the schema, each of which satisfies a condition. -/
def Fits (fitsSection : List (String × FieldCheck) → Datum → Prop) (d : Datum) : Prop :=
  ∃ entries, d = .mapping entries ∧ HasKeys (schema.map Prod.fst) entries ∧
    ∀ s ∈ schema, ∃ value, lookup? s.1 entries = some value ∧ fitsSection s.2 value

/-- The strict schema: every section is a mapping with its fields. -/
def FitsStrictly (d : Datum) : Prop := Fits FitsSection d

/-- The loose schema: a section may be null. -/
def FitsLoosely (d : Datum) : Prop := Fits (fun fields value => value = .null ∨ FitsSection fields value) d

/-- Some section of the schema is null. -/
def HasNullSection (d : Datum) : Prop :=
  ∃ entries, d = .mapping entries ∧ ∃ s ∈ schema, lookup? s.1 entries = some .null

theorem FitsLoosely.of_strict {d : Datum} (fits : FitsStrictly d) : FitsLoosely d := by
  obtain ⟨entries, rfl, keys, sections⟩ := fits
  refine ⟨entries, rfl, keys, fun s hs => ?_⟩
  obtain ⟨value, there, fits⟩ := sections s hs
  exact ⟨value, there, .inr fits⟩

/-- **The schemas differ where a section is null.** The strict schema asks every section to be a
mapping with all its fields. -/
theorem fitsStrictly_iff (d : Datum) : FitsStrictly d ↔ FitsLoosely d ∧ ¬ HasNullSection d := by
  constructor
  · intro fits
    refine ⟨.of_strict fits, ?_⟩
    rintro ⟨entries, rfl, s, hs, isNull⟩
    obtain ⟨_, same, -, sections⟩ := fits
    obtain rfl := Datum.mapping.inj same
    obtain ⟨value, there, inner, rfl, -⟩ := sections s hs
    exact absurd (there.symm.trans isNull) (by simp)
  · rintro ⟨⟨entries, rfl, keys, sections⟩, stated⟩
    refine ⟨entries, rfl, keys, fun s hs => ?_⟩
    obtain ⟨value, there, isNull | fits⟩ := sections s hs
    · exact absurd ⟨entries, rfl, s, hs, isNull ▸ there⟩ stated
    · exact ⟨value, there, fits⟩

/-! ## Configurations in their normal form -/

/-- A configuration that has given sections, with a value for every field and nothing else. -/
def layout (sections : List SectionRule) (value : String → String → Datum) : Datum :=
  .object (sections.map fun s => (s.1, .object (s.2.map fun f => (f.1, value s.1 f.1))))

/-- A configuration with a value for every field and nothing else. -/
def whole (value : String → String → Datum) : Datum := layout schema value

/-- What stands at a field of a section. -/
def fieldOf? (section_ field : String) (entries : List (Datum × Datum)) : Option Datum :=
  (lookup? section_ entries).bind (Datum.find? field)

/-- Whether a section is there and not null. -/
def isStated (entries : List (Datum × Datum)) (section_ : String) : Bool :=
  match lookup? section_ entries with
  | none | some .null => false
  | some _ => true

/-- What stands at a field is accepted by its check, and has the given value in its normal form. -/
def Settles (entries : List (Datum × Datum)) (value : String → String → Datum) : Prop :=
  ∀ s ∈ schema, ∀ f ∈ s.2, ∀ d, fieldOf? s.1 f.1 entries = some d → f.2 d = .ok (.ok (value s.1 f.1))

/-- The names of the schema are names of fields. -/
theorem isFieldName_schema :
    (∀ name ∈ schema.map Prod.fst, isFieldName name = true) ∧
      ∀ s ∈ schema, ∀ name ∈ s.2.map Prod.fst, isFieldName name = true := by
  simp only [schema, List.map_cons, List.map_nil, List.forall_mem_cons]
  decide

/-- No name stands twice in the schema. -/
theorem nodup_schema :
    (schema.map Prod.fst).Nodup ∧ ∀ s ∈ schema, (s.2.map Prod.fst).Nodup := by
  simp only [schema, List.map_cons, List.map_nil, List.forall_mem_cons]
  decide

/-! ## The keys of a mapping -/

/-- **Nothing is wrong with the keys exactly when they are those that are expected.** Keys are
compared by how they are shown, and no key but the text itself is shown as the name of a field. -/
theorem keyFindings_eq_nil_iff {expected : List String}
    (names : ∀ name ∈ expected, isFieldName name = true) (entries : List (Datum × Datum)) :
    keyFindings expected entries = [] ↔ HasKeys expected entries := by
  have mem_shown (name : String) :
      name ∈ shownKeys entries ↔ ∃ key ∈ entries.map Prod.fst, key.label = name := by
    simp [shownKeys]
  have quiet : keyFindings expected entries = [] ↔
      (∀ name ∈ shownKeys entries, name ∈ expected) ∧ ∀ name ∈ expected, name ∈ shownKeys entries := by
    unfold keyFindings
    rw [List.filterMap_eq_nil_iff]
    simp only [(sortTexts_perm _).mem_iff, mem_dedup, List.mem_append]
    constructor
    · intro silent
      constructor
      · intro name shown
        by_contra unknown
        simpa [unknown] using silent name (.inl shown)
      · intro name isName
        by_contra missing
        simpa [isName, missing] using silent name (.inr isName)
    · rintro ⟨known, complete⟩ name (shown | isName)
      · simp [known name shown, shown]
      · simp [isName, complete name isName]
  rw [quiet]
  constructor
  · rintro ⟨known, complete⟩ key
    constructor
    · intro here
      have isName := known _ ((mem_shown _).mpr ⟨key, here, rfl⟩)
      exact ⟨_, isName, eq_text_of_label (names _ isName) rfl⟩
    · rintro ⟨name, isName, rfl⟩
      obtain ⟨key, here, shows⟩ := (mem_shown _).mp (complete name isName)
      exact eq_text_of_label (names name isName) shows ▸ here
  · intro keys
    constructor
    · intro name shown
      obtain ⟨key, here, rfl⟩ := (mem_shown _).mp shown
      obtain ⟨name, isName, rfl⟩ := (keys key).mp here
      exact isName
    · intro name isName
      exact (mem_shown _).mpr ⟨.text name, (keys _).mpr ⟨name, isName, rfl⟩, rfl⟩

/-- Keys that are names can be written. -/
theorem HasKeys.writable {names : List String} {entries : List (Datum × Datum)}
    (keys : HasKeys names entries) : KeysWritable entries := by
  intro e here
  obtain ⟨name, -, same⟩ := (keys e.1).mp (List.mem_map_of_mem here)
  exact same ▸ .text name

/-! ## Sections -/

/-- Nothing is wrong with the values of fields exactly when all that are there are accepted. -/
theorem valueFindings_eq_nil_iff {fields : List (String × FieldCheck)} {inner : List (Datum × Datum)}
    (answered : Answered fields inner) : valueFindings fields inner = [] ↔
      ∀ f ∈ fields, ∀ d, lookup? f.1 inner = some d → ∃ w, f.2 d = .ok (.ok w) := by
  unfold valueFindings
  rw [List.filterMap_eq_nil_iff]
  refine forall₂_congr fun f hf => ?_
  cases there : lookup? f.1 inner with
  | none => simp
  | some d =>
      obtain ⟨answer, answers⟩ := answered f hf d there
      cases answer <;> simp [answers]

theorem acceptedFields_eq_map {fields : List (String × FieldCheck)} {inner : List (Datum × Datum)}
    {value : String → Datum}
    (settled : ∀ f ∈ fields, ∃ d, lookup? f.1 inner = some d ∧ f.2 d = .ok (.ok (value f.1))) :
    acceptedFields fields inner = fields.map fun f => (f.1, value f.1) := by
  unfold acceptedFields
  rw [List.filterMap_eq_map_iff_forall_eq_some]
  intro f hf
  obtain ⟨d, there, accepts⟩ := settled f hf
  simp [there, accepts]

/-- **Nothing is wrong with a section that is there exactly when it is null or fits its schema.** -/
theorem sectionFindings_eq_nil_iff {entries : List (Datum × Datum)} {s : SectionRule} {d : Datum}
    (names : ∀ name ∈ s.2.map Prod.fst, isFieldName name = true)
    (there : lookup? s.1 entries = some d) :
    (sectionFindings entries s = [] ∧
      ∀ inner, d = .mapping inner → KeysWritable inner ∧ Answered s.2 inner) ↔
      d = .null ∨ FitsSection s.2 d := by
  cases d with
  | null => simp [sectionFindings, there]
  | mapping inner =>
      simp only [sectionFindings, there, List.map_eq_nil_iff, List.append_eq_nil_iff,
        keyFindings_eq_nil_iff names, FitsSection, reduceCtorEq, false_or, Datum.mapping.injEq,
        exists_eq_left', forall_eq']
      constructor
      · rintro ⟨⟨keys, quiet⟩, -, answered⟩
        refine ⟨keys, fun f hf => ?_⟩
        obtain ⟨d, isThere⟩ := (exists_lookup?_iff f.1 inner).mpr
          ((keys _).mpr ⟨f.1, List.mem_map_of_mem hf, rfl⟩)
        obtain ⟨normal, accepts⟩ := (valueFindings_eq_nil_iff answered).mp quiet f hf d isThere
        exact ⟨d, normal, isThere, accepts⟩
      · rintro ⟨keys, each⟩
        have accepted : ∀ f ∈ s.2, ∀ d, lookup? f.1 inner = some d → ∃ w, f.2 d = .ok (.ok w) := by
          intro f hf d isThere
          obtain ⟨value, normal, isValue, accepts⟩ := each f hf
          obtain rfl := Option.some.inj (isValue.symm.trans isThere)
          exact ⟨normal, accepts⟩
        have answered : Answered s.2 inner := fun f hf d isThere =>
          (accepted f hf d isThere).imp' _ fun _ => id
        exact ⟨⟨keys, (valueFindings_eq_nil_iff answered).mpr accepted⟩, keys.writable, answered⟩
  | _ => simp [sectionFindings, there, FitsSection]

/-- The normal form of a section that is there: nothing if it is null, and else a mapping with a value for
every field. -/
theorem normalSection_eq {entries : List (Datum × Datum)} {s : SectionRule} {d : Datum}
    {value : String → Datum} (there : lookup? s.1 entries = some d)
    (fits : d = .null ∨ FitsSection s.2 d)
    (settled : ∀ f ∈ s.2, ∀ d, fieldOf? s.1 f.1 entries = some d → f.2 d = .ok (.ok (value f.1))) :
    normalSection entries s = if isStated entries s.1 = true then
      some (s.1, .object (s.2.map fun f => (f.1, value f.1))) else none := by
  rcases fits with rfl | ⟨inner, rfl, -, each⟩
  · simp [normalSection, isStated, there]
  · have accepted : acceptedFields s.2 inner = s.2.map fun f => (f.1, value f.1) := by
      refine acceptedFields_eq_map fun f hf => ?_
      obtain ⟨d, normal, isThere, -⟩ := each f hf
      exact ⟨d, isThere, settled f hf d (by simp [fieldOf?, there, Datum.find?, isThere])⟩
    simp [normalSection, isStated, there, accepted]

/-! ## Configurations -/

/-- **Nothing is wrong with a value, and it can be written down, exactly when it fits the loose schema.** -/
theorem found_eq_nil_iff (d : Datum) : Legible d ∧ found d = [] ↔ FitsLoosely d := by
  cases d with
  | mapping entries =>
      have legible : Legible (.mapping entries) ↔ LegibleEntries entries := by
        simp [Legible]
      simp only [legible, legibleEntries_iff, found, List.append_eq_nil_iff, List.map_eq_nil_iff,
        List.flatMap_eq_nil_iff, keyFindings_eq_nil_iff isFieldName_schema.1, FitsLoosely, Fits,
        Datum.mapping.injEq, exists_eq_left']
      have each (keys : HasKeys (schema.map Prod.fst) entries) (s : SectionRule) (hs : s ∈ schema) :
          (sectionFindings entries s = [] ∧ ∀ inner, lookup? s.1 entries = some (.mapping inner) →
            KeysWritable inner ∧ Answered s.2 inner) ↔
          ∃ value, lookup? s.1 entries = some value ∧ (value = .null ∨ FitsSection s.2 value) := by
        obtain ⟨d, there⟩ := (exists_lookup?_iff s.1 entries).mpr
          ((keys _).mpr ⟨s.1, List.mem_map_of_mem hs, rfl⟩)
        simp only [there, Option.some.injEq, exists_eq_left',
          sectionFindings_eq_nil_iff (isFieldName_schema.2 s hs) there]
      constructor
      · rintro ⟨⟨-, answered⟩, keys, quiet⟩
        exact ⟨keys, fun s hs => (each keys s hs).mp ⟨quiet s hs, answered s hs⟩⟩
      · rintro ⟨keys, fits⟩
        exact ⟨⟨keys.writable, fun s hs => ((each keys s hs).mpr (fits s hs)).2⟩, keys,
          fun s hs => ((each keys s hs).mpr (fits s hs)).1⟩
  | _ => simp [found, FitsLoosely, Fits]

/-- What fits can be written down. -/
theorem FitsLoosely.legible {d : Datum} (fits : FitsLoosely d) : Legible d := ((found_eq_nil_iff d).mpr fits).1

/-- **Nothing is wrong with a value exactly when it fits the loose schema.** This is the half of the
check that does not depend on what can be written. -/
theorem issues_eq_nil_iff (d : Datum) : issues d = .ok [] ↔ FitsLoosely d := by
  rw [(gives_issues d).eq_ok_iff, List.map_eq_nil_iff, found_eq_nil_iff]

/-- A value with which something is wrong is rejected with all that is wrong. -/
theorem validate_of_found {d : Datum} (legible : Legible d) (wrong : found d ≠ []) :
    validate d = .ok (.error ((found d).map report)) := by
  rw [(gives_validate d).ok legible]
  cases d with
  | mapping entries => exact congrArg Except.ok (if_neg wrong)
  | _ => rfl

/-- The names of a list give a table of what is chosen for its elements. -/
theorem exists_table {α β : Type} [Nonempty β] {l : List (String × α)}
    (distinct : (l.map Prod.fst).Nodup) {P : String × α → β → Prop} (each : ∀ a ∈ l, ∃ b, P a b) :
    ∃ table : String → β, ∀ a ∈ l, P a (table a.1) := by
  induction l with
  | nil => exact ⟨fun _ => Classical.ofNonempty, by simp⟩
  | cons a l ih =>
      obtain ⟨first, rest⟩ := List.nodup_cons.mp distinct
      obtain ⟨b, holds⟩ := each a List.mem_cons_self
      obtain ⟨table, others⟩ := ih rest fun c hc => each c (List.mem_cons_of_mem a hc)
      refine ⟨fun name => if name = a.1 then b else table name, ?_⟩
      intro c hc
      rcases List.mem_cons.mp hc with rfl | later
      · simpa using holds
      · have apart : c.1 ≠ a.1 := fun same => first (same ▸ List.mem_map_of_mem later)
        simpa [apart] using others c later

/-- The fields of a value that fits have normal forms. -/
theorem exists_settles {entries : List (Datum × Datum)} (fits : FitsLoosely (.mapping entries)) :
    ∃ value, Settles entries value := by
  obtain ⟨_, same, -, sections⟩ := fits
  obtain rfl := Datum.mapping.inj same
  let settles (s : SectionRule) (f : String × FieldCheck) (value : Datum) : Prop :=
    ∀ d, fieldOf? s.1 f.1 entries = some d → f.2 d = .ok (.ok value)
  have : Nonempty Datum := ⟨.null⟩
  refine exists_table (P := fun s (value : String → Datum) => ∀ f ∈ s.2, settles s f (value f.1))
    nodup_schema.1 fun s hs => exists_table (P := settles s) (nodup_schema.2 s hs) fun f hf => ?_
  obtain ⟨d, there, rfl | ⟨inner, rfl, -, each⟩⟩ := sections s hs
  · exact ⟨.null, by simp [settles, fieldOf?, there, Datum.find?]⟩
  · obtain ⟨value, normal, isThere, accepts⟩ := each f hf
    exact ⟨normal, by simp [settles, fieldOf?, there, Datum.find?, isThere, accepts]⟩

/-- **What fits the loose schema is accepted**, and in its normal form it has the sections that are not
null, with all their fields. -/
theorem validate_of_fits {entries : List (Datum × Datum)} (fits : FitsLoosely (.mapping entries)) :
    ∃ value, Settles entries value ∧ validate (.mapping entries) =
      .ok (.ok (layout (schema.filter fun s => isStated entries s.1) value)) := by
  obtain ⟨value, settled⟩ := exists_settles fits
  refine ⟨value, settled, ?_⟩
  obtain ⟨legible, silent⟩ := (found_eq_nil_iff _).mpr fits
  obtain ⟨_, same, -, sections⟩ := fits
  obtain rfl := Datum.mapping.inj same
  have normal : acceptedForm entries = layout (schema.filter fun s => isStated entries s.1) value := by
    unfold acceptedForm layout
    rw [← List.filterMap_eq_map, List.filterMap_filter]
    refine congrArg Datum.object (List.filterMap_congr fun s hs => ?_)
    obtain ⟨d, there, fits⟩ := sections s hs
    exact normalSection_eq there fits (settled s hs)
  rw [(gives_validate _).ok legible, verdict, if_pos silent, normal]

/-- Without a section that is null, the normal form has every section. -/
theorem filter_isStated {entries : List (Datum × Datum)} (fits : FitsStrictly (.mapping entries)) :
    (schema.filter fun s => isStated entries s.1) = schema := by
  obtain ⟨_, same, -, sections⟩ := fits
  obtain rfl := Datum.mapping.inj same
  rw [List.filter_eq_self]
  intro s hs
  obtain ⟨_, there, inner, rfl, -⟩ := sections s hs
  simp [isStated, there]

theorem validate_of_fitsStrictly {entries : List (Datum × Datum)}
    (fits : FitsStrictly (.mapping entries)) :
    ∃ value, Settles entries value ∧ validate (.mapping entries) = .ok (.ok (whole value)) := by
  obtain ⟨value, settled, accepted⟩ := validate_of_fits (.of_strict fits)
  rw [filter_isStated fits] at accepted
  exact ⟨value, settled, accepted⟩

/-- The check of a value is exact: it accepts what fits the strict schema, with every field in the normal
form, and rejects all else with something to say. -/
structure CheckedExactly (d : Datum) : Prop where
  /-- Nothing is wrong with what fits, and with nothing else. -/
  silent : issues d = .ok [] ↔ FitsStrictly d
  /-- What fits is accepted, and in its normal form it has every section and every field. -/
  complete : FitsStrictly d →
    ∃ entries value, d = .mapping entries ∧ Settles entries value ∧ validate d = .ok (.ok (whole value))
  /-- All else is rejected, with at least one issue. -/
  rejected : ¬ FitsStrictly d →
    ∃ wrong, wrong ≠ [] ∧ issues d = .ok wrong ∧ validate d = .ok (.error wrong)

/-- **The check is exact unless a section is null or something is too long to be written.**  A value is accepted
when it fits the loose schema, with the sections that are not null and all their fields.  Any other value is
rejected with an issue if it can be written down, and has no answer otherwise.  So the check is exact for a
value exactly when the value is legible and is not one of the loose schema with a section that is null; the
normal form of such a value lacks that section. -/
theorem validate_iff_fits (d : Datum) :
    (issues d = .ok [] ↔ FitsLoosely d) ∧
      (∀ entries, d = .mapping entries → FitsLoosely d → ∃ value, Settles entries value ∧
        validate d = .ok (.ok (layout (schema.filter fun s => isStated entries s.1) value))) ∧
      (¬ FitsLoosely d → Legible d →
        ∃ wrong, wrong ≠ [] ∧ issues d = .ok wrong ∧ validate d = .ok (.error wrong)) ∧
      (¬ Legible d → issues d = .error .unwritable ∧ validate d = .error .unwritable) ∧
      (CheckedExactly d ↔ Legible d ∧ ¬ (FitsLoosely d ∧ HasNullSection d)) := by
  have refused (misfit : ¬ FitsLoosely d) (legible : Legible d) :
      ∃ wrong, wrong ≠ [] ∧ issues d = .ok wrong ∧ validate d = .ok (.error wrong) := by
    have wrong : found d ≠ [] := fun silent => misfit ((found_eq_nil_iff d).mp ⟨legible, silent⟩)
    exact ⟨_, mt List.map_eq_nil_iff.mp wrong, (gives_issues d).ok legible, validate_of_found legible wrong⟩
  refine ⟨issues_eq_nil_iff d, ?_, refused,
    fun lacks => ⟨(gives_issues d).fails lacks, (gives_validate d).fails lacks⟩, ?_⟩
  · rintro entries rfl fits
    exact validate_of_fits fits
  · constructor
    · intro exactly
      constructor
      · by_cases fits : FitsStrictly d
        · exact (FitsLoosely.of_strict fits).legible
        · obtain ⟨wrong, -, answers, -⟩ := exactly.rejected fits
          exact ((gives_issues d).eq_ok_iff.mp answers).1
      · rintro ⟨fits, nullSection⟩
        have strict := exactly.silent.mp ((issues_eq_nil_iff d).mpr fits)
        exact ((fitsStrictly_iff d).mp strict).2 nullSection
    · rintro ⟨legible, stated⟩
      have same : FitsLoosely d ↔ FitsStrictly d := by
        rw [fitsStrictly_iff]
        exact ⟨fun fits => ⟨fits, fun nullSection => stated ⟨fits, nullSection⟩⟩, And.left⟩
      refine ⟨(issues_eq_nil_iff d).trans same, ?_, fun misfit => refused (mt same.mp misfit) legible⟩
      rintro ⟨entries, rfl, fits⟩
      obtain ⟨value, settled, accepted⟩ := validate_of_fitsStrictly ⟨entries, rfl, fits⟩
      exact ⟨entries, value, rfl, settled, accepted⟩

/-- A configuration whose section about the configuration itself is null. -/
def unversionedConfig : Datum :=
  .object [("meta", .null),
    ("observability", .object [("log_format", .text "json"), ("log_level", .text "info")]),
    ("paths", .object [("receipts_dir", .text "r"), ("runs_dir", .text "u"), ("verification_dir", .text "v")]),
    ("verification", .object [("command_timeout_ms", .int 1), ("http_timeout_ms", .int 1),
      ("max_concurrency", .int 1), ("max_output_chars", .int 1)])]

/-- Nothing is found wrong with a section that is null, although it is no mapping. -/
theorem not_checkedExactly_unversionedConfig : ¬ CheckedExactly unversionedConfig := by
  intro exactly
  have silent : issues unversionedConfig = .ok [] := by decide +kernel
  have nullSection : HasNullSection unversionedConfig :=
    ⟨_, rfl, ("meta", [("schema_version", currentVersion)]), List.mem_cons_self, rfl⟩
  exact ((fitsStrictly_iff _).mp (exactly.silent.mp silent)).2 nullSection

end IntentSpec.Config
