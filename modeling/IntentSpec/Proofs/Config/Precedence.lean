import IntentSpec.Config.Load
import IntentSpec.Proofs.Config.Layers
import IntentSpec.Proofs.Document.Recognise
import IntentSpec.Proofs.Toml.Document

/-!
# Which layer a field comes from

A configuration is put together from four layers and is checked twice on the way, so a value may be
brought into its normal form more than once, and the layer of the environment is read against values that
come from below.  Neither can be told from the result: normal forms are kept by their checks, and a check
never turns a text into an integer.  So every field has the normal form of what the highest layer says
that says something of it, and paths are made absolute after that.

* `Regular` — what a check does to the values that it accepts.
* `chosen` — the value of the highest layer that sets a field.
* `load_layered` — the configuration, field by field.
-/

namespace IntentSpec.Config

open Datum Text

/-! ## Normal forms -/

/-- The field whose text is written in capitals. -/
def capitalField : String := "log_level"

/-- The normal form of a field: texts are trimmed, and that of the level is written in capitals. -/
def normalForm (field : String) : Datum → Datum
  | .text s => .text (String.ofList (if field = capitalField then upper (trim s.toList) else trim s.toList))
  | d => d

/-- Whether a value is an integer. -/
def isInteger : Datum → Bool
  | .int _ => true
  | _ => false

theorem variableValue_congr {d d' : Datum} (same : isInteger d = isInteger d') (section_ field raw : String) :
    variableValue section_ field raw d = variableValue section_ field raw d' := by
  cases d <;> cases d' <;> first | rfl | cases same

/-- A check accepts integers only or texts only, and brings them into a normal form that it keeps. -/
structure Regular (field : String) (integers : Bool) (check : FieldCheck) : Prop where
  /-- What is accepted is no mapping. -/
  leaf : ∀ {d w}, check d = .ok (.ok w) → d.IsLeaf
  /-- What is accepted is an integer exactly for a field of integers, and so is its normal form. -/
  kind : ∀ {d w}, check d = .ok (.ok w) → isInteger d = integers ∧ isInteger w = integers
  /-- What is accepted comes out in its normal form. -/
  normal : ∀ {d w}, check d = .ok (.ok w) → w = normalForm field d
  /-- The normal form is accepted as it is. -/
  kept : ∀ {d w}, check d = .ok (.ok w) → check w = .ok (.ok w)

theorem positiveInteger_eq_ok_iff (d w : Datum) :
    positiveInteger d = .ok w ↔ ∃ n, d = .int n ∧ 1 ≤ n ∧ w = .int n := by
  cases d with
  | int n =>
      show (if n < 1 then _ else _) = _ ↔ _
      by_cases small : n < 1
      · simp [small, Int.not_le.mpr small]
      · simp [small, Int.not_lt.mp small, eq_comm]
  | _ => simp [positiveInteger]

theorem currentVersion_eq_ok_iff (d w : Datum) :
    currentVersion d = .ok (.ok w) ↔ d = .int schemaVersion ∧ w = .int schemaVersion := by
  cases d with
  | int n =>
      by_cases small : n < 1
      · have other : n ≠ schemaVersion := by
          rintro rfl
          exact absurd small (by decide)
        simp [currentVersion, positiveInteger, small, other]
      · by_cases current : n = schemaVersion
        · subst current
          simp [currentVersion, positiveInteger, small, eq_comm]
        · cases advice : migrationGuidance n <;>
            simp [currentVersion, positiveInteger, small, current, advice, bind, Except.bind, pure, Except.pure]
  | _ => simp [currentVersion, positiveInteger]

/-- The check of a field that is one of a value accepts what the latter accepts. -/
theorem ofValue_eq_ok_iff {check : ValueCheck} {d w : Datum} :
    FieldCheck.ofValue check d = .ok (.ok w) ↔ check d = .ok w := by
  simp [FieldCheck.ofValue]

theorem trimmedText_eq_ok_iff (d : Datum) (s : String) :
    trimmedText d = .ok s ↔ ∃ raw, d = .text raw ∧ trim raw.toList ≠ [] ∧ s = String.ofList (trim raw.toList) := by
  cases d with
  | text raw =>
      show (if _ then _ else _) = _ ↔ _
      by_cases blank : trim raw.toList = []
      · simp [blank]
      · rw [if_neg (by simpa using blank)]
        constructor
        · intro same
          exact ⟨raw, rfl, blank, (Except.ok.inj same).symm⟩
        · rintro ⟨_, same, -, rfl⟩
          rw [Datum.text.inj same]
  | _ => simp [trimmedText]

theorem regular_positiveInteger (field : String) : Regular field true (.ofValue positiveInteger) where
  leaf accepts := by
    obtain ⟨n, rfl, -, rfl⟩ := (positiveInteger_eq_ok_iff _ _).mp (ofValue_eq_ok_iff.mp accepts)
    exact trivial
  kind accepts := by
    obtain ⟨n, rfl, -, rfl⟩ := (positiveInteger_eq_ok_iff _ _).mp (ofValue_eq_ok_iff.mp accepts)
    exact ⟨rfl, rfl⟩
  normal accepts := by
    obtain ⟨n, rfl, -, rfl⟩ := (positiveInteger_eq_ok_iff _ _).mp (ofValue_eq_ok_iff.mp accepts)
    rfl
  kept accepts := by
    obtain ⟨n, rfl, large, rfl⟩ := (positiveInteger_eq_ok_iff _ _).mp (ofValue_eq_ok_iff.mp accepts)
    exact ofValue_eq_ok_iff.mpr ((positiveInteger_eq_ok_iff _ _).mpr ⟨n, rfl, large, rfl⟩)

theorem regular_currentVersion (field : String) : Regular field true currentVersion where
  leaf accepts := by
    obtain ⟨rfl, rfl⟩ := (currentVersion_eq_ok_iff _ _).mp accepts
    exact trivial
  kind accepts := by
    obtain ⟨rfl, rfl⟩ := (currentVersion_eq_ok_iff _ _).mp accepts
    exact ⟨rfl, rfl⟩
  normal accepts := by
    obtain ⟨rfl, rfl⟩ := (currentVersion_eq_ok_iff _ _).mp accepts
    rfl
  kept accepts := by
    obtain ⟨rfl, rfl⟩ := (currentVersion_eq_ok_iff _ _).mp accepts
    rfl

/-- A check of trimmed texts is regular if it only changes their case, and keeps what it has accepted. -/
theorem regular_of_trimmed {field : String} {check : ValueCheck}
    (accepted : ∀ {d w}, check d = .ok w → ∃ raw, d = .text raw ∧ w = normalForm field (.text raw))
    (kept : ∀ {d w}, check d = .ok w → check w = .ok w) : Regular field false (.ofValue check) where
  leaf accepts := by
    obtain ⟨raw, rfl, -⟩ := accepted (ofValue_eq_ok_iff.mp accepts)
    exact trivial
  kind accepts := by
    obtain ⟨raw, rfl, rfl⟩ := accepted (ofValue_eq_ok_iff.mp accepts)
    exact ⟨rfl, rfl⟩
  normal accepts := by
    obtain ⟨raw, rfl, isNormal⟩ := accepted (ofValue_eq_ok_iff.mp accepts)
    exact isNormal
  kept accepts := ofValue_eq_ok_iff.mpr (kept (ofValue_eq_ok_iff.mp accepts))

theorem pathText_eq_ok_iff (d w : Datum) : pathText d = .ok w ↔ ∃ raw, d = .text raw ∧
    trim raw.toList ≠ [] ∧ '\x00' ∉ trim raw.toList ∧ w = .text (String.ofList (trim raw.toList)) := by
  unfold pathText
  rw [bind_eq_ok_iff]
  constructor
  · rintro ⟨s, isText, accepts⟩
    obtain ⟨raw, rfl, some, rfl⟩ := (trimmedText_eq_ok_iff _ _).mp isText
    split at accepts
    next => cases accepts
    next plain =>
      refine ⟨raw, rfl, some, ?_, (Except.ok.inj accepts).symm⟩
      simpa using plain
  · rintro ⟨raw, rfl, some, plain, rfl⟩
    refine ⟨_, (trimmedText_eq_ok_iff _ _).mpr ⟨raw, rfl, some, rfl⟩, ?_⟩
    rw [if_neg (by simpa using plain)]
    rfl

theorem regular_pathText {field : String} (other : field ≠ capitalField) :
    Regular field false (.ofValue pathText) := by
  refine regular_of_trimmed (fun accepts => ?_) fun accepts => ?_
  · obtain ⟨raw, rfl, -, -, rfl⟩ := (pathText_eq_ok_iff _ _).mp accepts
    exact ⟨raw, rfl, by simp [normalForm, other]⟩
  · obtain ⟨raw, rfl, some, plain, rfl⟩ := (pathText_eq_ok_iff _ _).mp accepts
    refine (pathText_eq_ok_iff _ _).mpr ⟨_, rfl, ?_⟩
    simpa [Document.trim_trim] using ⟨some, plain⟩

theorem choice_eq_ok_iff (allowed : List String) (anyCase : Bool) (d w : Datum) :
    choice allowed anyCase d = .ok w ↔ ∃ raw s, d = .text raw ∧ trim raw.toList ≠ [] ∧
      s = String.ofList (if anyCase then upper (trim raw.toList) else trim raw.toList) ∧ s ∈ allowed ∧
      w = .text s := by
  have cased (s : List Char) : (if anyCase = true then String.ofList (upper (String.ofList s).toList)
      else String.ofList s) = String.ofList (if anyCase then upper s else s) := by
    cases anyCase <;> simp
  unfold choice
  rw [bind_eq_ok_iff]
  constructor
  · rintro ⟨s, isText, accepts⟩
    obtain ⟨raw, rfl, some, rfl⟩ := (trimmedText_eq_ok_iff _ _).mp isText
    rw [cased] at accepts
    refine ⟨raw, _, rfl, some, rfl, ?_⟩
    generalize String.ofList (if anyCase then upper (trim raw.toList) else trim raw.toList) = s at accepts
    dsimp only at accepts
    split at accepts
    next listed => exact ⟨by simpa using listed, (Except.ok.inj accepts).symm⟩
    next => cases accepts
  · rintro ⟨raw, s, rfl, some, rfl, listed, rfl⟩
    refine ⟨_, (trimmedText_eq_ok_iff _ _).mpr ⟨raw, rfl, some, rfl⟩, ?_⟩
    rw [cased]
    exact if_pos (by simpa using listed)

theorem regular_choice {field : String} {allowed : List String} {anyCase : Bool}
    (capital : anyCase = decide (field = capitalField))
    (fixed : ∀ s ∈ allowed, ∃ w, choice allowed anyCase (.text s) = .ok w ∧ w = .text s) :
    Regular field false (.ofValue (choice allowed anyCase)) := by
  refine regular_of_trimmed (fun accepts => ?_) fun accepts => ?_
  · obtain ⟨raw, s, rfl, -, rfl, -, rfl⟩ := (choice_eq_ok_iff _ _ _ _).mp accepts
    exact ⟨raw, rfl, by simp [normalForm, capital]⟩
  · obtain ⟨raw, s, rfl, -, -, listed, rfl⟩ := (choice_eq_ok_iff _ _ _ _).mp accepts
    obtain ⟨w, keeps, rfl⟩ := fixed s listed
    exact keeps

/-- **Every field has a default of the kind that its check accepts.** So a configuration is complete
before any layer is laid over the defaults. -/
theorem exists_default : ∀ s ∈ schema, ∀ f ∈ s.2, ∃ default,
    fieldOf? s.1 f.1 defaults = some default ∧ Regular f.1 (isInteger default) f.2 := by
  have formats : Regular "log_format" false (.ofValue (choice logFormats false)) := by
    refine regular_choice (by decide) ?_
    simp only [logFormats, List.forall_mem_cons]
    exact ⟨⟨_, rfl, rfl⟩, ⟨_, rfl, rfl⟩, by simp⟩
  have levels : Regular "log_level" false (.ofValue (choice logLevels true)) := by
    refine regular_choice (by decide) ?_
    simp only [logLevels, List.forall_mem_cons]
    exact ⟨⟨_, rfl, rfl⟩, ⟨_, rfl, rfl⟩, ⟨_, rfl, rfl⟩, ⟨_, rfl, rfl⟩, by simp⟩
  simp only [schema, List.forall_mem_cons, List.not_mem_nil, false_implies, implies_true, and_true]
  exact ⟨⟨_, rfl, regular_currentVersion _⟩, ⟨⟨_, rfl, formats⟩, ⟨_, rfl, levels⟩⟩,
    ⟨⟨_, rfl, regular_pathText (by decide)⟩, ⟨_, rfl, regular_pathText (by decide)⟩,
      ⟨_, rfl, regular_pathText (by decide)⟩⟩,
    ⟨_, rfl, regular_positiveInteger _⟩, ⟨_, rfl, regular_positiveInteger _⟩,
    ⟨_, rfl, regular_positiveInteger _⟩, ⟨_, rfl, regular_positiveInteger _⟩⟩

/-! ## The layers -/

theorem sectioned_defaults : Sectioned defaults :=
  .of_texts (l := [("meta", _), ("paths", _), ("verification", _), ("observability", _)])
    Prod.fst Prod.snd (by simp) (by simp)

/-- The entries of a configuration with a value for every field. -/
def entriesOf (value : String → String → Datum) : List (Datum × Datum) :=
  schema.map fun s => (.text s.1, .object (s.2.map fun f => (f.1, value s.1 f.1)))

theorem sectioned_entriesOf (value : String → String → Datum) : Sectioned (entriesOf value) :=
  .of_texts Prod.fst _ nodup_schema.1 fun s hs => by
    rw [List.map_map]
    exact nodup_schema.2 s hs

theorem fieldOf?_entriesOf (value : String → String → Datum) :
    ∀ p ∈ places, fieldOf? p.1 p.2 (entriesOf value) = some (value p.1 p.2) := by
  simp only [places, schema, List.flatMap_cons, List.map_cons, List.map_nil, List.cons_append, List.nil_append,
    List.flatMap_nil, List.forall_mem_cons]
  exact ⟨rfl, rfl, rfl, rfl, rfl, rfl, rfl, rfl, rfl, rfl, by simp⟩

/-- **The file of the configuration is written**, or absent. -/
theorem written_fileLayer {files : FileTree} {source : Path} {required : Bool} {file : List (Datum × Datum)}
    (layers : fileLayer files source required = .ok file) : Toml.Written (.mapping file) := by
  unfold fileLayer at layers
  split at layers
  next =>
    split at layers
    next content _ =>
      obtain ⟨text, -, layers⟩ := (bind_eq_ok_iff _ _ _).mp layers
      split at layers
      next entries read =>
        obtain rfl := Except.ok.inj layers
        exact Toml.written_of_read read
      next => cases layers
      next => cases layers
      next => cases layers
    next => cases layers
  next =>
    split at layers
    · split at layers
      · cases layers
      · obtain rfl := Except.ok.inj layers
        exact .mapping .nil (by simp)
    · cases layers

theorem checked_eq_ok_iff (d w : Datum) : checked d = .ok w ↔ validate d = .ok (.ok w) := by
  unfold checked
  rcases validate d with _ | _ | _ <;> simp

theorem merged_eq_ok_iff (base upper result : List (Datum × Datum)) :
    merged base upper = .ok result ↔ merge? base upper = some result := by
  unfold merged
  cases merge? base upper <;> simp [orFault]

/-- A configuration without null sections that is accepted has a value for every field, the normal form of
what stands there. -/
theorem exists_whole_of_checked {entries : List (Datum × Datum)} {config : Datum}
    (stated : ∀ s ∈ schema, lookup? s.1 entries ≠ some .null) (accepts : checked (.mapping entries) = .ok config) :
    ∃ value, config = whole value ∧ ∀ s ∈ schema, ∀ f ∈ s.2, ∃ d,
      fieldOf? s.1 f.1 entries = some d ∧ f.2 d = .ok (.ok (value s.1 f.1)) := by
  rw [checked_eq_ok_iff] at accepts
  have loosely : FitsLoosely (.mapping entries) := by
    by_contra misfit
    have legible : Legible (.mapping entries) := ((gives_validate _).eq_ok_iff.mp accepts).1
    obtain ⟨wrong, -, -, rejects⟩ := (validate_iff_fits _).2.2.1 misfit legible
    rw [rejects] at accepts
    cases accepts
  have fits : FitsStrictly (.mapping entries) := by
    refine (fitsStrictly_iff _).mpr ⟨loosely, ?_⟩
    rintro ⟨_, same, s, hs, isNull⟩
    obtain rfl := Datum.mapping.inj same
    exact stated s hs isNull
  obtain ⟨value, settled, accepted⟩ := validate_of_fitsStrictly fits
  refine ⟨value, Except.ok.inj (Except.ok.inj (accepts.symm.trans accepted)), fun s hs f hf => ?_⟩
  obtain ⟨_, same, -, sections⟩ := fits
  obtain rfl := Datum.mapping.inj same
  obtain ⟨_, there, inner, rfl, -, each⟩ := sections s hs
  obtain ⟨d, w, isThere, -⟩ := each f hf
  have found : fieldOf? s.1 f.1 entries = some d := by simp [fieldOf?, there, Datum.find?, isThere]
  exact ⟨d, found, settled s hs f hf d found⟩

/-! ## Paths -/

/-- The value of a field of a section after paths have been made absolute. -/
def placed (environment : Environment) (base : Path) (section_ : String) (d : Datum) : Except Fault Datum :=
  match d with
  | .text raw =>
    if section_ = pathSection then (absolutePath environment base raw).map fun p => .text p.text else .ok d
  | d => .ok d

/-- The fields of the section of the paths are those that hold paths. -/
theorem mem_places_pathSection_iff (field : String) : (pathSection, field) ∈ places ↔ field ∈ pathFields := by
  simp [places, schema, pathSection, pathFields, or_comm]

theorem storedText?_entriesOf (value : String → String → Datum) :
    ∀ key ∈ pathFields, storedText? key (entriesOf value) = (value pathSection key).text? := by
  simp only [pathFields, List.forall_mem_cons]
  exact ⟨rfl, rfl, rfl, by simp⟩

/-- The values of fields, of which one is another one. -/
def changed (value : String → String → Datum) (section_ field : String) (d : Datum) : String → String → Datum :=
  fun s f => if s = section_ ∧ f = field then d else value s f

theorem assignAt_entriesOf (value : String → String → Datum) (d : Datum) : ∀ key ∈ pathFields,
    assignAt d [pathSection, key] (entriesOf value) = .ok (entriesOf (changed value pathSection key d)) := by
  simp only [pathFields, List.forall_mem_cons]
  exact ⟨rfl, rfl, rfl, by simp⟩

/-- A configuration with a value for every field is left as it is by sorting. -/
theorem merged_entriesOf {value : String → String → Datum}
    (leaf : ∀ s ∈ schema, ∀ f ∈ s.2, (value s.1 f.1).IsLeaf) :
    merged [] (entriesOf value) = .ok (entriesOf value) := by
  have ordered : ∀ s ∈ schema, s.2.Pairwise fun a b => a.1 ≤ b.1 := by
    simp only [schema, List.forall_mem_cons]
    decide
  have sections : ∀ s ∈ schema, sortMappings? (.object (s.2.map fun f => (f.1, value s.1 f.1))) =
      some (.object (s.2.map fun f => (f.1, value s.1 f.1))) := by
    intro s hs
    refine sortMappings?_object (List.pairwise_map.mpr (ordered s hs)) fun m hm => ?_
    obtain ⟨f, hf, rfl⟩ := List.mem_map.mp hm
    exact sortMappings?_of_leaf (leaf s hs f hf)
  rw [merged_eq_ok_iff]
  exact merge?_nil (sectioned_entriesOf value).tidy (arrange?_of_sorted (by decide) sections)

/-- A path of entries is made absolute, if it is there. -/
def placeAt (environment : Environment) (base : Path) (entries : List (Datum × Datum)) (key : String) :
    Except Fault (List (Datum × Datum)) :=
  match storedText? key entries with
  | none => .ok entries
  | some raw => do assignAt (.text (← absolutePath environment base raw).text) [pathSection, key] entries

theorem normalizePaths_whole (environment : Environment) (base : Path) {value : String → String → Datum}
    (leaf : ∀ s ∈ schema, ∀ f ∈ s.2, (value s.1 f.1).IsLeaf) :
    normalizePaths environment base (whole value) =
      pathFields.foldlM (placeAt environment base) (entriesOf value) := by
  show (merged [] (entriesOf value) >>= fun entries => pathFields.foldlM (placeAt environment base) entries) = _
  rw [merged_entriesOf leaf]
  rfl

theorem placeAt_entriesOf {environment : Environment} {base : Path} {value : String → String → Datum}
    {key : String} (isPath : key ∈ pathFields) {entries : List (Datum × Datum)}
    (places : placeAt environment base (entriesOf value) key = .ok entries) :
    ∃ d, placed environment base pathSection (value pathSection key) = .ok d ∧
      entries = entriesOf (changed value pathSection key d) := by
  have unchanged : changed value pathSection key (value pathSection key) = value := by
    funext s f
    unfold changed
    split
    next here => rw [here.1, here.2]
    next => rfl
  unfold placeAt at places
  rw [storedText?_entriesOf value key isPath] at places
  cases current : value pathSection key with
  | text raw =>
      rw [current] at places
      obtain ⟨p, isAbsolute, places⟩ := (bind_eq_ok_iff _ _ _).mp places
      rw [assignAt_entriesOf value _ key isPath] at places
      exact ⟨.text p.text, by simp [placed, isAbsolute, Except.map], (Except.ok.inj places).symm⟩
  | _ =>
      rw [current] at places
      refine ⟨_, rfl, ?_⟩
      rw [← current, unchanged]
      exact (Except.ok.inj places).symm

/-- **Paths are made absolute one after the other, and nothing else is changed.** One that cannot be
made so ends the run. -/
theorem foldlM_placeAt {environment : Environment} {base : Path} {keys : List String} (known : keys ⊆ pathFields)
    (distinct : keys.Nodup) {value : String → String → Datum} {result : List (Datum × Datum)}
    (places : keys.foldlM (placeAt environment base) (entriesOf value) = .ok result) :
    ∃ value', result = entriesOf value' ∧ ∀ s f,
      if s = pathSection ∧ f ∈ keys then placed environment base s (value s f) = .ok (value' s f)
      else value' s f = value s f := by
  induction keys generalizing value with
  | nil =>
      obtain rfl := Except.ok.inj places
      exact ⟨value, rfl, by simp⟩
  | cons key keys ih =>
      obtain ⟨first, rest⟩ := List.nodup_cons.mp distinct
      rw [List.foldlM_cons, bind_eq_ok_iff] at places
      obtain ⟨entries, one, places⟩ := places
      obtain ⟨d, isPlaced, rfl⟩ := placeAt_entriesOf (known List.mem_cons_self) one
      obtain ⟨value', same, others⟩ := ih (fun k hk => known (List.mem_cons_of_mem key hk)) rest places
      refine ⟨value', same, fun s f => ?_⟩
      have other := others s f
      by_cases here : s = pathSection ∧ f = key
      · obtain ⟨rfl, rfl⟩ := here
        simpa [first, changed, isPlaced, eq_comm] using other
      · have later : s = pathSection ∧ f ∈ key :: keys ↔ s = pathSection ∧ f ∈ keys := by
          simp [and_or_left, here]
        simpa only [later, changed, if_neg here] using other

theorem exists_whole_of_normalizePaths {environment : Environment} {base : Path}
    {value : String → String → Datum} (leaf : ∀ s ∈ schema, ∀ f ∈ s.2, (value s.1 f.1).IsLeaf)
    {result : List (Datum × Datum)} (normalizes : normalizePaths environment base (whole value) = .ok result) :
    ∃ value', result = entriesOf value' ∧
      ∀ s ∈ schema, ∀ f ∈ s.2, placed environment base s.1 (value s.1 f.1) = .ok (value' s.1 f.1) := by
  rw [normalizePaths_whole environment base leaf] at normalizes
  obtain ⟨value', same, each⟩ := foldlM_placeAt (List.Subset.refl _) (by decide) normalizes
  refine ⟨value', same, fun s hs f hf => ?_⟩
  have isPlaced := each s.1 f.1
  by_cases isPath : s.1 = pathSection
  · have known : f.1 ∈ pathFields := by
      rw [← mem_places_pathSection_iff, ← isPath]
      exact (mem_places_iff _).mpr ⟨s, hs, f, hf, rfl⟩
    rwa [if_pos ⟨isPath, known⟩] at isPlaced
  · rw [if_neg fun both => isPath both.1] at isPlaced
    rw [isPlaced]
    unfold placed
    split
    · rw [if_neg isPath]
    · rfl

/-! ## The configuration -/

/-- The value of the highest layer that sets a field: an override, or else its variable, or else the file, or
else the default.  A variable is read as an integer if the default is one, and trimmed otherwise. -/
def chosen (file : List (Datum × Datum)) (above : Variables) (overrides : List (String × Datum))
    (section_ field : String) (default : Datum) : Except Fault Datum :=
  match overrideSaid overrides section_ field, variableOf? above section_ field with
  | some d, _ => .ok d
  | none, some raw => variableValue section_ field raw default
  | none, none => .ok ((fieldOf? section_ field file).getD default)

/-- The file over the defaults: every field has the normal form of what the file says, or else of the default. -/
theorem exists_whole_of_file {file entries : List (Datum × Datum)} {config : Datum}
    (written : Toml.Written (.mapping file)) (merges : merge? defaults file = some entries)
    (accepts : checked (.mapping entries) = .ok config) :
    ∃ value, config = whole value ∧ ∀ s ∈ schema, ∀ f ∈ s.2, ∃ default,
      fieldOf? s.1 f.1 defaults = some default ∧ Regular f.1 (isInteger default) f.2 ∧
        f.2 ((fieldOf? s.1 f.1 file).getD default) = .ok (.ok (value s.1 f.1)) := by
  have fileStated (key : String) : lookup? key file ≠ some .null := fun isNull =>
    (written.of_mapping.2 _ (mem_of_lookup? isNull)).ne_null rfl
  obtain ⟨value, same, each⟩ := exists_whole_of_checked (fun s _ => lookup?_merge?_ne_null merges
    sectioned_defaults.tidy written.of_mapping.1 (sectioned_defaults.lookup?_ne_null s.1) (fileStated s.1)) accepts
  refine ⟨value, same, fun s hs f hf => ?_⟩
  obtain ⟨default, isDefault, regular⟩ := exists_default s hs f hf
  obtain ⟨d, there, accepted⟩ := each s hs f hf
  refine ⟨default, isDefault, regular, ?_⟩
  rcases fieldOf?_merge? merges sectioned_defaults.keyed (written.keyed 2) (regular.leaf accepted) there
    with fromFile | ⟨silent, fromDefault⟩
  · rwa [fromFile]
  · rwa [silent, Option.getD_none, Option.some.inj (isDefault.symm.trans fromDefault)]

/-- The upper layers over a configuration: every field has the normal form of what its override says, or else
of what its variable says, or else is as it was. -/
theorem exists_whole_of_layers {value : String → String → Datum} {above : Variables}
    {overrides : List (String × Datum)} (overriding : Overriding overrides)
    {vars given entries result : List (Datum × Datum)} {config : Datum}
    (layer : environmentLayer (whole value) above = .ok vars)
    (merges : merge? (entriesOf value) vars = some entries)
    (overLayer : overrideLayer overrides = .ok given) (mergesOver : merge? entries given = some result)
    (accepts : checked (.mapping result) = .ok config) :
    ∃ value', config = whole value' ∧ ∀ s ∈ schema, ∀ f ∈ s.2, ∃ said d,
      variableSaid above s.1 f.1 (value s.1 f.1) = .ok said ∧
        ((overrideSaid overrides s.1 f.1).or said).getD (value s.1 f.1) = d ∧
        f.2 d = .ok (.ok (value' s.1 f.1)) := by
  obtain ⟨sectioned, variablesSay⟩ := fieldOf?_environmentLayer layer
  obtain ⟨sectionedOver, overSays⟩ := fieldOf?_overrideLayer overriding overLayer
  have base := sectioned_entriesOf value
  have keyed := merge?_keyed merges base.keyed sectioned.keyed
  obtain ⟨value', same, each⟩ := exists_whole_of_checked (fun s _ => lookup?_merge?_ne_null mergesOver
    keyed.1 sectionedOver.tidy
    (lookup?_merge?_ne_null merges base.tidy sectioned.tidy (base.lookup?_ne_null s.1) (sectioned.lookup?_ne_null s.1))
    (sectionedOver.lookup?_ne_null s.1)) accepts
  refine ⟨value', same, fun s hs f hf => ?_⟩
  have place : (s.1, f.1) ∈ places := (mem_places_iff _).mpr ⟨s, hs, f, hf, rfl⟩
  obtain ⟨_, _, regular⟩ := exists_default s hs f hf
  obtain ⟨d, there, accepted⟩ := each s hs f hf
  have leaf := regular.leaf accepted
  obtain ⟨said, told, isSaid⟩ := variablesSay _ place
  refine ⟨said, d, told, ?_, accepted⟩
  rw [← overSays _ place, ← isSaid]
  rcases fieldOf?_merge? mergesOver keyed sectionedOver.keyed leaf there with fromOver | ⟨silent, below⟩
  · rw [fromOver]
    rfl
  · rw [silent, Option.none_or]
    rcases fieldOf?_merge? merges base.keyed sectioned.keyed leaf below with fromVariable | ⟨silent, wasThere⟩
    · rw [fromVariable]
      rfl
    · rw [silent, Option.getD_none]
      exact Option.some.inj ((fieldOf?_entriesOf value _ place).symm.trans wasThere)

/-- Whatever layer sets a field, its value is accepted, with the normal form that comes out of the layers. -/
theorem exists_chosen {file : List (Datum × Datum)} {above : Variables} {overrides : List (String × Datum)}
    {section_ field : String} {check : FieldCheck} {default lower upper : Datum} {said : Option Datum}
    (regular : Regular field (isInteger default) check)
    (low : check ((fieldOf? section_ field file).getD default) = .ok (.ok lower))
    (told : variableSaid above section_ field lower = .ok said)
    (accepted : check (((overrideSaid overrides section_ field).or said).getD lower) = .ok (.ok upper)) :
    ∃ d, chosen file above overrides section_ field default = .ok d ∧ check d = .ok (.ok upper) := by
  unfold chosen
  cases isOver : overrideSaid overrides section_ field with
  | some d => exact ⟨d, rfl, by simpa [isOver] using accepted⟩
  | none =>
      rw [isOver, Option.none_or] at accepted
      unfold variableSaid at told
      cases isVariable : variableOf? above section_ field with
      | some raw =>
          rw [isVariable] at told
          obtain ⟨d, reads, rfl⟩ : ∃ d, variableValue section_ field raw lower = .ok d ∧ some d = said := by
            cases reads : variableValue section_ field raw lower <;> simp_all [Except.map]
          -- The value below is an integer exactly if the default is one, so it is read alike.
          rw [variableValue_congr (regular.kind low).2] at reads
          exact ⟨d, reads, accepted⟩
      | none =>
          rw [isVariable] at told
          obtain rfl := Except.ok.inj told
          refine ⟨_, rfl, ?_⟩
          rw [Option.getD_none, regular.kept low] at accepted
          rwa [← Except.ok.inj (Except.ok.inj accepted)]

/-- **Every field of a configuration has the value of the highest layer that sets it**, in the normal form of
the field, and paths are made absolute against the directory of the file; a configuration has no other
fields. -/
theorem load_layered {files : FileTree} {environment : Environment} {directory : Path} {given : Option String}
    {above : Variables} {overrides : List (String × Datum)} {config : Datum}
    (overriding : Overriding overrides)
    (loads : load files environment directory given above overrides = .ok config) :
    ∃ source file value, sourcePath environment directory given = .ok source ∧
      fileLayer files source given.isSome = .ok file ∧ config = whole value ∧
      ∀ s ∈ schema, ∀ f ∈ s.2, ∃ default d, fieldOf? s.1 f.1 defaults = some default ∧
        chosen file above overrides s.1 f.1 default = .ok d ∧ f.2 d = .ok (.ok (normalForm f.1 d)) ∧
        placed environment source.parent s.1 (normalForm f.1 d) = .ok (value s.1 f.1) := by
  unfold load at loads
  obtain ⟨source, isSource, loads⟩ := (bind_eq_ok_iff _ _ _).mp loads
  obtain ⟨file, isFile, loads⟩ := (bind_eq_ok_iff _ _ _).mp loads
  obtain ⟨entries, mergesFile, loads⟩ := (bind_eq_ok_iff _ _ _).mp loads
  obtain ⟨layered, acceptsFile, loads⟩ := (bind_eq_ok_iff _ _ _).mp loads
  rw [merged_eq_ok_iff] at mergesFile
  obtain ⟨lower, rfl, fromFile⟩ := exists_whole_of_file (written_fileLayer isFile) mergesFile acceptsFile
  obtain ⟨vars, layer, loads⟩ := (bind_eq_ok_iff _ _ _).mp loads
  obtain ⟨entries', merges, loads⟩ := (bind_eq_ok_iff _ _ _).mp loads
  obtain ⟨given, overLayer, loads⟩ := (bind_eq_ok_iff _ _ _).mp loads
  obtain ⟨result, mergesOver, loads⟩ := (bind_eq_ok_iff _ _ _).mp loads
  obtain ⟨checkedConfig, accepts, loads⟩ := (bind_eq_ok_iff _ _ _).mp loads
  rw [merged_eq_ok_iff] at merges mergesOver
  obtain ⟨upper, rfl, fromLayers⟩ := exists_whole_of_layers overriding layer merges overLayer mergesOver accepts
  have regular : ∀ s ∈ schema, ∀ f ∈ s.2, (upper s.1 f.1).IsLeaf := by
    intro s hs f hf
    obtain ⟨_, _, regular⟩ := exists_default s hs f hf
    obtain ⟨_, _, _, _, accepted⟩ := fromLayers s hs f hf
    exact regular.leaf (regular.kept accepted)
  obtain ⟨normalized, normalizes, loads⟩ := (bind_eq_ok_iff _ _ _).mp loads
  obtain ⟨value, rfl, isPlaced⟩ := exists_whole_of_normalizePaths regular normalizes
  refine ⟨source, file, value, isSource, isFile, (Except.ok.inj loads).symm, fun s hs f hf => ?_⟩
  obtain ⟨default, isDefault, regular, low⟩ := fromFile s hs f hf
  obtain ⟨said, d, told, rfl, accepted⟩ := fromLayers s hs f hf
  obtain ⟨d, isChosen, accepted⟩ := exists_chosen regular low told accepted
  have isNormal := regular.normal accepted
  exact ⟨default, d, isDefault, isChosen, isNormal ▸ accepted, isNormal ▸ isPlaced s hs f hf⟩

/-- A file that sets two fields. -/
def layeredFiles : FileTree :=
  ⟨[(["w", "dil.toml"], .file (Utf8.encode "[paths]\nruns_dir=\"~ann/r\"\n[verification]\nmax_concurrency=2\n")),
    (["w"], .directory)]⟩

/-- One user has a home directory on record. -/
def layeredEnvironment : Environment where
  homes user := if user = "ann" then some "/home/ann" else none

/-- Variables for one of these fields and for another one. -/
def layeredVariables : Variables :=
  [("DIL_VERIFICATION_MAX_CONCURRENCY", " 3 "), ("DIL_OBSERVABILITY_LOG_LEVEL", "info")]

/-- An override of a field that has a variable, and one that says nothing. -/
def layeredOverrides : List (String × Datum) :=
  [("observability.log_level", .text " error "), ("paths.runs_dir", .null)]

theorem overriding_layeredOverrides : Overriding layeredOverrides where
  keys := by
    simp only [layeredOverrides, List.forall_mem_cons]
    exact ⟨⟨("observability", "log_level"), by decide, rfl⟩, ⟨("paths", "runs_dir"), by decide, rfl⟩, by simp⟩
  distinct := by decide

theorem eq_ok_of_toOption {ε α : Type} {x : Except ε α} {a : α} (isSome : x.toOption = some a) : x = .ok a := by
  cases x with
  | error e => cases isSome
  | ok b => exact congrArg Except.ok (Option.some.inj isSome)

theorem load_layered_overridden : Overriding layeredOverrides ∧ ∃ config,
    load layeredFiles layeredEnvironment ⟨1, ["w"]⟩ none layeredVariables layeredOverrides = .ok config ∧
      (leaves config).map (fun l => (l.2.1, l.2.2.label)) =
        [("schema_version", "1"), ("log_format", "console"), ("log_level", "ERROR"),
          ("receipts_dir", "/w/.dil/receipts"), ("runs_dir", "/home/ann/r"),
          ("verification_dir", "/w/.dil/verification"), ("command_timeout_ms", "30000"),
          ("http_timeout_ms", "5000"), ("max_concurrency", "3"), ("max_output_chars", "4096")] ∧
      ∃ source file value, sourcePath layeredEnvironment ⟨1, ["w"]⟩ none = .ok source ∧
        fileLayer layeredFiles source false = .ok file ∧ config = whole value ∧
        ∀ s ∈ schema, ∀ f ∈ s.2, ∃ default d, fieldOf? s.1 f.1 defaults = some default ∧
          chosen file layeredVariables layeredOverrides s.1 f.1 default = .ok d ∧
          f.2 d = .ok (.ok (normalForm f.1 d)) ∧
          placed layeredEnvironment source.parent s.1 (normalForm f.1 d) = .ok (value s.1 f.1) := by
  have shown : (load layeredFiles layeredEnvironment ⟨1, ["w"]⟩ none layeredVariables layeredOverrides).toOption.map
      (fun config => (leaves config).map fun l => (l.2.1, l.2.2.label)) =
        some [("schema_version", "1"), ("log_format", "console"), ("log_level", "ERROR"),
          ("receipts_dir", "/w/.dil/receipts"), ("runs_dir", "/home/ann/r"),
          ("verification_dir", "/w/.dil/verification"), ("command_timeout_ms", "30000"),
          ("http_timeout_ms", "5000"), ("max_concurrency", "3"), ("max_output_chars", "4096")] := by
    decide +kernel
  obtain ⟨config, isSome, fields⟩ := Option.map_eq_some_iff.mp shown
  have loads : load layeredFiles layeredEnvironment ⟨1, ["w"]⟩ none layeredVariables layeredOverrides = .ok config :=
    eq_ok_of_toOption isSome
  exact ⟨overriding_layeredOverrides, config, loads, fields,
    load_layered overriding_layeredOverrides loads⟩

end IntentSpec.Config
