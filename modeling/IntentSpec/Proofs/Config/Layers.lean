import IntentSpec.Config.Layers
import IntentSpec.Proofs.Config.Merge

/-!
# What the layers say of a field

The layers of the environment and of overrides are built field by field, each field being set at most
once.  So a layer says of a field what its variable or its override says, and nothing of any other.

A layer is a mapping of sections, and setting a field makes the section if it is not there.  Both are kept
by every step (`Sectioned`), which is what allows the fields to be set one after another in any order: a
field that is set is found as it was set, and no other field is changed (`assignAt_field`).

A variable is read as the current value of its field asks for, since a text from the environment says
nothing about the type that is wanted.  An override comes with its type and is taken as it is; one whose
value is absent says nothing, so that an option that was not given does not undo what a file says.

* `Sectioned` — mappings of sections, which is what layers are.
* `foldlM_write` — setting fields one by one, each once.
* `fieldOf?_environmentLayer`, `fieldOf?_overrideLayer` — what the two layers say.
-/

namespace IntentSpec.Config

open Datum Text

/-! ## Setting fields one by one -/

/-- Entries whose values are mappings, all of them tidy. -/
structure Sectioned (entries : List (Datum × Datum)) : Prop where
  tidy : Tidy entries
  /-- Their values are mappings with tidy entries. -/
  sections : ∀ e ∈ entries, ∃ inner, e.2 = .mapping inner ∧ Tidy inner

theorem Sectioned.nil : Sectioned [] := ⟨.nil, by simp⟩

/-- Sections with texts that stand once, whose fields have such texts. -/
theorem Sectioned.of_texts {α : Type} {l : List α} (key : α → String) (fields : α → List (String × Datum))
    (distinct : (l.map key).Nodup) (each : ∀ a ∈ l, ((fields a).map Prod.fst).Nodup) :
    Sectioned (l.map fun a => (.text (key a), .object (fields a))) where
  tidy := .of_texts distinct _
  sections e he := by
    obtain ⟨a, ha, rfl⟩ := List.mem_map.mp he
    exact ⟨_, rfl, .of_texts (each a ha) Prod.snd⟩

theorem Sectioned.keyed {entries : List (Datum × Datum)} (sectioned : Sectioned entries) :
    (Datum.mapping entries).Keyed 2 := by
  refine ⟨sectioned.tidy, fun e he => ?_⟩
  obtain ⟨inner, isMapping, tidy⟩ := sectioned.sections e he
  rw [isMapping]
  exact ⟨tidy, fun _ _ => trivial⟩

theorem Sectioned.lookup?_ne_null {entries : List (Datum × Datum)} (sectioned : Sectioned entries)
    (key : String) : lookup? key entries ≠ some .null := by
  intro isNull
  obtain ⟨inner, isMapping, -⟩ := sectioned.sections _ (mem_of_lookup? isNull)
  cases isMapping

theorem Sectioned.of_assign {entries : List (Datum × Datum)} (sectioned : Sectioned entries)
    (key : String) {inner : List (Datum × Datum)} (tidy : Tidy inner) :
    Sectioned (assign (.text key) (.mapping inner) entries) where
  tidy := sectioned.tidy.of_assign key _
  sections := forall_mem_assign ⟨inner, rfl, tidy⟩ sectioned.sections

/-- **A field is set, and no other is changed.** The section is made if it is not there, which is no
change to any field. -/
theorem assignAt_field {entries : List (Datum × Datum)} (sectioned : Sectioned entries) (value : Datum)
    (section_ field : String) :
    ∃ entries', assignAt value [section_, field] entries = .ok entries' ∧ Sectioned entries' ∧
      ∀ s f, fieldOf? s f entries' =
        if section_ = s ∧ field = f then some value else fieldOf? s f entries := by
  -- In both cases the section becomes that which it was, or an empty one, with the field set.
  have sets (inner : List (Datum × Datum)) (tidy : Tidy inner)
      (was : ∀ f, fieldOf? section_ f entries = lookup? f inner) (s f : String) :
      fieldOf? s f (assign (.text section_) (.mapping (assign (.text field) value inner)) entries) =
        if section_ = s ∧ field = f then some value else fieldOf? s f entries := by
    rw [fieldOf?, lookup?_assign]
    by_cases here : section_ = s
    · subst here
      rw [if_pos rfl, Option.bind_some, Datum.find?, lookup?_assign, was]
      simp
    · simp [here, fieldOf?]
  cases found : lookup? section_ entries with
  | none =>
      refine ⟨assign (.text section_) (.mapping (assign (.text field) value [])) entries, ?_,
        sectioned.of_assign section_ (Tidy.nil.of_assign field value),
        sets [] .nil fun f => by simp [fieldOf?, found, lookup?_nil]⟩
      have absent : Datum.atKey? (.text section_) entries = none := found
      simp [assignAt, absent, bind, Except.bind, pure, Except.pure]
  | some d =>
      obtain ⟨inner, rfl, tidy⟩ := sectioned.sections _ (mem_of_lookup? found)
      refine ⟨assign (.text section_) (.mapping (assign (.text field) value inner)) entries, ?_,
        sectioned.of_assign section_ (tidy.of_assign field value),
        sets inner tidy fun f => by simp [fieldOf?, found, Datum.find?]⟩
      have there : Datum.atKey? (.text section_) entries = some (.mapping inner) := found
      simp [assignAt, there, bind, Except.bind, pure, Except.pure]

section Write

variable {ι : Type} (place : ι → String × String) (tells : ι → Except Fault (Option Datum))

/-- Sets the field of an item to what the item says, if it says something. -/
def write (entries : List (Datum × Datum)) (i : ι) : Except Fault (List (Datum × Datum)) :=
  match tells i with
  | .error fault => .error fault
  | .ok none => .ok entries
  | .ok (some value) => assignAt value [(place i).1, (place i).2] entries

/-- **Items that name different fields set them one by one**: each field is as its item says, or as it was
if the item says nothing, and all other fields are as they were. -/
theorem foldlM_write {step : List (Datum × Datum) → ι → Except Fault (List (Datum × Datum))} {l : List ι}
    (steps : ∀ i ∈ l, ∀ entries, step entries i = write place tells entries i)
    (distinct : (l.map place).Nodup) {entries result : List (Datum × Datum)}
    (sectioned : Sectioned entries) (writes : l.foldlM step entries = .ok result) :
    Sectioned result ∧
      (∀ i ∈ l, ∃ said, tells i = .ok said ∧ fieldOf? (place i).1 (place i).2 result =
        said.or (fieldOf? (place i).1 (place i).2 entries)) ∧
      ∀ s f, (s, f) ∉ l.map place → fieldOf? s f result = fieldOf? s f entries := by
  induction l generalizing entries with
  | nil =>
      obtain rfl := Except.ok.inj writes
      exact ⟨sectioned, by simp, fun _ _ _ => rfl⟩
  | cons i l ih =>
      obtain ⟨first, rest⟩ := List.nodup_cons.mp distinct
      rw [List.foldlM_cons, bind_eq_ok_iff, steps i List.mem_cons_self] at writes
      obtain ⟨entries', wrote, writes⟩ := writes
      have one : ∃ said, tells i = .ok said ∧ Sectioned entries' ∧ ∀ s f, fieldOf? s f entries' =
          if place i = (s, f) then said.or (fieldOf? s f entries) else fieldOf? s f entries := by
        unfold write at wrote
        split at wrote
        next => cases wrote
        next silent =>
          obtain rfl := Except.ok.inj wrote
          exact ⟨none, silent, sectioned, fun s f => by simp⟩
        next value said =>
          obtain ⟨entries'', sets, kept, each⟩ := assignAt_field sectioned value (place i).1 (place i).2
          obtain rfl := Except.ok.inj (sets.symm.trans wrote)
          refine ⟨some value, said, kept, fun s f => ?_⟩
          simp [each s f, Prod.ext_iff]
      obtain ⟨said, told, kept, each⟩ := one
      obtain ⟨final, items, others⟩ :=
        ih (fun j hj => steps j (List.mem_cons_of_mem i hj)) rest kept writes
      refine ⟨final, ?_, ?_⟩
      · intro j hj
        rcases List.mem_cons.mp hj with rfl | later
        · refine ⟨said, told, ?_⟩
          rw [others _ _ first, each, if_pos rfl]
        · obtain ⟨said, toldLater, isThere⟩ := items j later
          have apart : place i ≠ place j := fun same => first (same ▸ List.mem_map_of_mem later)
          refine ⟨said, toldLater, ?_⟩
          rw [isThere, each, if_neg apart]
      · intro s f absent
        rw [List.map_cons, List.mem_cons, not_or] at absent
        rw [others s f absent.2, each, if_neg (Ne.symm absent.1)]

end Write

/-! ## The fields of the schema -/

/-- The sections of the schema with the names of their fields. -/
def places : List (String × String) := schema.flatMap fun s => s.2.map fun f => (s.1, f.1)

theorem mem_places_iff (p : String × String) : p ∈ places ↔ ∃ s ∈ schema, ∃ f ∈ s.2, p = (s.1, f.1) := by
  simp [places, eq_comm]

theorem nodup_places : places.Nodup := by decide

/-- The fields of a configuration that has a value for each. -/
theorem leaves_whole (value : String → String → Datum) :
    leaves (whole value) = places.map fun p => (p.1, p.2, value p.1 p.2) := rfl

/-! ## The environment -/

/-- The variable of a field, which those of the section about the configuration itself do not have. -/
def variableOf? (vars : Variables) (section_ field : String) : Option String :=
  if section_ = metaSection then none else vars.value? (variableName section_ field)

/-- What the variables say of a field whose current value is given. -/
def variableSaid (vars : Variables) (section_ field : String) (current : Datum) :
    Except Fault (Option Datum) :=
  match variableOf? vars section_ field with
  | none => .ok none
  | some raw => (variableValue section_ field raw current).map some

/-- **The layer of the environment says of every field what its variable says**, read as the current value
of the field asks for. -/
theorem fieldOf?_environmentLayer {value : String → String → Datum} {vars : Variables}
    {layer : List (Datum × Datum)} (layers : environmentLayer (whole value) vars = .ok layer) :
    Sectioned layer ∧ ∀ p ∈ places, ∃ said,
      variableSaid vars p.1 p.2 (value p.1 p.2) = .ok said ∧ fieldOf? p.1 p.2 layer = said := by
  let item (p : String × String) : String × String × Datum := (p.1, p.2, value p.1 p.2)
  have placed : (places.map item).map (fun i => (i.1, i.2.1)) = places := by
    rw [List.map_map]
    exact List.map_id places
  let tells (i : String × String × Datum) := variableSaid vars i.1 i.2.1 i.2.2
  rw [environmentLayer, leaves_whole] at layers
  obtain ⟨sectioned, each, -⟩ := foldlM_write (fun i => (i.1, i.2.1)) tells
    (fun i _ entries => by
      obtain ⟨section_, field, current⟩ := i
      dsimp only [write, tells, variableSaid, variableOf?]
      split
      next => rfl
      next =>
        cases vars.value? (variableName section_ field) with
        | none => rfl
        | some raw =>
            cases reads : variableValue section_ field raw current <;>
              simp [reads, bind, Except.bind, Except.map])
    (placed.symm ▸ nodup_places) .nil layers
  refine ⟨sectioned, fun p hp => ?_⟩
  obtain ⟨said, told, isThere⟩ := each (item p) (List.mem_map_of_mem hp)
  refine ⟨said, told, isThere.trans ?_⟩
  simp [fieldOf?, lookup?_nil]

/-! ## Overrides -/

/-- The dotted key of a field. -/
def fieldKey (section_ field : String) : String := section_ ++ "." ++ field

/-- The value of an override that says something. -/
def stated? : Datum → Option Datum
  | .null => none
  | d => some d

/-- What overrides say of a field.  One whose value is absent says nothing. -/
def overrideSaid (overrides : List (String × Datum)) (section_ field : String) : Option Datum :=
  (overrides.lookup (fieldKey section_ field)).bind stated?

theorem keyParts_fieldKey : ∀ p ∈ places, keyParts (fieldKey p.1 p.2) = [p.1, p.2] := by decide

/-- Overrides name fields of the schema, each at most once. -/
structure Overriding (overrides : List (String × Datum)) : Prop where
  /-- The keys are dotted keys of fields. -/
  keys : ∀ o ∈ overrides, ∃ p ∈ places, o.1 = fieldKey p.1 p.2
  distinct : (overrides.map Prod.fst).Nodup

/-- The field that a dotted key names. -/
def placeOf (o : String × Datum) : String × String :=
  match keyParts o.1 with
  | [section_, field] => (section_, field)
  | _ => ("", "")

theorem placeOf_fieldKey {p : String × String} (hp : p ∈ places) {o : String × Datum}
    (names : o.1 = fieldKey p.1 p.2) : placeOf o = p := by
  rw [placeOf, names, keyParts_fieldKey p hp]

theorem Overriding.fieldKey_placeOf {overrides : List (String × Datum)} (overriding : Overriding overrides)
    {o : String × Datum} (ho : o ∈ overrides) : o.1 = fieldKey (placeOf o).1 (placeOf o).2 := by
  obtain ⟨p, hp, names⟩ := overriding.keys o ho
  rw [placeOf_fieldKey hp names, names]

theorem Overriding.distinct_places {overrides : List (String × Datum)} (overriding : Overriding overrides) :
    (overrides.map placeOf).Nodup := by
  refine List.Nodup.map_on (fun o ho o' ho' same => ?_) overriding.distinct.of_map
  refine List.inj_on_of_nodup_map overriding.distinct ho ho' ?_
  rw [overriding.fieldKey_placeOf ho, overriding.fieldKey_placeOf ho', same]

/-- **The layer of overrides says of every field what its override says.** An override without a
value leaves no trace in the layer. -/
theorem fieldOf?_overrideLayer {overrides : List (String × Datum)} (overriding : Overriding overrides)
    {layer : List (Datum × Datum)} (layers : overrideLayer overrides = .ok layer) :
    Sectioned layer ∧ ∀ p ∈ places, fieldOf? p.1 p.2 layer = overrideSaid overrides p.1 p.2 := by
  have perm := @sortBy_perm _ (fun a b : String × Datum => textLe a.1 b.1) overrides
  obtain ⟨sectioned, each, others⟩ := foldlM_write placeOf (fun o => .ok (stated? o.2))
    (fun o ho entries => by
      obtain ⟨p, hp, names⟩ := overriding.keys o (perm.mem_iff.mp ho)
      have parts : keyParts o.1 = [(placeOf o).1, (placeOf o).2] := by
        rw [placeOf_fieldKey hp names, names, keyParts_fieldKey p hp]
      obtain ⟨dotted, value⟩ := o
      cases value <;> simp [write, stated?, parts])
    ((perm.map placeOf).nodup_iff.mpr overriding.distinct_places) .nil layers
  refine ⟨sectioned, fun p hp => ?_⟩
  cases found : overrides.lookup (fieldKey p.1 p.2) with
  | none =>
      rw [others p.1 p.2 ?_, overrideSaid, found]
      · simp [fieldOf?, lookup?_nil]
      · intro here
        obtain ⟨o, ho, isPlace⟩ := List.mem_map.mp here
        have named := overriding.fieldKey_placeOf (perm.mem_iff.mp ho)
        rw [isPlace] at named
        have absent := List.lookup_eq_none_iff.mp found o (perm.mem_iff.mp ho)
        simp [named] at absent
  | some value =>
      obtain ⟨before, after, split, -⟩ := List.lookup_eq_some_iff.mp found
      have here : (fieldKey p.1 p.2, value) ∈ overrides := by simp [split]
      obtain ⟨said, told, isThere⟩ := each _ (perm.mem_iff.mpr here)
      rw [placeOf_fieldKey hp rfl] at isThere
      obtain rfl := Except.ok.inj told
      rw [isThere, overrideSaid, found]
      simp [fieldOf?, lookup?_nil]

end IntentSpec.Config
