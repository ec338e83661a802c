import IntentSpec.Proofs.Report.Canonical
import IntentSpec.Proofs.Report.Reading

/-!
# Export and import of reports

What is exported is an object with the fields that the reader of its type wants.  The export leaves out
a reason that is empty and whatever is absent; the reader fills in what is absent, so only the empty
reason is forgotten.  Nothing changes if the members of objects are permuted on the way, since a reader
asks for each field by its key.  So the same lemmas serve the export as it stands and its sorted form.

* `Outcome.shown`, `Violation.arranged`, `arranged` — what is read back.
* `Evidence.reads_value`, `Outcome.reads_value`, `Violation.reads_value`, `reads_value` — the export of
  what is admitted is read back, however its objects are arranged.
* `Outcome.Constructible`, `Violation.Constructible`, `Constructible` — the values that can be built;
  `constructible_of_assemble` and `constructible_of_ofDatum` give the two ways to build one.
* `exchange_keeps` — export followed by import loses nothing and is never rejected.
-/

namespace IntentSpec

open Datum IntentSpec.Field

/-! ## The fields of an exported object -/

theorem Field.get_eq_of_mem {m : List (String × Datum)} (distinct : (m.map Prod.fst).Nodup)
    {key : String} {d : Datum} (here : (key, d) ∈ m) : get key m = d := by
  have there : (m.find? (·.1 == key)).isSome :=
    List.find?_isSome.mpr ⟨(key, d), here, beq_self_eq_true key⟩
  obtain ⟨field, found⟩ := Option.isSome_iff_exists.mp there
  have sameKey : field.1 = key := by simpa using List.find?_some found
  have same := List.inj_on_of_nodup_map distinct (List.mem_of_find?_eq_some found) here sameKey
  rw [get, found, same]
  rfl

theorem Field.get_eq_null {m : List (String × Datum)} {key : String} (absent : key ∉ m.map Prod.fst) :
    get key m = .null := by
  have none : m.find? (·.1 == key) = none := by
    refine List.find?_eq_none.mpr fun field here same => absent ?_
    exact List.mem_map.mpr ⟨field, here, by simpa using same⟩
  rw [get, none]
  rfl

/-- The members have all required keys, then some of the optional ones, and no others. -/
structure Json.Keyed (required optional : List String) (ms : List (String × Json)) : Prop where
  /-- The keys in the order in which they stand. -/
  keys : ∃ given : List String, given.Sublist optional ∧ ms.map Prod.fst = required ++ given
  /-- No two fields of the type have one key. -/
  distinct : (required ++ optional).Nodup

theorem Json.Keyed.nodup {required optional : List String} {ms : List (String × Json)}
    (keyed : Json.Keyed required optional ms) : (ms.map Prod.fst).Nodup := by
  obtain ⟨given, inside, keys⟩ := keyed.keys
  rw [keys]
  exact (inside.append_left required).nodup keyed.distinct

namespace Json.Arrangement

variable (f : Json.Arrangement) {ms : List (String × Json)}

/-- The fields of an arranged object. -/
def fields (ms : List (String × Json)) : List (String × Datum) :=
  (f.members ms).map fun m => (m.1, ofJson m.2)

theorem ofJson_value_object (ms : List (String × Json)) :
    ofJson (f.value (.object ms)) = .object (f.fields ms) := by
  rw [f.value_object, ofJson_object, fields]

theorem fields_perm (ms : List (String × Json)) :
    (f.fields ms).Perm (ms.map fun m => (m.1, ofJson (f.value m.2))) := by
  have perm := (f.members_perm ms).map fun m : String × Json => (m.1, ofJson m.2)
  rwa [List.map_map] at perm

theorem keys_perm (ms : List (String × Json)) :
    ((f.fields ms).map Prod.fst).Perm (ms.map Prod.fst) := by
  have perm := (f.fields_perm ms).map Prod.fst
  rwa [List.map_map] at perm

theorem get_fields (distinct : (ms.map Prod.fst).Nodup) {key : String} {v : Json}
    (here : (key, v) ∈ ms) : get key (f.fields ms) = ofJson (f.value v) := by
  refine get_eq_of_mem ((f.keys_perm ms).nodup_iff.mpr distinct) ((f.fields_perm ms).mem_iff.mpr ?_)
  exact List.mem_map.mpr ⟨(key, v), here, rfl⟩

theorem textIs_fields (distinct : (ms.map Prod.fst).Nodup) {key s : String}
    (here : (key, .text s) ∈ ms) : TextIs (get key (f.fields ms)) s := by
  rw [f.get_fields distinct here, f.value_text, ofJson]
  rfl

/-- A field that may be absent is read back if what stands under its key is. -/
theorem perhaps_fields {α : Type} {R : Datum → α → Prop} (distinct : (ms.map Prod.fst).Nodup)
    {key : String} {o : Option α} {tree : α → Json} (has : ∀ w, (key, w) ∈ ms ↔ ∃ a ∈ o, tree a = w)
    (reads : ∀ a ∈ o, R (ofJson (f.value (tree a))) a) : Perhaps R (get key (f.fields ms)) o := by
  cases o with
  | none =>
      have absent : key ∉ (f.fields ms).map Prod.fst := by
        rw [(f.keys_perm ms).mem_iff]
        intro there
        obtain ⟨⟨_, w⟩, here, rfl⟩ := List.mem_map.mp there
        obtain ⟨a, isSome, -⟩ := (has w).mp here
        cases isSome
      rw [get_eq_null absent]
      exact .absent
  | some a =>
      rw [f.get_fields distinct ((has (tree a)).mpr ⟨a, rfl, rfl⟩)]
      exact .present (reads a rfl)

/-- An array is read back item by item. -/
theorem sequence_value {α : Type} {R : Datum → α → Prop} {tree : α → Json} {l : List α}
    (reads : ∀ a ∈ l, R (ofJson (f.value (tree a))) a) :
    Sequence R (ofJson (f.value (.array (l.map tree)))) l := by
  rw [f.value_array, ofJson_array, List.map_map, List.map_map]
  refine .list ?_
  rw [List.forall₂_map_left_iff]
  exact List.forall₂_same.mpr reads

theorem text_value (s : String) : TextIs (ofJson (f.value (.text s))) s := by
  rw [f.value_text, ofJson]
  rfl

theorem texts_value (l : List String) : Sequence TextIs (ofJson (f.value (.texts l))) l :=
  f.sequence_value fun s _ => f.text_value s

/-- An arranged object has the fields of its type if its members have the keys. -/
theorem hasFields_value {required optional : List String} (keyed : Json.Keyed required optional ms)
    {fields : List (String × Datum) → Prop} (holds : fields (f.fields ms)) :
    HasFields required optional fields (ofJson (f.value (.object ms))) := by
  obtain ⟨given, inside, keys⟩ := keyed.keys
  have mem : ∀ key, key ∈ (f.fields ms).map Prod.fst ↔ key ∈ required ∨ key ∈ given := by
    intro key
    rw [(f.keys_perm ms).mem_iff, keys, List.mem_append]
  refine ⟨f.fields ms, f.ofJson_value_object ms, ⟨fun key here => ?_, fun key here => ?_⟩, holds⟩
  · exact ((mem key).mp here).imp_right fun extra => inside.subset extra
  · exact (mem key).mpr (.inl here)

end Json.Arrangement

namespace Report

/-! ## Reading back -/

/-- The outcome as far as it is shown: an empty reason is none. -/
def Outcome.shown (o : Outcome) : Outcome := { o with reason := o.shownReason }

/-- The violation with arranged references. -/
def Violation.arranged (f : Json.Arrangement) (v : Violation) : Violation :=
  { v with refs := f.members v.refs }

/-- The report as far as it is shown, with arranged objects. -/
def arranged (f : Json.Arrangement) (r : Report) : Report :=
  { r with
    outcomes := r.outcomes.map Outcome.shown
    violations := r.violations.map (Violation.arranged f)
    extensions := r.extensions.map f.members }

theorem Outcome.shownReason_shown (o : Outcome) : o.shown.shownReason = o.shownReason := by
  unfold shown shownReason
  by_cases is : given o.reason = true
  · simp [is]
  · simp [is]

/-- What is not shown does not change the export. -/
@[simp] theorem Outcome.toJson_shown (o : Outcome) : o.shown.toJson = o.toJson := by
  rw [Outcome.toJson_eq, Outcome.toJson_eq]
  unfold jsonMembers
  rw [shownReason_shown]
  rfl

theorem Outcome.Admitted.shown {o : Outcome} (admitted : o.Admitted) : o.shown.Admitted where
  named := admitted.named
  explained := by
    have same : given o.shown.reason = given o.reason := by
      unfold Outcome.shown Outcome.shownReason
      by_cases is : given o.reason = true
      · rw [if_pos is]
      · rw [if_neg is, Bool.eq_false_iff.mpr is]
        rfl
    rw [same]
    exact admitted.explained

theorem annotations_keys (evidence : Option (List Evidence)) (notes : Option (List String)) :
    ((annotations evidence notes).map Prod.fst).Sublist ["evidence", "notes"] := by
  cases evidence <;> cases notes <;> simp [annotations]

theorem Evidence.keyed (e : Evidence) : Json.Keyed ["kind", "value"] [] e.jsonMembers :=
  ⟨⟨[], List.Sublist.refl _, rfl⟩, by decide⟩

theorem Outcome.keyed (o : Outcome) : Json.Keyed ["validation_id", "status", "targets"]
    ["reason", "evidence", "notes"] o.jsonMembers where
  keys := by
    have reason : ((o.shownReason.map fun reason => ("reason", Json.text reason)).toList.map
        Prod.fst).Sublist ["reason"] := by
      cases o.shownReason <;> simp
    exact ⟨_, reason.append (annotations_keys o.evidence o.notes), by simp [jsonMembers]⟩
  distinct := by decide

theorem Violation.keyed (v : Violation) :
    Json.Keyed ["code", "message"] ["refs", "evidence", "notes"] v.jsonMembers :=
  ⟨⟨_, (annotations_keys v.evidence v.notes).cons_cons "refs", rfl⟩, by decide⟩

theorem keyed (r : Report) (outcomes violations : List Json) :
    Json.Keyed ["spec_version", "system_id", "state", "outcomes", "errors"] ["notes", "extensions"]
      (r.jsonMembers outcomes violations) where
  keys := by
    refine ⟨(r.notes.map fun l => ("notes", Json.texts l)).toList.map Prod.fst ++
      (r.extensions.map fun members => ("extensions", Json.object members)).toList.map Prod.fst, ?_,
      by simp [jsonMembers]⟩
    cases r.notes <;> cases r.extensions <;> simp
  distinct := by decide

section Arranged

variable (f : Json.Arrangement)

/-- **Exported evidence is read back.** -/
theorem Evidence.reads_value (e : Evidence) : Evidence.Reads (ofJson (f.value e.toJson)) e := by
  rw [Evidence.toJson_eq]
  refine f.hasFields_value e.keyed ⟨?_, ?_⟩
  · exact f.textIs_fields e.keyed.nodup (by simp [jsonMembers])
  · exact f.textIs_fields e.keyed.nodup (by simp [jsonMembers])

theorem Evidence.evidence_value (l : List Evidence) :
    Sequence Evidence.Reads (ofJson (f.value (.array (l.map Evidence.toJson)))) l :=
  f.sequence_value fun e _ => Evidence.reads_value f e

theorem Outcome.from_value {o : Outcome} (admitted : o.Admitted) :
    Outcome.From (f.fields o.jsonMembers) o.shown where
  validation := by
    have here : ("validation_id", Json.text o.validation) ∈ o.jsonMembers := by simp [mem_members]
    exact f.textIs_fields o.keyed.nodup here
  status := by
    have here : ("status", Json.text o.status.name) ∈ o.jsonMembers := by simp [mem_members]
    exact f.textIs_fields o.keyed.nodup here
  targets := by
    have here : ("targets", Json.texts o.targets) ∈ o.jsonMembers := by simp [mem_members]
    have there : "targets" ∈ (f.fields o.jsonMembers).map Prod.fst :=
      (f.keys_perm _).mem_iff.mpr (List.mem_map.mpr ⟨_, here, rfl⟩)
    rw [getOr_eq_get _ there, f.get_fields o.keyed.nodup here]
    exact f.texts_value o.targets
  reason := by
    have has : ∀ w, ("reason", w) ∈ o.jsonMembers ↔ ∃ s ∈ o.shownReason, Json.text s = w := by
      simp [mem_members, mem_annotations]
    exact f.perhaps_fields o.keyed.nodup has fun s _ => f.text_value s
  notes := by
    have has : ∀ w, ("notes", w) ∈ o.jsonMembers ↔ ∃ l ∈ o.notes, Json.texts l = w := by
      simp [mem_members, mem_annotations]
    exact f.perhaps_fields o.keyed.nodup has fun l _ => f.texts_value l
  admitted := admitted.shown

/-- **The export of an outcome is read back** as far as it is shown. -/
theorem Outcome.reads_value {o : Outcome} (admitted : o.Admitted) :
    Outcome.Reads (ofJson (f.value o.toJson)) o.shown := by
  have has : ∀ w, ("evidence", w) ∈ o.jsonMembers ↔
      ∃ l ∈ o.evidence, Json.array (l.map Evidence.toJson) = w := by
    simp [mem_members, mem_annotations]
  rw [Outcome.toJson_eq]
  refine f.hasFields_value o.keyed ⟨Outcome.from_value f admitted, ?_⟩
  exact f.perhaps_fields o.keyed.nodup has fun l _ => Evidence.evidence_value f l

theorem Violation.from_value {v : Violation} (admitted : v.Admitted) :
    Violation.From (f.fields v.jsonMembers) (refsOf (f.fields v.jsonMembers)) (v.arranged f) where
  code := by
    have here : ("code", Json.text v.code) ∈ v.jsonMembers := by simp [mem_members]
    exact f.textIs_fields v.keyed.nodup here
  message := by
    have here : ("message", Json.text v.message) ∈ v.jsonMembers := by simp [mem_members]
    exact f.textIs_fields v.keyed.nodup here
  refs := by
    have here : ("refs", Json.object v.refs) ∈ v.jsonMembers := by simp [mem_members]
    have finite : (Json.object (f.members v.refs)).Finite := by
      rw [← f.value_object]
      exact f.finite admitted.finite
    have given := f.get_fields v.keyed.nodup here
    rw [f.value_object, ofJson] at given
    -- references that are empty count as nothing, which stands for empty references
    have refs : refsOf (f.fields v.jsonMembers) = ofJson (.object (f.members v.refs)) := by
      unfold refsOf
      rw [given, ofJson]
      split
      next nothing => rw [List.isEmpty_iff.mp nothing]
      next => rfl
    rw [refs]
    exact jsonObject_ofJson finite _
  notes := by
    have has : ∀ w, ("notes", w) ∈ v.jsonMembers ↔ ∃ l ∈ v.notes, Json.texts l = w := by
      simp [mem_members, mem_annotations]
    exact f.perhaps_fields v.keyed.nodup has fun l _ => f.texts_value l
  named := admitted.named

/-- **The export of a violation is read back.** -/
theorem Violation.reads_value {v : Violation} (admitted : v.Admitted) :
    Violation.Reads (ofJson (f.value v.toJson)) (v.arranged f) := by
  have has : ∀ w, ("evidence", w) ∈ v.jsonMembers ↔
      ∃ l ∈ v.evidence, Json.array (l.map Evidence.toJson) = w := by
    simp [mem_members, mem_annotations]
  rw [Violation.toJson_eq]
  refine f.hasFields_value v.keyed ⟨Violation.from_value f admitted, ?_⟩
  exact f.perhaps_fields v.keyed.nodup has fun l _ => Evidence.evidence_value f l

theorem mem_members (r : Report) (outcomes violations : List Json) (key : String) (w : Json) :
    (key, w) ∈ r.jsonMembers outcomes violations ↔
      (key = "spec_version" ∧ .text r.specVersion = w) ∨ (key = "system_id" ∧ .text r.systemId = w) ∨
        (key = "state" ∧ .text r.verdict.name = w) ∨ (key = "outcomes" ∧ .array outcomes = w) ∨
        (key = "errors" ∧ .array violations = w) ∨
        (key = "notes" ∧ ∃ l ∈ r.notes, Json.texts l = w) ∨
        (key = "extensions" ∧ ∃ members ∈ r.extensions, Json.object members = w) := by
  unfold jsonMembers
  cases r.notes <;> cases r.extensions <;> simp [eq_comm]

theorem from_value {r : Report} (admitted : r.Admitted) (outcomes violations : List Json) :
    From (f.fields (r.jsonMembers outcomes violations)) (r.arranged f) where
  specVersion := by
    have here : ("spec_version", Json.text r.specVersion) ∈ r.jsonMembers outcomes violations := by
      simp [mem_members]
    exact f.textIs_fields (r.keyed _ _).nodup here
  systemId := by
    have here : ("system_id", Json.text r.systemId) ∈ r.jsonMembers outcomes violations := by
      simp [mem_members]
    exact f.textIs_fields (r.keyed _ _).nodup here
  verdict := by
    have here : ("state", Json.text r.verdict.name) ∈ r.jsonMembers outcomes violations := by
      simp [mem_members]
    exact f.textIs_fields (r.keyed _ _).nodup here
  notes := by
    have has : ∀ w, ("notes", w) ∈ r.jsonMembers outcomes violations ↔
        ∃ l ∈ r.notes, Json.texts l = w := by
      simp [mem_members]
    exact f.perhaps_fields (r.keyed _ _).nodup has fun l _ => f.texts_value l
  extensions := by
    have has : ∀ w, ("extensions", w) ∈ r.jsonMembers outcomes violations ↔
        ∃ members ∈ r.extensions, Json.object members = w := by
      simp [mem_members]
    refine (f.perhaps_fields (r.keyed _ _).nodup has fun members here => ?_).map
    rw [f.value_object]
    refine jsonObject_ofJson ?_ _
    rw [← f.value_object]
    exact f.finite (admitted.finite members here)
  sound := fun valid => by
    rw [arranged, admitted.sound valid]
    rfl

/-- **The export of a report is read back** as far as it is shown. An empty reason is not shown, and
the members of objects come back in the order in which they are written. -/
theorem reads_value {r : Report} (admitted : r.Admitted) :
    Reads (ofJson (f.value r.toJson)) (r.arranged f) := by
  have outcomes : ("outcomes", Json.array (r.outcomes.map Outcome.toJson)) ∈
      r.jsonMembers (r.outcomes.map Outcome.toJson) (r.violations.map Violation.toJson) := by
    simp [mem_members]
  have violations : ("errors", Json.array (r.violations.map Violation.toJson)) ∈
      r.jsonMembers (r.outcomes.map Outcome.toJson) (r.violations.map Violation.toJson) := by
    simp [mem_members]
  rw [toJson, toJsonWith_eq]
  refine f.hasFields_value (r.keyed _ _) ⟨from_value f admitted _ _, ?_, ?_⟩
  · rw [f.get_fields (r.keyed _ _).nodup outcomes]
    exact (f.sequence_value fun o here => Outcome.reads_value f (admitted.outcomes o here)).map
  · rw [f.get_fields (r.keyed _ _).nodup violations]
    exact (f.sequence_value fun v here => Violation.reads_value f (admitted.violations v here)).map

end Arranged

/-! ## Values that can be built

A value is built from fields and from parts that were built before.  Assembling and reading differ in
how they come by the parts, and build the same values. -/

/-- The evidence is built from some fields. -/
def Evidence.Constructible (e : Evidence) : Prop := ∃ m, Evidence.ofFields m = .ok e

/-- The outcome is built from some fields and some evidence. -/
def Outcome.Constructible (o : Outcome) : Prop :=
  ∃ m evidence, Outcome.ofFields m (.ok evidence) = .ok o

/-- The violation is built from some fields, some references and some evidence. -/
def Violation.Constructible (v : Violation) : Prop :=
  ∃ m refs evidence, Violation.ofFields m refs (.ok evidence) = .ok v

/-- The report is built from some fields and from outcomes and violations that were built before. -/
def Constructible (r : Report) : Prop :=
  ∃ m outcomes violations, ofFields m (.ok outcomes) (.ok violations) = .ok r ∧
    (∀ o ∈ outcomes, o.Constructible) ∧ ∀ v ∈ violations, v.Constructible

theorem Outcome.constructible_of_assemble {m : List (String × Datum)} {o : Outcome}
    (assembled : Outcome.assemble m = .ok o) : o.Constructible := by
  have fields := ((Outcome.ofFields_eq_ok_iff m _ o).mp assembled).1
  exact ⟨m, o.evidence, (Outcome.ofFields_eq_ok_iff m _ o).mpr ⟨fields, rfl⟩⟩

theorem Outcome.constructible_of_reads {d : Datum} {o : Outcome} (reads : Outcome.Reads d o) :
    o.Constructible := by
  obtain ⟨m, -, -, fields, -⟩ := reads
  exact ⟨m, o.evidence, (Outcome.ofFields_eq_ok_iff m _ o).mpr ⟨fields, rfl⟩⟩

theorem Violation.constructible_of_assemble {m : List (String × Datum)} {v : Violation}
    (assembled : Violation.assemble m = .ok v) : v.Constructible := by
  have fields := ((Violation.ofFields_eq_ok_iff m _ _ v).mp assembled).1
  exact ⟨m, _, v.evidence, (Violation.ofFields_eq_ok_iff m _ _ v).mpr ⟨fields, rfl⟩⟩

theorem Violation.constructible_of_reads {d : Datum} {v : Violation} (reads : Violation.Reads d v) :
    v.Constructible := by
  obtain ⟨m, -, -, fields, -⟩ := reads
  exact ⟨m, _, v.evidence, (Violation.ofFields_eq_ok_iff m _ _ v).mpr ⟨fields, rfl⟩⟩

/-- Records that are assembled from a sequence are assembled one by one. -/
theorem exists_assembled {α : Type} {type path : String}
    {assemble : List (String × Datum) → Except Rejection α} {d : Datum} {as : List α}
    (assembled : records type assemble path d = .ok as) : ∀ a ∈ as, ∃ m, assemble m = .ok a := by
  obtain ⟨ds, -, rest⟩ := (bind_eq_ok_iff _ _ as).mp assembled
  obtain ⟨fields, -, each⟩ := (bind_eq_ok_iff _ _ as).mp rest
  intro a here
  obtain ⟨m, -, made⟩ := Json.exists_mem_of_forall₂ ((mapM_eq_ok_iff ..).mp each).flip here
  exact ⟨m, made⟩

/-- The items that are read from a sequence are read one by one. -/
theorem exists_read {α : Type} {R : Datum → α → Prop} {d : Datum} {as : List α}
    (read : Sequence R d as) : ∀ a ∈ as, ∃ d, R d a := by
  obtain ⟨ds, -, each⟩ := (sequence_iff d as).mp read
  intro a here
  obtain ⟨d, -, reads⟩ := Json.exists_mem_of_forall₂ each.flip here
  exact ⟨d, reads⟩

/-- **A report that is assembled is built from parts that were built.** -/
theorem constructible_of_assemble {m : List (String × Datum)} {r : Report}
    (assembled : assemble m = .ok r) : r.Constructible := by
  obtain ⟨fields, outcomes, violations⟩ := (ofFields_eq_ok_iff m _ _ r).mp assembled
  refine ⟨m, r.outcomes, r.violations, (ofFields_eq_ok_iff m _ _ r).mpr ⟨fields, rfl, rfl⟩, ?_, ?_⟩
  · intro o here
    obtain ⟨m, assembled⟩ := exists_assembled outcomes o here
    exact Outcome.constructible_of_assemble assembled
  · intro v here
    obtain ⟨m, assembled⟩ := exists_assembled violations v here
    exact Violation.constructible_of_assemble assembled

/-- **A report that is read is built from parts that were built.** -/
theorem constructible_of_ofDatum {d : Datum} {r : Report} (read : ofDatum d = .ok r) :
    r.Constructible := by
  obtain ⟨m, -, -, fields, outcomes, violations⟩ := (ofDatum_eq_ok_iff d r).mp read
  refine ⟨m, r.outcomes, r.violations, (ofFields_eq_ok_iff m _ _ r).mpr ⟨fields, rfl, rfl⟩, ?_, ?_⟩
  · intro o here
    obtain ⟨d, reads⟩ := exists_read outcomes o here
    exact Outcome.constructible_of_reads reads
  · intro v here
    obtain ⟨d, reads⟩ := exists_read violations v here
    exact Violation.constructible_of_reads reads

theorem Outcome.Constructible.admitted {o : Outcome} (built : o.Constructible) : o.Admitted := by
  obtain ⟨m, evidence, made⟩ := built
  exact ((Outcome.ofFields_eq_ok_iff m _ o).mp made).1.admitted

theorem Violation.Constructible.admitted {v : Violation} (built : v.Constructible) : v.Admitted := by
  obtain ⟨m, refs, evidence, made⟩ := built
  have fields := ((Violation.ofFields_eq_ok_iff m refs _ v).mp made).1
  exact ⟨fields.named, finite_of_jsonObject fields.refs⟩

theorem Constructible.admitted {r : Report} (built : r.Constructible) : r.Admitted := by
  obtain ⟨m, outcomes, violations, made, outcomesBuilt, violationsBuilt⟩ := built
  obtain ⟨fields, ⟨⟩, ⟨⟩⟩ := (ofFields_eq_ok_iff m _ _ r).mp made
  refine ⟨fun o here => (outcomesBuilt o here).admitted, fun v here => (violationsBuilt v here).admitted,
    fields.sound, fun members here => ?_⟩
  have extensions := fields.extensions
  rw [here, perhaps_some_iff] at extensions
  exact finite_of_jsonObject extensions

/-! ## Export followed by import -/

theorem arranged_asIs (r : Report) :
    r.arranged .asIs = { r with outcomes := r.outcomes.map Outcome.shown } := by
  have violations : r.violations.map (Violation.arranged .asIs) = r.violations := List.map_id _
  have extensions : r.extensions.map Json.Arrangement.asIs.members = r.extensions :=
    congrFun Option.map_id r.extensions
  rw [arranged, violations, extensions]

theorem map_toJson_shown (l : List Outcome) :
    (l.map Outcome.shown).map Outcome.toJson = l.map Outcome.toJson := by
  rw [List.map_map]
  exact List.map_congr_left fun o _ => o.toJson_shown

/-- **Export followed by import loses nothing and is never rejected.**  What is read from the export of
a value that can be built is exported in the same way, and a report keeps its exit status. -/
theorem exchange_keeps :
    (∀ e : Evidence, e.Constructible →
        ∃ e', Evidence.ofDatum (.ofJson e.toJson) = .ok e' ∧ e'.toJson = e.toJson) ∧
      (∀ o : Outcome, o.Constructible →
        ∃ o', Outcome.ofDatum (.ofJson o.toJson) = .ok o' ∧ o'.toJson = o.toJson) ∧
      (∀ v : Violation, v.Constructible →
        ∃ v', Violation.ofDatum (.ofJson v.toJson) = .ok v' ∧ v'.toJson = v.toJson) ∧
      (∀ r : Report, r.Constructible → ∃ r', ofDatum (.ofJson r.toJson) = .ok r' ∧
        r'.toJson = r.toJson ∧ r'.exitCode = r.exitCode) := by
  refine ⟨fun e _ => ?_, fun o built => ?_, fun v built => ?_, fun r built => ?_⟩
  · exact ⟨e, (Evidence.ofDatum_eq_ok_iff _ e).mpr (Evidence.reads_value .asIs e), rfl⟩
  · have reads := Outcome.reads_value .asIs built.admitted
    exact ⟨o.shown, (Outcome.ofDatum_eq_ok_iff _ _).mpr reads, o.toJson_shown⟩
  · have reads := Violation.reads_value .asIs built.admitted
    exact ⟨v, (Violation.ofDatum_eq_ok_iff _ v).mpr reads, rfl⟩
  · have reads := reads_value .asIs built.admitted
    rw [arranged_asIs] at reads
    refine ⟨_, (ofDatum_eq_ok_iff _ _).mpr reads, ?_, rfl⟩
    rw [toJson, map_toJson_shown]
    rfl

/-- The fields of a reference that is empty. -/
def emptyRefFields : List (String × Datum) := [("kind", .text "ref"), ("value", .text "")]

/-- The fields of an outcome with an empty reason and with notes that are there and empty. -/
def quietFields : List (String × Datum) :=
  [("validation_id", .text "V-M1"), ("status", .text "satisfied"), ("targets", .list [.text "t"]),
    ("reason", .text ""), ("evidence", .list [.record "EvidenceItem" emptyRefFields]),
    ("notes", .list [])]

/-- The fields of a violation with nested references. -/
def nestedFields : List (String × Datum) :=
  [("code", .text "E"), ("message", .text "m"),
    ("refs", .object [("b", .tuple [.null]), ("a", .object [("x", .int 1)])])]

/-- The fields of a report with these parts. -/
def quietReportFields : List (String × Datum) :=
  [("spec_version", .text "DIL:spec v0"), ("system_id", .text "S"), ("state", .text "invalid"),
    ("outcomes", .list [.record "ValidationOutcome" quietFields]),
    ("errors", .tuple [.record "StructuredError" nestedFields]), ("extensions", .object [])]

/-- What is assembled from these fields is exported and read back. -/
theorem exchange_keeps_quietReportFields :
    (∃ e, Evidence.ofFields emptyRefFields = .ok e ∧
        ∃ e', Evidence.ofDatum (.ofJson e.toJson) = .ok e' ∧ e'.toJson = e.toJson) ∧
      (∃ o, Outcome.assemble quietFields = .ok o ∧
        ∃ o', Outcome.ofDatum (.ofJson o.toJson) = .ok o' ∧ o'.toJson = o.toJson) ∧
      (∃ v, Violation.assemble nestedFields = .ok v ∧
        ∃ v', Violation.ofDatum (.ofJson v.toJson) = .ok v' ∧ v'.toJson = v.toJson) ∧
      (∃ r, assemble quietReportFields = .ok r ∧ ∃ r', ofDatum (.ofJson r.toJson) = .ok r' ∧
        r'.toJson = r.toJson ∧ r'.exitCode = r.exitCode) := by
  obtain ⟨evidence, outcomes, violations, reports⟩ := exchange_keeps
  refine ⟨⟨_, rfl, evidence _ ⟨emptyRefFields, rfl⟩⟩, ⟨_, rfl, outcomes _ ?_⟩,
    ⟨_, rfl, violations _ ?_⟩, ⟨_, rfl, reports _ ?_⟩⟩
  · exact Outcome.constructible_of_assemble (m := quietFields) rfl
  · exact Violation.constructible_of_assemble (m := nestedFields) rfl
  · exact constructible_of_assemble (m := quietReportFields) rfl

end Report

end IntentSpec
