import IntentSpec.Proofs.Config.Schema
import IntentSpec.Proofs.Sorting
import Mathlib.Data.List.TakeWhile

/-!
# The issues of a configuration and their order

Everything that is wrong with a configuration is reported, each thing once.  The report is made in passes:
first the sections that are unknown or missing, then section by section the fields that are unknown or
missing, and then the values that are not accepted.  Each pass is in order by itself, so the whole is in
order, by section and by field, exactly if no pass has something to report that stands before what an earlier
one reports (`NoneLate`).

* `Wrong` — what is wrong at a place, said of the configuration and not of the report.
* `mem_found_iff` — what is found is what is wrong.
* `InOrder` — the issues are ordered by section and then by path, and no path is reported twice.
* `inOrder_iff` — when they are.
* `not_inOrder_strayConfig` — a section that is unknown in front of a value that is not accepted.
-/

namespace IntentSpec.Config

open Datum

/-! ## Places -/

namespace Spot

/-- The section that a place belongs to. -/
def section_ : Spot → String
  | whole => "<root>"
  | part s => s
  | field s _ => s

/-- The order of places by section and, within a section, by path. -/
def Before (a b : Spot) : Prop :=
  a.section_ < b.section_ ∨ a.section_ = b.section_ ∧ a.path < b.path

theorem field_path_lt_iff (s a b : String) : (field s a).path < (field s b).path ↔ a < b := by
  have forward {a b : String} (less : a < b) : (field s a).path < (field s b).path := by
    unfold path
    rw [String.lt_iff] at less ⊢
    simp only [String.toList_append]
    exact List.append_left_lt less
  constructor
  · intro less
    rcases text_lt_or_eq_or_lt a b with below | rfl | above
    · exact below
    · exact absurd less (String.lt_irrefl _)
    · exact absurd less (String.lt_asymm (forward above))
  · exact forward

theorem before_field_iff (s a b : String) : (field s a).Before (field s b) ↔ a < b := by
  unfold Before
  rw [field_path_lt_iff]
  simp [section_]

/-- A section is reported under its name, and its fields under names that go on from there. -/
theorem section_le_path (a : Spot) : a.section_ ≤ a.path := by
  cases a with
  | field s name =>
      have longer : s.toList ++ [] < s.toList ++ '.' :: name.toList :=
        List.append_left_lt (List.nil_lt_cons '.' name.toList)
      rw [← String.not_lt, String.lt_iff]
      intro less
      exact List.lt_asymm longer (by simpa [section_, path, String.toList_append] using less)
  | _ => exact String.le_refl _

end Spot

/-! ## What is wrong -/

/-- Something is wrong with a key of entries that are to have some names as keys: it is none of them, or it is
one that is missing. -/
def KeyWrong (names : List String) (entries : List (Datum × Datum)) (key : String) (defect : Defect) : Prop :=
  (key ∈ shownKeys entries ∧ key ∉ names ∧ defect = .unknownField) ∨
    (key ∈ names ∧ key ∉ shownKeys entries ∧ defect = .missingField)

/-- Something is wrong within a section of the schema that is there. -/
inductive WrongIn (s : SectionRule) (entries : List (Datum × Datum)) : Spot → Defect → Prop where
  /-- The section is neither null nor a mapping. -/
  | notObject {value : Datum} (there : lookup? s.1 entries = some value) (stated : value ≠ .null)
    (other : ∀ inner, value ≠ .mapping inner) : WrongIn s entries (.part s.1) (.notObject value.typeName)
  /-- A field is unknown or missing. -/
  | key {inner : List (Datum × Datum)} {key : String} {defect : Defect}
    (there : lookup? s.1 entries = some (.mapping inner))
    (wrong : KeyWrong (s.2.map Prod.fst) inner key defect) : WrongIn s entries (.field s.1 key) defect
  /-- The value of a field is not accepted. -/
  | value {inner : List (Datum × Datum)} {f : String × FieldCheck} {value : Datum} {defect : Defect}
    (there : lookup? s.1 entries = some (.mapping inner)) (mem : f ∈ s.2)
    (isThere : lookup? f.1 inner = some value) (rejected : f.2 value = .ok (.error defect)) :
    WrongIn s entries (.field s.1 f.1) defect

/-- Something is wrong at a place of a configuration. -/
inductive Wrong (d : Datum) : Spot → Defect → Prop where
  | whole (other : ∀ entries, d ≠ .mapping entries) : Wrong d .whole (.notObject d.typeName)
  /-- A section is unknown or missing. -/
  | part {entries : List (Datum × Datum)} {key : String} {defect : Defect} (is : d = .mapping entries)
    (wrong : KeyWrong (schema.map Prod.fst) entries key defect) : Wrong d (.part key) defect
  /-- Something is wrong within a section. -/
  | inside {entries : List (Datum × Datum)} {s : SectionRule} {spot : Spot} {defect : Defect}
    (is : d = .mapping entries) (mem : s ∈ schema) (wrong : WrongIn s entries spot defect) :
    Wrong d spot defect

/-! ## What is reported -/

/-- The issues are ordered by section and then by path, and no path is reported twice. -/
def InOrder (d : Datum) : Prop :=
  (found d).Pairwise (fun v w => v.1.Before w.1) ∧ (((found d).map report).map Issue.path).Nodup

/-- No key is reported in front of what comes before it: an unknown or missing section comes before every
section with something wrong in it, and an unknown or missing field before every field of the section whose
value is not accepted. -/
structure NoneLate (entries : List (Datum × Datum)) : Prop where
  /-- Sections that are unknown or missing. -/
  sections : ∀ key defect, KeyWrong (schema.map Prod.fst) entries key defect →
    ∀ s ∈ schema, ∀ spot defect', WrongIn s entries spot defect' → key < s.1
  /-- Fields that are unknown or missing. -/
  fields : ∀ s ∈ schema, ∀ inner, lookup? s.1 entries = some (.mapping inner) →
    ∀ key defect, KeyWrong (s.2.map Prod.fst) inner key defect →
      ∀ f ∈ s.2, ∀ value defect', lookup? f.1 inner = some value → f.2 value = .ok (.error defect') → key < f.1

/-! ## What is found is what is wrong -/

theorem mem_keyFindings_iff (names : List String) (entries : List (Datum × Datum)) (w : String × Defect) :
    w ∈ keyFindings names entries ↔ KeyWrong names entries w.1 w.2 := by
  obtain ⟨key, defect⟩ := w
  unfold keyFindings KeyWrong
  rw [List.mem_filterMap]
  simp only [(sortTexts_perm _).mem_iff, mem_dedup, List.mem_append]
  constructor
  · rintro ⟨key', here, is⟩
    by_cases known : key' ∈ names
    · by_cases shown : key' ∈ shownKeys entries
      · simp [known, shown] at is
      · simp only [List.contains_eq_mem, known, shown, decide_true, decide_false, Bool.not_true,
          Bool.not_false, Bool.false_eq_true, if_false, if_true, Option.some.injEq, Prod.mk.injEq] at is
        obtain ⟨rfl, rfl⟩ := is
        exact .inr ⟨known, shown, rfl⟩
    · simp only [List.contains_eq_mem, known, decide_false, Bool.not_false, if_true, Option.some.injEq,
        Prod.mk.injEq] at is
      obtain ⟨rfl, rfl⟩ := is
      exact .inl ⟨here.resolve_right known, known, rfl⟩
  · rintro (⟨shown, unknown, rfl⟩ | ⟨known, missing, rfl⟩)
    · exact ⟨key, .inl shown, by simp [unknown]⟩
    · exact ⟨key, .inr known, by simp [known, missing]⟩

theorem mem_valueFindings_iff (fields : List (String × FieldCheck)) (inner : List (Datum × Datum))
    (w : String × Defect) : w ∈ valueFindings fields inner ↔
      ∃ f ∈ fields, ∃ value, lookup? f.1 inner = some value ∧ f.2 value = .ok (.error w.2) ∧ f.1 = w.1 := by
  obtain ⟨name, defect⟩ := w
  unfold valueFindings
  rw [List.mem_filterMap]
  refine exists_congr fun f => and_congr_right fun _ => ?_
  rw [Option.bind_eq_some_iff]
  refine exists_congr fun value => and_congr_right fun _ => ?_
  rcases f.2 value with _ | _ | _ <;> simp [and_comm]

theorem mem_sectionFindings_iff (entries : List (Datum × Datum)) (s : SectionRule) (w : Spot × Defect) :
    w ∈ sectionFindings entries s ↔ WrongIn s entries w.1 w.2 := by
  unfold sectionFindings
  constructor
  · intro here
    split at here
    · cases here
    · cases here
    next inner there =>
      obtain ⟨⟨name, defect⟩, wrong, rfl⟩ := List.mem_map.mp here
      rcases List.mem_append.mp wrong with wrong | wrong
      · exact .key there ((mem_keyFindings_iff ..).mp wrong)
      · obtain ⟨f, mem, value, isThere, rejected, rfl⟩ := (mem_valueFindings_iff ..).mp wrong
        exact .value there mem isThere rejected
    next d stated other there =>
      obtain rfl := List.mem_singleton.mp here
      exact .notObject there stated other
  · intro wrong
    obtain ⟨spot, defect⟩ := w
    cases wrong with
    | @notObject value there stated other =>
        rw [there]
        cases value with
        | null => exact absurd rfl stated
        | mapping inner => exact absurd rfl (other inner)
        | _ => exact List.mem_singleton_self _
    | @key inner name _ there wrong =>
        rw [there]
        exact List.mem_map.mpr ⟨(name, defect), List.mem_append_left _ ((mem_keyFindings_iff ..).mpr wrong), rfl⟩
    | @value inner f value _ there mem isThere rejected =>
        rw [there]
        exact List.mem_map.mpr ⟨(f.1, defect), List.mem_append_right _
          ((mem_valueFindings_iff ..).mpr ⟨f, mem, value, isThere, rejected, rfl⟩), rfl⟩

/-- **Everything that is wrong is found, and nothing else.** What is wrong at a place is said
without the passes that look for it. -/
theorem mem_found_iff (d : Datum) (w : Spot × Defect) : w ∈ found d ↔ Wrong d w.1 w.2 := by
  obtain ⟨spot, defect⟩ := w
  by_cases isMapping : ∃ entries, d = .mapping entries
  · obtain ⟨entries, rfl⟩ := isMapping
    simp only [found, List.mem_append, List.mem_map, List.mem_flatMap, mem_sectionFindings_iff,
      mem_keyFindings_iff]
    constructor
    · rintro (⟨⟨key, defect'⟩, wrong, same⟩ | ⟨s, mem, wrong⟩)
      · obtain ⟨rfl, rfl⟩ := Prod.mk.inj same
        exact .part rfl wrong
      · exact .inside rfl mem wrong
    · intro wrong
      cases wrong with
      | whole other => exact absurd rfl (other entries)
      | @part _ key _ is wrong =>
          obtain rfl := Datum.mapping.inj is
          exact .inl ⟨(key, defect), wrong, rfl⟩
      | @inside _ s _ _ is mem wrong =>
          obtain rfl := Datum.mapping.inj is
          exact .inr ⟨s, mem, wrong⟩
  · have other : ∀ entries, d ≠ .mapping entries := not_exists.mp isMapping
    have single : found d = [(.whole, .notObject d.typeName)] := by
      cases d with
      | mapping entries => exact absurd rfl (other entries)
      | _ => rfl
    rw [single, List.mem_singleton]
    constructor
    · intro same
      obtain ⟨rfl, rfl⟩ := Prod.mk.inj same
      exact .whole other
    · intro wrong
      cases wrong with
      | whole _ => rfl
      | part is _ => exact absurd is (other _)
      | inside is _ _ => exact absurd is (other _)

/-! ## The order of what is found -/

theorem nodup_dedup (l : List String) : (dedup l).Nodup := by
  induction l with
  | nil => exact List.nodup_nil
  | cons a l ih => exact List.nodup_cons.mpr ⟨by simp, ih.filter _⟩

theorem pairwise_keyFindings (names : List String) (entries : List (Datum × Datum)) :
    (keyFindings names entries).Pairwise fun v w => v.1 < w.1 := by
  have kept {key : String} {w : String × Defect}
      (is : (if !names.contains key then some (key, Defect.unknownField)
        else if !(shownKeys entries).contains key then some (key, .missingField) else none) = some w) :
      w.1 = key := by
    split at is
    · exact Option.some.inj is ▸ rfl
    · split at is
      · exact Option.some.inj is ▸ rfl
      · cases is
  unfold keyFindings
  refine List.Pairwise.filterMap _ (fun key key' less v is w is' => ?_)
    (pairwise_lt_sortTexts (nodup_dedup (shownKeys entries ++ names)))
  rwa [kept is, kept is']

theorem pairwise_valueFindings {fields : List (String × FieldCheck)}
    (increasing : fields.Pairwise fun f f' => f.1 < f'.1) (inner : List (Datum × Datum)) :
    (valueFindings fields inner).Pairwise fun v w => v.1 < w.1 := by
  unfold valueFindings
  refine List.Pairwise.filterMap _ (fun f f' less v is w is' => ?_) increasing
  obtain ⟨d, -, is⟩ := Option.bind_eq_some_iff.mp is
  obtain ⟨d', -, is'⟩ := Option.bind_eq_some_iff.mp is'
  split at is
  · split at is'
    · obtain rfl := Option.some.inj is
      obtain rfl := Option.some.inj is'
      exact less
    · cases is'
  · cases is

/-- The names of the schema stand in order. -/
theorem increasing_schema :
    (schema.Pairwise fun s s' => s.1 < s'.1) ∧ ∀ s ∈ schema, s.2.Pairwise fun f f' => f.1 < f'.1 := by
  simp only [schema, List.pairwise_cons, List.forall_mem_cons]
  decide

/-- A key with which something is wrong is none of the expected ones that are there. -/
theorem KeyWrong.ne {names : List String} {entries : List (Datum × Datum)} {key name : String}
    {defect : Defect} {value : Datum} (wrong : KeyWrong names entries key defect) (known : name ∈ names)
    (there : lookup? name entries = some value) : key ≠ name := by
  rintro rfl
  rcases wrong with ⟨-, unknown, -⟩ | ⟨-, missing, -⟩
  · exact unknown known
  · exact missing (List.mem_map.mpr ⟨_, mem_of_lookup? there, rfl⟩)

/-- What is wrong within a section belongs to the section, which is there. -/
theorem WrongIn.of_section {s : SectionRule} {entries : List (Datum × Datum)} {spot : Spot}
    {defect : Defect} (wrong : WrongIn s entries spot defect) :
    spot.section_ = s.1 ∧ ∃ value, lookup? s.1 entries = some value := by
  cases wrong with
  | notObject there _ _ => exact ⟨rfl, _, there⟩
  | key there _ => exact ⟨rfl, _, there⟩
  | value there _ _ _ => exact ⟨rfl, _, there⟩

theorem pairwise_sectionFindings_iff {s : SectionRule} (increasing : s.2.Pairwise fun f f' => f.1 < f'.1)
    (entries : List (Datum × Datum)) :
    (sectionFindings entries s).Pairwise (fun v w => v.1.Before w.1) ↔
      ∀ inner, lookup? s.1 entries = some (.mapping inner) →
        ∀ key defect, KeyWrong (s.2.map Prod.fst) inner key defect →
          ∀ f ∈ s.2, ∀ value defect', lookup? f.1 inner = some value → f.2 value = .ok (.error defect') →
            key < f.1 := by
  unfold sectionFindings
  split
  next there => simp [there]
  next there => simp [there]
  next inner there =>
    rw [List.pairwise_map]
    simp only [Spot.before_field_iff, List.pairwise_append, pairwise_keyFindings,
      pairwise_valueFindings increasing inner, true_and, there, Option.some.injEq, Datum.mapping.injEq,
      forall_eq']
    constructor
    · intro apart key defect wrong f mem value defect' isThere rejected
      exact apart (key, defect) ((mem_keyFindings_iff ..).mpr wrong) (f.1, defect')
        ((mem_valueFindings_iff ..).mpr ⟨f, mem, value, isThere, rejected, rfl⟩)
    · rintro apart ⟨key, defect⟩ wrong ⟨name, defect'⟩ wrong'
      obtain ⟨f, mem, value, isThere, rejected, rfl⟩ := (mem_valueFindings_iff ..).mp wrong'
      exact apart key defect ((mem_keyFindings_iff ..).mp wrong) f mem value defect' isThere rejected
  next d stated other there =>
    refine iff_of_true (List.pairwise_singleton _ _) fun inner there' => ?_
    exact absurd (Option.some.inj (there.symm.trans there')) (other inner)

/-- What is found is in order exactly if nothing is late. -/
theorem pairwise_found_iff (entries : List (Datum × Datum)) :
    (found (.mapping entries)).Pairwise (fun v w => v.1.Before w.1) ↔ NoneLate entries := by
  have keys : ((keyFindings (schema.map Prod.fst) entries).map fun w => (Spot.part w.1, w.2)).Pairwise
      fun v w => v.1.Before w.1 :=
    List.pairwise_map.mpr ((pairwise_keyFindings _ entries).imp fun less => .inl less)
  have sections : schema.Pairwise fun s s' => ∀ v ∈ sectionFindings entries s,
      ∀ w ∈ sectionFindings entries s', v.1.Before w.1 := by
    refine increasing_schema.1.imp fun less v here w there => .inl ?_
    rw [((mem_sectionFindings_iff ..).mp here).of_section.1,
      ((mem_sectionFindings_iff ..).mp there).of_section.1]
    exact less
  unfold found
  simp only [List.pairwise_append, keys, List.pairwise_flatMap, sections, true_and, and_true]
  constructor
  · rintro ⟨each, apart⟩
    refine ⟨fun key defect wrong s mem spot defect' wrongIn => ?_, fun s mem => ?_⟩
    · obtain ⟨belongs, value, there⟩ := wrongIn.of_section
      have before := apart _ (List.mem_map.mpr ⟨(key, defect), (mem_keyFindings_iff ..).mpr wrong, rfl⟩)
        (spot, defect') (List.mem_flatMap.mpr ⟨s, mem, (mem_sectionFindings_iff ..).mpr wrongIn⟩)
      rcases before with less | ⟨same, -⟩
      · exact belongs ▸ less
      · exact absurd (same.trans belongs) (wrong.ne (List.mem_map_of_mem mem) there)
    · exact (pairwise_sectionFindings_iff (increasing_schema.2 s mem) entries).mp (each s mem)
  · intro noneLate
    refine ⟨fun s mem => ?_, ?_⟩
    · exact (pairwise_sectionFindings_iff (increasing_schema.2 s mem) entries).mpr (noneLate.fields s mem)
    · intro v here w there
      obtain ⟨⟨key, defect⟩, wrong, rfl⟩ := List.mem_map.mp here
      obtain ⟨s, mem, there⟩ := List.mem_flatMap.mp there
      have wrongIn := (mem_sectionFindings_iff ..).mp there
      refine .inl ?_
      rw [wrongIn.of_section.1]
      exact noneLate.sections key defect ((mem_keyFindings_iff ..).mp wrong) s mem w.1 w.2 wrongIn

/-- No place is found twice. -/
theorem nodup_found (d : Datum) : ((found d).map Prod.fst).Nodup := by
  cases d with
  | mapping entries =>
      have distinct {l : List (String × Defect)} (increasing : l.Pairwise fun v w => v.1 < w.1) :
          l.Pairwise fun v w => v.1 ≠ w.1 :=
        increasing.imp fun less => String.ne_of_lt less
      have each : ∀ s ∈ schema, (sectionFindings entries s).Pairwise fun v w => v.1 ≠ w.1 := by
        intro s mem
        unfold sectionFindings
        split
        · exact List.Pairwise.nil
        · exact List.Pairwise.nil
        next inner there =>
          rw [List.pairwise_map]
          simp only [ne_eq, Spot.field.injEq, true_and]
          refine List.pairwise_append.mpr ⟨distinct (pairwise_keyFindings _ inner),
            distinct (pairwise_valueFindings (increasing_schema.2 s mem) inner), fun v here w there => ?_⟩
          obtain ⟨f, isField, value, isThere, -, same⟩ := (mem_valueFindings_iff ..).mp there
          exact same ▸ ((mem_keyFindings_iff ..).mp here).ne (List.mem_map_of_mem isField) isThere
        · exact List.pairwise_singleton _ _
      unfold found List.Nodup
      rw [List.pairwise_map, List.pairwise_append, List.pairwise_flatMap]
      refine ⟨?_, ⟨each, increasing_schema.1.imp fun less v here w there same => ?_⟩, ?_⟩
      · rw [List.pairwise_map]
        exact (distinct (pairwise_keyFindings _ entries)).imp fun ne same => ne (Spot.part.inj same)
      · have sections := congrArg Spot.section_ same
        rw [((mem_sectionFindings_iff ..).mp here).of_section.1,
          ((mem_sectionFindings_iff ..).mp there).of_section.1] at sections
        exact String.ne_of_lt less sections
      · intro v here w there same
        obtain ⟨⟨key, defect⟩, wrong, rfl⟩ := List.mem_map.mp here
        obtain ⟨s, mem, there⟩ := List.mem_flatMap.mp there
        obtain ⟨belongs, value, isThere⟩ := ((mem_sectionFindings_iff ..).mp there).of_section
        exact ((mem_keyFindings_iff ..).mp wrong).ne (List.mem_map_of_mem mem) isThere
          ((congrArg Spot.section_ same).trans belongs)
  | _ => exact List.nodup_singleton _

/-! ## Paths -/

/-- Sections of the schema have no dot in their names. -/
theorem dot_notMem_schema : ∀ s ∈ schema, '.' ∉ s.1.toList := by
  simp only [schema, List.forall_mem_cons]
  decide

/-- Within the schema the path tells the section. -/
theorem WrongIn.takeWhile_path {s : SectionRule} {entries : List (Datum × Datum)} {spot : Spot}
    {defect : Defect} (wrong : WrongIn s entries spot defect) (mem : s ∈ schema) :
    spot.path.toList.takeWhile (· != '.') = s.1.toList := by
  have plain : ∀ c ∈ s.1.toList, (c != '.') = true := by
    intro c here
    simp only [bne_iff_ne]
    rintro rfl
    exact dot_notMem_schema s mem here
  have ofField (name : String) : (Spot.field s.1 name).path.toList.takeWhile (· != '.') = s.1.toList := by
    simp [Spot.path, String.toList_append, List.takeWhile_append_of_pos plain]
  cases wrong with
  | notObject _ _ _ => exact List.takeWhile_eq_self_iff.mpr plain
  | key _ _ => exact ofField _
  | value _ _ _ _ => exact ofField _

theorem Spot.path_ne_of_before_part {key : String} {spot : Spot} (before : (part key).Before spot) :
    key ≠ spot.path := by
  rcases before with less | ⟨-, less⟩
  · rintro rfl
    exact String.not_lt.mpr spot.section_le_path less
  · exact String.ne_of_lt less

/-- Places that are found in order have different paths. -/
theorem nodup_paths {entries : List (Datum × Datum)}
    (ordered : (found (.mapping entries)).Pairwise fun v w => v.1.Before w.1) :
    (((found (.mapping entries)).map report).map Issue.path).Nodup := by
  unfold found at ordered
  obtain ⟨keys, sections, apart⟩ := List.pairwise_append.mp ordered
  rw [List.map_map]
  unfold found List.Nodup
  rw [List.pairwise_map]
  refine List.pairwise_append.mpr ⟨?_, ?_, ?_⟩
  · refine keys.imp_of_mem fun here _ before => ?_
    obtain ⟨w, -, rfl⟩ := List.mem_map.mp here
    exact Spot.path_ne_of_before_part before
  · refine sections.imp_of_mem fun {v w} here there before same => ?_
    obtain ⟨s, mem, here⟩ := List.mem_flatMap.mp here
    obtain ⟨s', mem', there⟩ := List.mem_flatMap.mp there
    have wrong := (mem_sectionFindings_iff ..).mp here
    have wrong' := (mem_sectionFindings_iff ..).mp there
    have paths : v.1.path = w.1.path := same
    have names : s.1 = s'.1 := by
      refine String.toList_injective ?_
      rw [← wrong.takeWhile_path mem, ← wrong'.takeWhile_path mem', paths]
    rcases before with less | ⟨-, less⟩
    · rw [wrong.of_section.1, wrong'.of_section.1, names] at less
      exact String.lt_irrefl _ less
    · exact String.lt_irrefl _ (paths ▸ less)
  · intro v here w there
    have before := apart v here w there
    obtain ⟨u, -, rfl⟩ := List.mem_map.mp here
    exact Spot.path_ne_of_before_part before

/-! ## When the issues are in order -/

/-- **When the issues are in order.**  What is reported is what is wrong, each place once, and a value with
which something is wrong is rejected with it, if it can be written down; otherwise nothing is reported.  It is
ordered by section and then by path, with no path twice, exactly if no unknown or missing section comes behind a
section with something wrong in it, and within no section an unknown or missing field comes behind one whose
value is not accepted. -/
theorem inOrder_iff (d : Datum) :
    (Legible d → issues d = .ok ((found d).map report)) ∧
      (¬ Legible d → issues d = .error .unwritable ∧ validate d = .error .unwritable) ∧
      (∀ spot defect, (spot, defect) ∈ found d ↔ Wrong d spot defect) ∧
      ((found d).map Prod.fst).Nodup ∧
      (Legible d → found d ≠ [] → validate d = .ok (.error ((found d).map report))) ∧
      (InOrder d ↔ ∀ entries, d = .mapping entries → NoneLate entries) := by
  refine ⟨(gives_issues d).ok, fun lacks => ⟨(gives_issues d).fails lacks, (gives_validate d).fails lacks⟩,
    fun spot defect => mem_found_iff d (spot, defect), nodup_found d, validate_of_found, ?_⟩
  cases d with
  | mapping entries =>
      simp only [Datum.mapping.injEq, forall_eq']
      constructor
      · rintro ⟨ordered, -⟩
        exact (pairwise_found_iff entries).mp ordered
      · intro noneLate
        have ordered := (pairwise_found_iff entries).mpr noneLate
        exact ⟨ordered, nodup_paths ordered⟩
  | _ => exact iff_of_true ⟨List.pairwise_singleton _ _, List.nodup_singleton _⟩ fun _ is => by cases is

/-- A configuration with a section that is unknown and a value that is not accepted. -/
def strayConfig : Datum :=
  .object [("meta", .object [("schema_version", .int 0)]),
    ("observability", .object [("log_format", .text "json"), ("log_level", .text "info")]),
    ("paths", .object [("receipts_dir", .text "r"), ("runs_dir", .text "u"), ("verification_dir", .text "v")]),
    ("verification", .object [("command_timeout_ms", .int 1), ("http_timeout_ms", .int 1),
      ("max_concurrency", .int 1), ("max_output_chars", .int 1)]),
    ("zone", .int 1)]

/-- The section that is unknown is reported first, although it comes after the other one. -/
theorem not_inOrder_strayConfig :
    issues strayConfig = .ok [⟨"zone", .unknownField⟩, ⟨"meta.schema_version", .notPositive⟩] ∧
      ¬ InOrder strayConfig := by
  have isFound : found strayConfig =
      [(.part "zone", .unknownField), (.field "meta" "schema_version", .notPositive)] := by
    decide +kernel
  refine ⟨by decide +kernel, ?_⟩
  rintro ⟨ordered, -⟩
  rw [isFound, List.pairwise_pair] at ordered
  rcases ordered with less | ⟨same, -⟩
  · exact absurd less (by decide)
  · exact absurd same (by decide)

end IntentSpec.Config
