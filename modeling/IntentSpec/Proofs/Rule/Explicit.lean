import IntentSpec.Proofs.Document.Artifacts
import IntentSpec.Proofs.Rule.Finding
import IntentSpec.Proofs.Text.Lines

/-!
# Explicit associations and sections that open again

A document associates an intent explicitly if a line in one of its sections of intents names validations
and the line that begins an intent nearest before it, in the same section, begins that intent.  V-M1 looks
for such a line in the text of the section of intents.  A section that opens again starts its text anew,
while the intents of the earlier section stay declared: what is looked through is the last section of
intents only.  So an association is heeded exactly if the last section has it as well.

What a document declares is said by its segments, which do not forget the earlier sections.  The lines of a
segment and the lines that the rule looks at are cut by different rules, as the rule also cuts at line
boundaries inside a line.  Where all boundaries are line feeds, with or without a carriage return, both are
the same, and this is asked for here; what becomes of other boundaries is a question about comments and is
answered apart.

* `Declares` — a document associates an intent explicitly.
* `Heeded` — V-M1 goes by what the document says about an intent.
* `heeded_iff` — when it does.
-/

namespace IntentSpec.Rule

open Document Report Text
open Predicate (row)

/-- The sections of intents of a document, each with its lines as the parse reads them. -/
def intentSections (text : String) : List (List (List Char)) :=
  ((segments (lines text.toList)).filter (·.kind = .intents)).map fun segment => segment.lines.map row

/-- The document associates the intent explicitly, in one of its sections. -/
def Declares (text id : String) : Prop :=
  ∃ block ∈ intentSections text, Association.Associates id block

/-- The last section of intents associates the intent explicitly. -/
def DeclaresLast (text id : String) : Prop :=
  ∃ block ∈ (intentSections text).getLast?, Association.Associates id block

/-- A finding reports that the intent cannot be verified. -/
def Reports (f : Finding) (id : String) : Prop :=
  ∃ v ∈ f.violations, v.code = intentNotVerifiable ∧
    referenceText? "intent" v = some (reference "intents" id)

/-- V-M1 takes an intent for explicitly associated exactly if the document associates it, and does not
report it then. -/
structure Heeded (text id : String) : Prop where
  /-- What is found is what the document says. -/
  explicit_iff : explicit (Spec.parse text) id = true ↔ Declares text id
  /-- An intent that the document associates is not reported. -/
  unreported : Declares text id →
    ∃ f, intentVerifiability (Spec.parse text) = .ok f ∧ ¬ Reports f id

/-! ## The lines that are looked through -/

/-- The lines of the last section of intents. -/
def lastIntents (text : String) : List (List Char) :=
  (((segments (lines text.toList)).filter (·.kind = .intents)).getLast?.map Segment.lines).getD []

/-- The text that V-M1 looks through is that of the last section. -/
theorem sectionText_intents (text : String) :
    (Spec.parse text).sectionText "intents" = joined (lastIntents text) := by
  rw [show "intents" = SectionKind.intents.name from rfl, Spec.sectionText, sections_parse,
    find?_readSegments, Option.map_map, lastIntents]
  cases ((segments (lines text.toList)).filter (·.kind = .intents)).getLast? <;> rfl

/-- The lines that are looked through are those of the last section of intents, as the parse reads
them. -/
theorem intentLines_parse {text : String} (feeds : BrokenAtFeeds text.toList) :
    intentLines (Spec.parse text) = (intentSections text).getLast?.getD [] := by
  unfold intentLines intentSections
  rw [sectionText_intents, lastIntents, List.getLast?_map]
  cases last : ((segments (lines text.toList)).filter (·.kind = .intents)).getLast? with
  | none => rfl
  | some segment =>
      have inside : segment ∈ segments (lines text.toList) :=
        (List.mem_filter.mp (List.mem_of_getLast? last)).1
      have unbroken : ∀ line ∈ segment.lines, Unbroken line := fun line here =>
        unbroken_of_mem_lines feeds line ((sublist_of_mem_segments inside).subset here)
      simp only [Option.map_some, Option.getD_some, joined, String.toList_ofList,
        paragraphs_flatMap unbroken]
      rfl

theorem not_associates_nil (id : String) : ¬ Association.Associates id [] := by
  rintro ⟨before, first, rest, split, -⟩
  simp at split

/-- **V-M1 finds the associations of the last section of intents**, as the text of the section is
that of its last segment. -/
theorem explicit_parse_iff {text : String} (feeds : BrokenAtFeeds text.toList) (id : String) :
    explicit (Spec.parse text) id = true ↔ DeclaresLast text id := by
  have found : explicit (Spec.parse text) id = true ↔
      Association.Associates id (intentLines (Spec.parse text)) := Association.explicit_iff _ id
  rw [found, intentLines_parse feeds, DeclaresLast]
  cases (intentSections text).getLast? with
  | none => simpa using not_associates_nil id
  | some block => simp

theorem DeclaresLast.declares {text id : String} (last : DeclaresLast text id) :
    Declares text id := by
  obtain ⟨block, here, associates⟩ := last
  exact ⟨block, List.mem_of_getLast? here, associates⟩

theorem Declares.last {text id : String} (declares : Declares text id)
    (single : (intentSections text).length ≤ 1) : DeclaresLast text id := by
  obtain ⟨block, here, associates⟩ := declares
  have only : intentSections text = [block] := by
    obtain ⟨other, only⟩ := List.length_eq_one_iff.mp
      (Nat.le_antisymm single (List.length_pos_of_mem here))
    rw [only, List.mem_singleton] at here
    rw [only, here]
  exact ⟨block, by simp [only], associates⟩

/-- Whether the document associates the intent can be computed by walking over each section. -/
theorem declares_iff (text id : String) :
    Declares text id ↔ (intentSections text).any (Association.inLines id false) = true := by
  simp [Declares, Association.inLines_iff]

instance (text id : String) : Decidable (Declares text id) :=
  decidable_of_iff' _ (declares_iff text id)

/-! ## The intents that are reported -/

theorem reference_injective (kind : String) : Function.Injective (reference kind) :=
  fun _ _ same => (String.append_right_inj (kind ++ ".")).mp same

/-- Intents that are declared and not associated are reported, and no others. -/
theorem reports_iff {spec : Spec} {f : Finding} (returned : intentVerifiability spec = .ok f)
    (id : String) : Reports f id ↔ id ∈ spec.intents.names ∧ ¬ Associated spec id := by
  obtain ⟨f', returned', answer, -⟩ := intentVerifiability_answer spec
  obtain rfl : f = f' := Except.ok.inj (returned.symm.trans returned')
  have referred : ∀ i, referenceText? "intent" (notVerifiable i) = some (reference "intents" i.id) :=
    fun _ => rfl
  unfold Reports
  rw [answer.adds, unassociated_eq]
  constructor
  · rintro ⟨v, here, -, shown⟩
    obtain ⟨i, among, rfl⟩ := List.mem_map.mp here
    obtain ⟨declared, alone⟩ := List.mem_filter.mp among
    obtain rfl := reference_injective _ (Option.some.inj ((referred i).symm.trans shown))
    exact ⟨List.mem_map.mpr ⟨i, declared, rfl⟩, of_decide_eq_true alone⟩
  · rintro ⟨declared, alone⟩
    obtain ⟨i, here, rfl⟩ := List.mem_map.mp declared
    exact ⟨notVerifiable i, List.mem_map.mpr ⟨i, List.mem_filter.mpr ⟨here, decide_eq_true alone⟩, rfl⟩,
      rfl, referred i⟩

/-- What a document says about an intent is heeded if the last section says it. -/
theorem Heeded.of_last {text id : String} (feeds : BrokenAtFeeds text.toList)
    (last : Declares text id → DeclaresLast text id) : Heeded text id := by
  have found := explicit_parse_iff feeds id
  refine ⟨⟨fun h => (found.mp h).declares, fun h => found.mpr (last h)⟩, fun declares => ?_⟩
  have associated : Associated (Spec.parse text) id :=
    (explicit_or_implied_iff ..).mp (by simp [found.mpr (last declares)])
  obtain ⟨f, returned, -, -⟩ := intentVerifiability_answer (Spec.parse text)
  exact ⟨f, returned, fun reports => ((reports_iff returned id).mp reports).2 associated⟩

/-- **What a document says about an intent is heeded exactly if its last section of intents says it.**
In particular it is heeded in a document with one section of intents. -/
theorem heeded_iff (text : String) (feeds : BrokenAtFeeds text.toList) (id : String) :
    (Heeded text id ↔ (Declares text id → DeclaresLast text id)) ∧
      ((intentSections text).length ≤ 1 → Heeded text id) := by
  refine ⟨⟨fun heeded declares => ?_, Heeded.of_last feeds⟩, fun single => ?_⟩
  · exact (explicit_parse_iff feeds id).mp (heeded.explicit_iff.mpr declares)
  · exact .of_last feeds fun declares => declares.last single

/-- A document with two sections of intents.  Each has an intent that it associates. -/
def reopenedIntents : String :=
  "DIL:spec v0\n" ++
  "system \"S\" \x7b\n" ++
  "intents \x7b\n" ++
  "intent I1 \x7b\n" ++
  "validations: [V1]\n" ++
  "\x7d\n" ++
  "\x7d\n" ++
  "intents \x7b\n" ++
  "intent I2 \x7b\n" ++
  "validations: [V1]\n" ++
  "\x7d\n" ++
  "\x7d\n" ++
  "\x7d\n"

/-- The intent of the second section is heeded. -/
theorem heeded_iff_reopenedIntents :
    BrokenAtFeeds reopenedIntents.toList ∧ Declares reopenedIntents "I2" ∧
      Heeded reopenedIntents "I2" := by
  have feeds : BrokenAtFeeds reopenedIntents.toList := by
    decide +kernel
  have last : explicit (Spec.parse reopenedIntents) "I2" = true := by
    decide +kernel
  have declaresLast := (explicit_parse_iff feeds "I2").mp last
  exact ⟨feeds, declaresLast.declares,
    (heeded_iff reopenedIntents feeds "I2").1.mpr fun _ => declaresLast⟩

/-- The intent of the first section is declared and the document associates it, and yet it is not found
and is reported. -/
theorem not_heeded_reopenedIntents :
    BrokenAtFeeds reopenedIntents.toList ∧
      "I1" ∈ (Spec.parse reopenedIntents).intents.names ∧ Declares reopenedIntents "I1" ∧
      ¬ Heeded reopenedIntents "I1" ∧
      ∃ f, intentVerifiability (Spec.parse reopenedIntents) = .ok f ∧ Reports f "I1" := by
  have declared : "I1" ∈ (Spec.parse reopenedIntents).intents.names := by
    decide +kernel
  have declares : Declares reopenedIntents "I1" := by
    decide +kernel
  have alone : ¬ Associated (Spec.parse reopenedIntents) "I1" := by
    decide +kernel
  obtain ⟨f, returned, -, -⟩ := intentVerifiability_answer (Spec.parse reopenedIntents)
  have reports : Reports f "I1" := (reports_iff returned "I1").mpr ⟨declared, alone⟩
  refine ⟨by decide +kernel, declared, declares, fun heeded => ?_, f, returned, reports⟩
  obtain ⟨f', returned', quiet⟩ := heeded.unreported declares
  obtain rfl : f = f' := Except.ok.inj (returned.symm.trans returned')
  exact quiet reports

end IntentSpec.Rule
