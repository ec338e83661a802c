import IntentSpec.Proofs.Document.Whole
import IntentSpec.Proofs.Rule.Joint

/-!
# Sections in another order

Whole sections of a document may refer to each other, and the signals of a prescribed implementation are
looked for across all of them.  Nevertheless their order makes no difference to the report.  What is read
from a section does not depend on the sections in front of it, and no signal runs from one section into
the next, because the name of a section begins with no letter that a signal goes on with.

References are resolved when everything has been read, so a decision may stand in front of the intent that it
supports.  The tables of the two documents are equal and not only rearranged, as each is filled by one
section.  The raw texts come in another order, but of these the rules look at one only, by its name.

That no two sections are of one kind cannot be left out: the later one would take the place of the earlier,
and its entries would stand behind the others.

* `found_assembled` — a document has the signals that its parts have.
* `validate_of_sectionText` — of the raw texts the rules look at the intents only.
* `validateText_reordered` — the report is the same.
-/

namespace IntentSpec

open Text Document Report Rule

/-! ## Signals in a document of whole sections -/

namespace Leak

/-- The name of no section begins with a blank, or as a signal may go on. -/
theorem initial_of_kind {kind : SectionKind} {d : Char} (initial : kind.name.toList.head? = some d) :
    isAsciiBlank d = false ∧ resumes d = false := by
  cases kind <;> (obtain rfl := Option.some.inj initial; decide)

/-- No signal runs into a section. -/
theorem fresh_section (s : WholeSection) (rest : List Char) : Fresh (s.text ++ rest) := by
  obtain ⟨before, behind, text, blank⟩ := s.exists_text
  obtain ⟨d, more, letters⟩ : ∃ d more, s.kind.name.toList = d :: more := by
    cases s.kind <;> exact ⟨_, _, rfl⟩
  obtain ⟨solid, other⟩ := initial_of_kind (by rw [letters]; rfl)
  rw [text, letters, List.append_assoc, List.cons_append, List.cons_append]
  exact fresh_of_blanks blank solid other

/-- No signal runs into the line that closes the system. -/
theorem fresh_remainder (back : Remainder) : Fresh back.text := by
  obtain ⟨before, behind, text, blank⟩ := back.exists_text
  rw [text]
  exact fresh_of_blanks blank (by decide) (by decide)

theorem fresh_sections (ss : List WholeSection) (back : Remainder) :
    Fresh (ss.flatMap (·.text) ++ back.text) := by
  cases ss with
  | nil => exact fresh_remainder back
  | cons s ss =>
      rw [List.flatMap_cons, List.append_assoc]
      exact fresh_section s _

theorem foundFrom_sections (ss : List WholeSection) (back : Remainder) :
    foundFrom false (ss.flatMap (·.text) ++ back.text) = true ↔
      (∃ s ∈ ss, foundFrom false s.text = true) ∨ foundFrom false back.text = true := by
  induction ss with
  | nil => simp
  | cons s ss ih =>
      rw [List.flatMap_cons, List.append_assoc, foundFrom_append s.ended (fresh_sections ss back), ih,
        List.exists_mem_cons_iff, or_assoc]

/-- **A document has the signals that its parts have**, since no signal runs across a joint. -/
theorem found_assembled (front : Preamble) (ss : List WholeSection) (back : Remainder) :
    found (assembled front ss back) = true ↔ foundFrom false front.text = true ∨
      (∃ s ∈ ss, foundFrom false s.text = true) ∨ foundFrom false back.text = true := by
  unfold found assembled
  rw [String.toList_ofList, foundFrom_append front.ended (fresh_sections ss back), foundFrom_sections]

theorem found_reordered (front : Preamble) (back : Remainder) {ss ss' : List WholeSection}
    (perm : ss.Perm ss') : found (assembled front ss' back) = found (assembled front ss back) := by
  rw [Bool.eq_iff_iff, found_assembled, found_assembled]
  simp only [perm.mem_iff]

end Leak

/-! ## The report -/

/-- Of the raw texts of the sections the rules look at that of the intents only. -/
theorem findings_of_sectionText {spec : Spec} {sections : Table Section}
    (same : { spec with sections }.sectionText "intents" = spec.sectionText "intents") :
    findings { spec with sections } = findings spec := by
  have missing : unassociated { spec with sections } = unassociated spec := by
    unfold unassociated explicit
    rw [same]
    rfl
  have verifiability : intentVerifiability { spec with sections } = intentVerifiability spec := by
    unfold intentVerifiability
    rw [missing]
    rfl
  simp only [findings, Rule.all, List.mapM_cons, List.mapM_nil, verifiability]
  rfl

theorem validate_of_sectionText {spec : Spec} {sections : Table Section}
    (same : { spec with sections }.sectionText "intents" = spec.sectionText "intents") :
    validate { spec with sections } = validate spec := by
  unfold validate
  rw [findings_of_sectionText same]

/-- **The order of the sections makes no difference to the report.**  A document that is made of a
preamble, whole sections of which no two are of one kind, and a remainder gets one report, in whichever
order the sections stand.  Of two sections of one kind the later would take the place of the earlier. -/
theorem validateText_reordered (front : Preamble) (back : Remainder) {ss ss' : List WholeSection}
    (distinct : (ss.map (·.kind)).Nodup) (perm : ss.Perm ss') :
    ∃ r, validateText (assembled front ss back) = .ok r ∧
      validateText (assembled front ss' back) = .ok r := by
  obtain ⟨r, validated⟩ := exists_report (Spec.parse (assembled front ss back))
  obtain ⟨sections, read, texts⟩ := parse_reordered front back distinct perm
  have intents : { Spec.parse (assembled front ss back) with sections }.sectionText "intents" =
      (Spec.parse (assembled front ss back)).sectionText "intents" :=
    congrArg (fun found => (found.map Section.text).getD "") (texts .intents)
  have signals : Leak.found (assembled front ss' back) =
      Leak.found { Spec.parse (assembled front ss back) with sections }.text := by
    rw [Leak.found_reordered front back perm]
    exact congrArg Leak.found (parse_text _).symm
  refine ⟨r, validated, ?_⟩
  unfold validateText
  rw [read]
  exact (validate_of_found signals).trans ((validate_of_sectionText intents).trans validated)

/-- The front of a document. -/
def plainFront : Preamble where
  text := "DIL:spec v0\nsystem \"S\" \x7b\n".toList
  ended := by decide
  plain := by decide +kernel
  opens := ⟨"system \"S\" \x7b".toList, by decide +kernel, by decide +kernel, by decide +kernel⟩

/-- A section that refers to another one, and with which the front of a bound begins. -/
def referringSection : WholeSection where
  kind := .decisions
  text := "decisions \x7b\ndecision D \x7b\nsupports: [I]\n\x7d\n\x7d O(\n".toList
  ended := by decide
  opens := by decide +kernel
  inside := by decide +kernel
  closes := by decide +kernel

/-- The section that is referred to, with the end of a bound in it. -/
def referredSection : WholeSection where
  kind := .intents
  text := "intents \x7b\nn )\nintent I \x7b\n\x7d\n\x7d\n".toList
  ended := by decide
  opens := by decide +kernel
  inside := by decide +kernel
  closes := by decide +kernel

/-- The rest of a document. -/
def plainRemainder : Remainder where
  text := " \x7d\n".toList
  brace := by decide +kernel
  closes := by decide +kernel

theorem validateText_reordered_referringSection :
    ([referringSection, referredSection].map (·.kind)).Nodup ∧
      [referringSection, referredSection].Perm [referredSection, referringSection] ∧
      ∃ r, validateText (assembled plainFront [referringSection, referredSection] plainRemainder) =
          .ok r ∧
        validateText (assembled plainFront [referredSection, referringSection] plainRemainder) =
          .ok r := by
  have distinct : ([referringSection, referredSection].map (·.kind)).Nodup := by
    decide
  have perm : [referringSection, referredSection].Perm [referredSection, referringSection] :=
    List.Perm.swap _ _ _
  exact ⟨distinct, perm, validateText_reordered plainFront plainRemainder distinct perm⟩

end IntentSpec
