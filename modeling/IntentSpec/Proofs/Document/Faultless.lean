import IntentSpec.Proofs.Predicate.Declared

/-!
# Well-formed documents are read in full

A document that is laid out after an outline, with any indentation and any blank lines and comments,
is parsed into what the outline declares and into nothing else (`parse_outline`).

The statement is about layouts and not about one way of printing an outline: `Spaced` only asks that
the lines show the rows of the outline in their order, with anything in between that shows nothing.  So
a comment may hold what looks like a declaration or a brace, and the parse still has nothing to say
about it.

Two passes read the document, and they count braces on their own: the parse, and the extraction of
predicates.  `Outline.Describes` asks both for the outline, since a check is planned from what the
second one finds under the identifiers that the first one declares.

* `sections_of_rows` — each section is there once, so its text is that of its one segment.
* `Outline.Describes` — a specification is what the outline declares.
* `parse_outline` — the parse of a document is described by its outline.

The outline `bookshop` has a section of each kind, and `bookshopText` lays it out with comments that
look like declarations.
-/

namespace IntentSpec.Document

open Text

/-! ## Sections -/

theorem entries_foldl_sections {ss : List Segment} {spec : Spec}
    (distinct : (spec.sections.names ++ ss.map (·.kind.name)).Nodup) :
    (ss.foldl Spec.readSegment spec).sections.entries = spec.sections.entries ++
      ss.map fun segment => ⟨segment.kind.name, joined segment.lines⟩ := by
  induction ss generalizing spec with
  | nil => exact (List.append_nil _).symm
  | cons segment ss ih =>
      have new : segment.kind.name ∉ spec.sections.names := notMem_of_nodup_append distinct
      have added : (spec.readSegment segment).sections.entries =
          spec.sections.entries ++ [⟨segment.kind.name, joined segment.lines⟩] := by
        rw [readSegment_sections]
        exact Table.entries_put_of_notMem new
      have distinct' :
          ((spec.readSegment segment).sections.names ++ ss.map (·.kind.name)).Nodup := by
        unfold Table.names
        rw [added, List.map_append, List.append_assoc]
        exact distinct
      rw [List.foldl_cons, ih distinct', added, List.map_cons, ← List.append_cons]

theorem sections_of_rows {outline : Outline} {ls : List (List Char)}
    (shown : rows ls = outline.rows) :
    (readSegments (segments ls)).sections.entries =
      (segments ls).map fun segment => ⟨segment.kind.name, joined segment.lines⟩ := by
  have kinds : ∀ {ss : List Segment} {parts : List Part}, List.Forall₂ Segment.Holds ss parts →
      ss.map (·.kind.name) = (parts.map (·.kind)).map SectionKind.name := by
    intro ss parts holds
    induction holds with
    | nil => rfl
    | cons here holds ih => rw [List.map_cons, ih, here.kind, List.map_cons, List.map_cons]
  refine (entries_foldl_sections ?_).trans (List.nil_append _)
  show ((segments ls).map (·.kind.name)).Nodup
  rw [kinds (segments_of_rows shown)]
  exact List.Pairwise.map SectionKind.name
    (fun _ _ other same => other (SectionKind.name_injective same)) outline.once

/-! ## The whole document -/

/-- A specification is what an outline declares, read from the document `text`. Every field of the
specification occurs, so a document that is described in this way has nothing besides its outline.
-/
structure Outline.Describes (outline : Outline) (text : String) (spec : Spec) : Prop where
  whole : spec.text = text
  /-- The version is that of the first row. -/
  version : spec.version = "DIL:spec v0"
  /-- The name of the system is taken without the blanks at its ends. -/
  system : spec.system = String.ofList (trim outline.name.text.toList)
  /-- There is no problem of structure. -/
  issues : spec.issues = []
  capabilities : spec.capabilities = ((outline.blocks .capabilities).map (·.id)).eraseDups
  intents : spec.intents.entries = (outline.blocks .intents).map fun b => ⟨b.id⟩
  constraints : spec.constraints.entries = (outline.blocks .constraints).map Block.constraint
  decisions : spec.decisions.entries = (outline.blocks .decisions).map Block.decision
  /-- The validations with the capabilities that they require. -/
  validations : spec.validations.entries = (outline.blocks .validations).map Block.validation
  /-- The segments of the document are the sections of the outline. -/
  parts : List.Forall₂ Segment.Holds (segments (lines text.toList)) outline.parts
  /-- The text of a section consists of the lines of its segment. -/
  sections : spec.sections.entries = (segments (lines text.toList)).map fun segment =>
    ⟨segment.kind.name, joined segment.lines⟩
  /-- The predicates, which are collected in a pass of their own. -/
  predicates : Predicate.extract text = outline.predicates

/-- **A document that is laid out after an outline is read in full.** Indentation, blank lines and
comments make no difference: the version, the system, every table with its entries in their order,
the text of every section and the predicates are those of the outline, and no issue is raised. -/
theorem parse_outline (outline : Outline) (text : String)
    (laid : Spaced outline.rows (lines text.toList)) :
    outline.Describes text (Spec.parse text) := by
  have shown := (spaced_iff outline.solid_rows _).mp laid
  have blocks : ∀ {α : Type} (kind : SectionKind) {f g : Document.Block → α},
      (∀ b, b.Fits kind → f b = g b) → (outline.blocks kind).map f = (outline.blocks kind).map g :=
    fun kind f g same => List.map_congr_left fun b here => same b (fits_of_mem_blocks here)
  rw [parse_of_rows shown]
  constructor
  case intents =>
    refine (intentReading.entries_of_rows shown rfl (by decide)).trans (blocks .intents ?_)
    exact fun b _ => entry_intents b
  case constraints =>
    refine (constraintReading.entries_of_rows shown rfl (by decide)).trans (blocks .constraints ?_)
    exact fun b fits => entry_constraints fits
  case decisions =>
    refine (decisionReading.entries_of_rows shown rfl (by decide)).trans (blocks .decisions ?_)
    exact fun b fits => entry_decisions fits
  case validations =>
    refine (validationReading.entries_of_rows shown rfl (by decide)).trans (blocks .validations ?_)
    exact fun b fits => entry_validations fits
  case capabilities => exact capabilities_of_rows shown
  case parts => exact segments_of_rows shown
  case sections => exact sections_of_rows shown
  case predicates => exact Predicate.extract_of_rows shown
  all_goals rfl

/-! ## A document -/

/-- A system with one section of each kind. -/
def bookshop : Outline where
  name := ⟨" Book shop ", by decide, by decide⟩
  parts :=
    [ { kind := .constraints
        blocks := [{ id := "C1", attributes := [.severity ⟨"HIGH", by decide⟩] }, { id := "C2" }]
        declares := by decide, fits := by decide, distinct := by decide },
      { kind := .capabilities
        blocks := [{ id := "check_http_status" }, { id := "emit_structured_report" }]
        declares := by decide, fits := by decide, distinct := by decide },
      { kind := .validations
        blocks :=
          [{ id := "V-1"
             attributes :=
              [.predicate ⟨"check_http_status url=/books", by decide, by decide⟩,
                .requires ⟨"check_http_status", by decide, by decide⟩ (by decide)] }]
        declares := by decide, fits := by decide, distinct := by decide },
      { kind := .intents
        blocks := [{ id := "I1" }]
        declares := by decide, fits := by decide, distinct := by decide },
      { kind := .decisions
        blocks :=
          [{ id := "D1"
             attributes := [.respects [⟨"C1", by decide⟩, ⟨"C2", by decide⟩],
               .supports [⟨"I1", by decide⟩]] }]
        declares := by decide, fits := by decide, distinct := by decide } ]
  named := by decide
  known := by decide
  once := by decide

/-- The system as a document, with comments that look like declarations. -/
def bookshopText : String :=
  "# system \"Draft\" \x7b\n" ++
  "DIL:spec v0\n" ++
  "\n" ++
  "  system \" Book shop \" \x7b  # intents \x7b\n" ++
  "  constraints \x7b\n" ++
  "    constraint C1 \x7b # \x7d\n" ++
  "      severity: HIGH\n" ++
  "    \x7d\n" ++
  "    constraint C2 \x7b\n" ++
  "    # severity: LOW\n" ++
  "    \x7d\n" ++
  "  \x7d\n" ++
  "\tcapabilities \x7b\n" ++
  "check_http_status\n" ++
  "# \x7d \x7d\n" ++
  "\t\temit_structured_report\n" ++
  "\t\x7d\n" ++
  "  validations \x7b\n" ++
  "    validate V-1 \x7b\n" ++
  "      predicate: \"check_http_status url=/books\"\n" ++
  "      requires_capability: \"check_http_status\"\n" ++
  "    \x7d\n" ++
  "  \x7d\n" ++
  "  intents \x7b\n" ++
  "    intent I1 \x7b\n" ++
  "    \x7d\n" ++
  "  \x7d\n" ++
  "  decisions \x7b\n" ++
  "    decision D1 \x7b\n" ++
  "      respects: [C1, C2]\n" ++
  "      # supports: [I2]\n" ++
  "      supports: [I1]\n" ++
  "    \x7d\n" ++
  "  \x7d\n" ++
  "\x7d\n" ++
  "# validations \x7b\n"

theorem parse_bookshopText :
    Spaced bookshop.rows (lines bookshopText.toList) ∧
      bookshop.Describes bookshopText (Spec.parse bookshopText) ∧
      (Spec.parse bookshopText).decisions.entries =
        [{ id := "D1", supports := ["I1"], respects := ["C1", "C2"] }] := by
  have shown : rows (lines bookshopText.toList) = bookshop.rows := by
    unfold bookshopText
    simp only [String.toList_append]
    decide +kernel
  have laid : Spaced bookshop.rows (lines bookshopText.toList) :=
    (spaced_iff bookshop.solid_rows _).mpr shown
  have described := parse_outline bookshop bookshopText laid
  exact ⟨laid, described, described.decisions.trans (by decide)⟩

end IntentSpec.Document
