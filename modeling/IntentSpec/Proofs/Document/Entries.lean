import IntentSpec.Proofs.Document.Reading

/-!
# Intents, constraints, decisions and validations

How the pass reads the four kinds of sections with blocks, and which entry a block declares there.
An attribute is read as what it was written for, and since no block has it twice it does not matter
that a later attribute would replace an earlier one (`foldl_once`).

The four kinds differ in what they keep track of: constraints amend the last constraint that was
declared, decisions and validations amend the one whose block is open, and intents have nothing to
amend.  A `Reading` is what they have in common, a heading that declares an entry and rows that change
the entry declared last; in a document with the rows of an outline the open block is the last one, so
all four are readings.

* `intentReading`, `constraintReading`, `decisionReading`, `validationReading` — the four readings.
* `entry_constraints`, `entry_decisions`, `entry_validations` — the entry of a block.
* `Reading.entries_of_rows` — the tables that are read from a document with the rows of an outline.
* `capabilities_of_rows` — capabilities have no blocks and are read row by row.
-/

namespace IntentSpec.Document

open Text
open Predicate (row)

/-! ## Attributes -/

theorem Attribute.solid_value (a : Attribute) : a.value.head?.any (!isAsciiBlank ·) = true := by
  cases a with
  | severity id =>
      obtain ⟨c, s, split⟩ := List.exists_cons_of_ne_nil (nonempty_of_name id.name)
      have visible := visible_of_isNameChar (isNameChar_of_mem id.name (split ▸ List.mem_cons_self))
      rw [Attribute.value, split]
      simpa using isAsciiBlank_of_visible visible
  | supports ids => rfl
  | respects ids => rfl
  | requires text _ => rfl
  | predicate text => rfl

theorem Attribute.labelled?_row (a : Attribute) : labelled? a.label a.row = some a.value :=
  labelled?_append a.label a.solid_value

theorem bracketList_chars (ids : List Identifier) :
    bracketList ('[' :: (listed (ids.map Identifier.chars) ++ [']'])) = ids.map (·.val) := by
  rw [bracketList_listed (names_chars ids), List.map_map]
  exact List.map_congr_left fun id _ => String.ofList_toList

theorem Attribute.severity?_row {a : Attribute} (here : a.kind = .constraints) :
    Document.severity? a.row = a.severity? := by
  cases a with
  | severity id =>
      have labelled := (Attribute.severity id).labelled?_row
      unfold Document.severity?
      rw [show "severity" = (Attribute.severity id).label from rfl, labelled]
      exact (wholeIdentifier?_of_name id.property).trans (congrArg some String.ofList_toList)
  | _ => cases here

theorem Attribute.refer_row {a : Attribute} (here : a.kind = .decisions) (d : Decision) :
    d.refer a.row =
      { d with
        supports := a.supports?.getD d.supports, respects := a.respects?.getD d.respects } := by
  cases a with
  | supports ids =>
      have labelled := (Attribute.supports ids).labelled?_row
      have other : labelled? "respects" (Attribute.supports ids).row = none :=
        show labelled? "respects" ("supports".toList ++ _) = none from rfl
      unfold Decision.refer
      rw [show "supports" = (Attribute.supports ids).label from rfl, labelled, other]
      exact congrArg (fun supports => { d with supports }) (bracketList_chars ids)
  | respects ids =>
      have labelled := (Attribute.respects ids).labelled?_row
      have other : labelled? "supports" (Attribute.respects ids).row = none :=
        show labelled? "supports" ("respects".toList ++ _) = none from rfl
      unfold Decision.refer
      rw [show "respects" = (Attribute.respects ids).label from rfl, labelled, other]
      exact congrArg (fun respects => { d with respects }) (bracketList_chars ids)
  | _ => cases here

theorem Attribute.require_row {a : Attribute} (here : a.kind = .validations) (v : Validation) :
    v.require a.row = { v with requires := a.requires?.elim v.requires some } := by
  cases a with
  | requires capability trimmed =>
      have labelled := (Attribute.requires capability trimmed).labelled?_row
      have quotes : '"' ∉ capability.text.toList := fun here => capability.plain _ here (by decide)
      have bare := quotedOrBare_quoted capability.nonempty quotes (trim_of_trimmed trimmed)
      rw [String.ofList_toList] at bare
      unfold Validation.require
      rw [show "requires_capability" = (Attribute.requires capability trimmed).label from rfl,
        labelled]
      exact congrArg (fun requires => { v with requires }) bare
  | predicate text => exact show v.require ("predicate".toList ++ _) = v from rfl
  | _ => cases here

/-- If only one of the attributes can matter, going through them is the same as looking for it. -/
theorem foldl_once {β γ : Type} {f : Attribute → Option β} {g : β → γ → γ} {step : γ → Attribute → γ}
    {label : String} (labelled : ∀ a b, f a = some b → a.label = label) {as : List Attribute}
    (reads : ∀ a ∈ as, ∀ c, step c a = (f a).elim c (g · c))
    (once : (as.map Attribute.label).Nodup) (c : γ) :
    as.foldl step c = (as.findSome? f).elim c (g · c) := by
  induction as generalizing c with
  | nil => rfl
  | cons a as ih =>
      obtain ⟨new, once⟩ := List.nodup_cons.mp once
      obtain ⟨here, reads⟩ := List.forall_mem_cons.mp reads
      rw [List.foldl_cons, ih reads once, List.findSome?_cons, here]
      cases found : f a with
      | none => rfl
      | some b =>
          -- an attribute that mattered too would have the same label
          have others : as.findSome? f = none := by
            refine List.findSome?_eq_none_iff.mpr fun a' here => ?_
            cases found' : f a' with
            | none => rfl
            | some b' =>
                have same := (labelled a' b' found').trans (labelled a b found).symm
                exact absurd (same ▸ List.mem_map_of_mem here) new
          rw [others]
          rfl

/-! ## The four readings -/

/-- The identifier behind the keyword of a block. -/
theorem heading?_of_admits {kind : SectionKind} (notValidations : kind ≠ .validations)
    (word : String) {id : String} (admits : kind.admits id.toList = true) :
    heading? word (word.toList ++ ' ' :: (id.toList ++ [' ', '\x7b'])) = some id := by
  have name : isIdentifier id.toList = true := by
    cases kind <;> first | exact admits | exact absurd rfl notValidations
  rw [heading?_append word name (by decide), String.ofList_toList]

/-- The last entry of a table, whatever was declared last. -/
def lastName {α : Type} [Named α] (t : Table α) : Option String :=
  t.entries.getLast?.map Named.name

theorem lastName_concat {α : Type} [Named α] (t : Table α) (front : List α) (a : α)
    (split : t.entries = front ++ [a]) : lastName t = some (Named.name a) := by
  rw [lastName, split, List.getLast?_concat]
  rfl

/-- The sections of intents. -/
def intentReading : Reading Intent where
  heading? := heading? "intent"
  make := Intent.mk
  note := fun _ i => i
  subject := fun _ t => lastName t
  named := fun _ => rfl
  keeps := fun _ _ => rfl
  current := lastName_concat
  kind := .intents
  word := "intent"
  keyword := rfl
  head := fun _ admits => heading?_of_admits (by decide) "intent" admits
  bare := fun _ _ => rfl
  inside := fun x here => by cases x <;> cases here
  silent := by
    intro r hr
    simp only [List.mem_cons, List.not_mem_nil, or_false] at hr
    rcases hr with rfl | rfl | rfl <;> exact ⟨rfl, fun _ => rfl⟩
  table := Spec.intents
  Follows := fun _ _ => True
  opened := fun _ => trivial
  reads := by
    rintro ⟨kind, floor, decision, validation⟩ spec r last rfl -
    exact ⟨(amend_of_idle (fun _ => rfl) (fun _ => rfl) _ _).symm, trivial⟩
  elsewhere := by
    rintro ⟨kind, floor, decision, validation⟩ spec r other
    cases kind <;> first | rfl | exact absurd rfl other
  apart := fun _ _ => rfl

/-- The severity that a row gives to a constraint. -/
def Constraint.note (r : List Char) (c : Constraint) : Constraint :=
  match severity? r with
  | some severity => c.grade severity
  | none => c

theorem Constraint.note_keeps (r : List Char) (c : Constraint) :
    Named.name (c.note r) = Named.name c := by
  unfold Constraint.note
  split <;> rfl

/-- A severity belongs to the last constraint. -/
theorem grade_eq_amend (r : List Char) (t : Table Constraint) :
    grade (severity? r) t =
      amend (Constraint.note r) (Constraint.note_keeps r) (lastName t) t := by
  unfold grade
  cases found : severity? r with
  | none =>
      have idle : ∀ c : Constraint, c.note r = c := fun c => by
        rw [Constraint.note, found]
      exact (amend_of_idle _ idle _ _).symm
  | some severity =>
      have same : Constraint.note r = Constraint.grade severity := by
        funext c
        rw [Constraint.note, found]
      simp only [same]
      rfl

/-- The sections of constraints. -/
def constraintReading : Reading Constraint where
  heading? := heading? "constraint"
  make := fun id => { id }
  note := Constraint.note
  subject := fun _ t => lastName t
  named := fun _ => rfl
  keeps := Constraint.note_keeps
  current := lastName_concat
  kind := .constraints
  word := "constraint"
  keyword := rfl
  head := fun _ admits => heading?_of_admits (by decide) "constraint" admits
  bare := fun _ _ => rfl
  inside := fun x here => by
    cases x with
    | severity id => exact show heading? "constraint" ("severity".toList ++ _) = none from rfl
    | _ => cases here
  silent := by
    intro r hr
    simp only [List.mem_cons, List.not_mem_nil, or_false] at hr
    rcases hr with rfl | rfl | rfl <;> exact ⟨rfl, fun _ => rfl⟩
  table := Spec.constraints
  Follows := fun _ _ => True
  opened := fun _ => trivial
  reads := by
    rintro ⟨kind, floor, decision, validation⟩ spec r last rfl -
    exact ⟨grade_eq_amend r _, trivial⟩
  elsewhere := by
    rintro ⟨kind, floor, decision, validation⟩ spec r other
    cases kind <;> first | rfl | exact absurd rfl other
  apart := fun _ _ => rfl

/-- The sections of decisions. -/
def decisionReading : Reading Decision where
  heading? := heading? "decision"
  make := fun id => { id }
  note := fun r d => d.refer r
  subject := fun last _ => last
  named := fun _ => rfl
  keeps := Decision.name_refer
  current := fun _ _ _ _ => rfl
  kind := .decisions
  word := "decision"
  keyword := rfl
  head := fun _ admits => heading?_of_admits (by decide) "decision" admits
  bare := fun _ _ => rfl
  inside := fun x here => by
    cases x with
    | supports ids => exact show heading? "decision" ("supports".toList ++ _) = none from rfl
    | respects ids => exact show heading? "decision" ("respects".toList ++ _) = none from rfl
    | _ => cases here
  silent := by
    intro r hr
    simp only [List.mem_cons, List.not_mem_nil, or_false] at hr
    rcases hr with rfl | rfl | rfl <;> exact ⟨rfl, fun _ => rfl⟩
  table := Spec.decisions
  Follows := fun entered last => entered.decision = last
  opened := fun _ => rfl
  reads := by
    rintro ⟨kind, floor, decision, validation⟩ spec r last rfl rfl
    exact ⟨rfl, rfl⟩
  elsewhere := by
    rintro ⟨kind, floor, decision, validation⟩ spec r other
    cases kind <;> first | rfl | exact absurd rfl other
  apart := fun _ _ => rfl

/-- The sections of validations. -/
def validationReading : Reading Validation where
  heading? := validationHeading?
  make := fun id => { id }
  note := fun r v => v.require r
  subject := fun last _ => last
  named := fun _ => rfl
  keeps := Validation.name_require
  current := fun _ _ _ _ => rfl
  kind := .validations
  word := "validate"
  keyword := rfl
  head := fun id admits => by
    rw [validationHeading?_append admits (by decide), String.ofList_toList]
  bare := fun _ _ => rfl
  inside := fun x here => by
    cases x with
    | requires c trimmed =>
        exact show validationHeading? ("requires_capability".toList ++ _) = none from rfl
    | predicate p => exact show validationHeading? ("predicate".toList ++ _) = none from rfl
    | _ => cases here
  silent := by
    intro r hr
    simp only [List.mem_cons, List.not_mem_nil, or_false] at hr
    rcases hr with rfl | rfl | rfl <;> exact ⟨rfl, fun _ => rfl⟩
  table := Spec.validations
  Follows := fun entered last => entered.validation = last
  opened := fun _ => rfl
  reads := by
    rintro ⟨kind, floor, decision, validation⟩ spec r last rfl rfl
    exact ⟨rfl, rfl⟩
  elsewhere := by
    rintro ⟨kind, floor, decision, validation⟩ spec r other
    cases kind <;> first | rfl | exact absurd rfl other
  apart := fun _ _ => rfl

/-! ## The entries of blocks -/

theorem entry_intents (b : Block) : intentReading.entry b = ⟨b.id⟩ := by
  have idle : ∀ (as : List Attribute) (i : Intent), as.foldl (fun i _ => i) i = i := fun as i => by
    induction as with
    | nil => rfl
    | cons _ as ih => exact ih
  exact idle b.attributes _

theorem entry_constraints {b : Block} (fits : b.Fits .constraints) :
    constraintReading.entry b = b.constraint := by
  have labelled : ∀ (a : Attribute) (s : String), a.severity? = some s → a.label = "severity" := by
    intro a s found
    cases a with
    | severity id => rfl
    | _ => cases found
  have reads : ∀ a ∈ b.attributes, ∀ c, Constraint.note a.row c =
      a.severity?.elim c (Constraint.grade · c) := by
    intro a ha c
    rw [Constraint.note, Attribute.severity?_row (fits.belong a ha)]
    cases a.severity? <;> rfl
  refine (foldl_once labelled reads fits.once _).trans ?_
  unfold Block.constraint
  cases b.attributes.findSome? Attribute.severity? <;> rfl

theorem entry_decisions {b : Block} (fits : b.Fits .decisions) :
    decisionReading.entry b = b.decision := by
  have read : ∀ as : List Attribute, (∀ a ∈ as, a.kind = .decisions) → ∀ d : Decision,
      as.foldl (fun d a => d.refer a.row) d =
        { d with
          supports := as.foldl (fun s a => a.supports?.getD s) d.supports
          respects := as.foldl (fun s a => a.respects?.getD s) d.respects } := by
    intro as
    induction as with
    | nil => exact fun _ _ => rfl
    | cons a as ih =>
        intro belong d
        obtain ⟨here, belong⟩ := List.forall_mem_cons.mp belong
        rw [List.foldl_cons, Attribute.refer_row here, ih belong, List.foldl_cons, List.foldl_cons]
  have last : ∀ {f : Attribute → Option (List String)} {label : String},
      (∀ a ids, f a = some ids → a.label = label) →
      b.attributes.foldl (fun s a => (f a).getD s) [] = (b.attributes.findSome? f).getD [] := by
    intro f label labelled
    have reads : ∀ a ∈ b.attributes, ∀ s, (f a).getD s = (f a).elim s fun ids => ids := by
      intro a _ s
      cases f a <;> rfl
    refine (foldl_once labelled reads fits.once _).trans ?_
    cases b.attributes.findSome? f <;> rfl
  have supporting : ∀ (a : Attribute) (ids : List String), a.supports? = some ids →
      a.label = "supports" := by
    intro a ids found
    cases a with
    | supports ids => rfl
    | _ => cases found
  have respecting : ∀ (a : Attribute) (ids : List String), a.respects? = some ids →
      a.label = "respects" := by
    intro a ids found
    cases a with
    | respects ids => rfl
    | _ => cases found
  exact (read b.attributes fits.belong _).trans
    (congrArg₂ (fun supports respects => Decision.mk b.id supports respects) (last supporting)
      (last respecting))

theorem entry_validations {b : Block} (fits : b.Fits .validations) :
    validationReading.entry b = b.validation := by
  have labelled : ∀ (a : Attribute) (c : String), a.requires? = some c →
      a.label = "requires_capability" := by
    intro a c found
    cases a with
    | requires c trimmed => rfl
    | _ => cases found
  have reads : ∀ a ∈ b.attributes, ∀ v : Validation, v.require a.row =
      a.requires?.elim v fun c => { v with requires := some c } := by
    intro a ha v
    rw [Attribute.require_row (fits.belong a ha)]
    cases a.requires? <;> rfl
  refine (foldl_once labelled reads fits.once _).trans ?_
  unfold Block.validation
  cases b.attributes.findSome? Attribute.requires? <;> rfl

/-! ## The tables of a document -/

/-- The identifiers of the blocks of a kind are distinct, since each section is there once. -/
theorem nodup_ids (outline : Outline) {kind : SectionKind} (blocks : kind ≠ .capabilities) :
    ((outline.blocks kind).map (·.id)).Nodup := by
  have single : ∀ parts : List Part, (parts.map (·.kind)).Nodup →
      ((blocksOf kind parts).map (·.id)).Nodup := by
    intro parts once
    induction parts with
    | nil => exact List.nodup_nil
    | cons part parts ih =>
        obtain ⟨new, once⟩ := List.nodup_cons.mp once
        by_cases same : part.kind = kind
        · have others : parts.filter (·.kind = kind) = [] := by
            refine List.filter_eq_nil_iff.mpr fun other here same' => new ?_
            exact List.mem_map.mpr ⟨other, here, (of_decide_eq_true same').trans same.symm⟩
          rw [blocksOf_cons_of_eq same, blocksOf, others, List.flatMap_nil, List.append_nil]
          exact part.distinct (same ▸ blocks)
        · rw [blocksOf_cons_of_ne same]
          exact ih once
  exact single outline.parts outline.once

/-- **The table of a kind** has the entries of the blocks, in their order. It is proved once for the
four kinds, each of which is a reading. -/
theorem Reading.entries_of_rows {α : Type} [Named α] (reading : Reading α) {outline : Outline}
    {ls : List (List Char)} (shown : rows ls = outline.rows)
    (empty : (reading.table { text := "" }).entries = [])
    (blocks : reading.kind ≠ .capabilities) :
    (reading.table (readSegments (segments ls))).entries =
      (outline.blocks reading.kind).map reading.entry := by
  have distinct : ((reading.table { text := "" }).names ++
      (outline.blocks reading.kind).map (·.id)).Nodup := by
    unfold Table.names
    rw [empty]
    exact nodup_ids outline blocks
  unfold readSegments
  rw [reading.entries_foldl_readSegment (segments_of_rows shown) _ distinct, empty, List.nil_append]
  rfl

theorem fits_of_mem_blocks {outline : Outline} {kind : SectionKind} {b : Block}
    (here : b ∈ outline.blocks kind) : b.Fits kind := by
  obtain ⟨part, hp, hb⟩ := List.mem_flatMap.mp here
  obtain ⟨-, same⟩ := List.mem_filter.mp hp
  exact of_decide_eq_true same ▸ part.fits b hb

/-! ## Capabilities -/

theorem filterMap_rows {β : Type} {f : List Char → Option β} (idle : f [] = none)
    (ls : List (List Char)) : ls.filterMap (f ∘ row) = (rows ls).filterMap f := by
  induction ls with
  | nil => rfl
  | cons raw ls ih =>
      by_cases empty : row raw = []
      · have none : (f ∘ row) raw = none := (congrArg f empty).trans idle
        rw [rows_cons_of_idle empty, List.filterMap_cons_none none, ih]
      · rw [rows_cons_of_shown empty, List.filterMap_cons, List.filterMap_cons, ih]
        rfl

theorem filterMap_part {part : Part} (same : part.kind = .capabilities) :
    part.rows.filterMap wholeIdentifier? = part.blocks.map (·.id) := by
  have names : ∀ bs : List Block, (∀ b ∈ bs, b.Fits .capabilities) →
      (bs.flatMap (Block.rows .capabilities)).filterMap wholeIdentifier? = bs.map (·.id) := by
    intro bs fits
    induction bs with
    | nil => rfl
    | cons b bs ih =>
        obtain ⟨here, fits⟩ := List.forall_mem_cons.mp fits
        have name : wholeIdentifier? b.id.toList = some b.id := by
          rw [wholeIdentifier?_of_name here.named, String.ofList_toList]
        show (b.id.toList :: bs.flatMap _).filterMap wholeIdentifier? = _
        rw [List.filterMap_cons_some name, ih fits, List.map_cons]
  have opens : wholeIdentifier? (SectionKind.capabilities.name.toList ++ [' ', '\x7b']) = none := rfl
  have closes : wholeIdentifier? closing = none := rfl
  unfold Part.rows
  rw [same, List.filterMap_cons_none opens, List.filterMap_append, names _ (same ▸ part.fits),
    List.filterMap_cons_none closes, List.filterMap_nil, List.append_nil]

theorem capabilities_of_rows {outline : Outline} {ls : List (List Char)}
    (shown : rows ls = outline.rows) :
    (readSegments (segments ls)).capabilities =
      ((outline.blocks .capabilities).map (·.id)).eraseDups := by
  have read : ∀ {ss : List Segment} {parts : List Part}, List.Forall₂ Segment.Holds ss parts →
      ((ss.filter (·.kind = .capabilities)).flatMap (·.lines)).filterMap (wholeIdentifier? ∘ row) =
        (blocksOf .capabilities parts).map (·.id) := by
    intro ss parts holds
    induction holds with
    | nil => rfl
    | @cons segment part ss parts here holds ih =>
        by_cases same : part.kind = .capabilities
        · rw [List.filter_cons_of_pos (by simpa [here.kind] using same), List.flatMap_cons,
            List.filterMap_append, ih, filterMap_rows rfl, here.rows, filterMap_part same,
            blocksOf_cons_of_eq same, List.map_append]
        · rw [List.filter_cons_of_neg (by simpa [here.kind] using same), ih,
            blocksOf_cons_of_ne same]
  have ids := ids_readSegments (segments ls) .capabilities
  rw [show SectionKind.capabilities.id? = wholeIdentifier? from rfl,
    read (segments_of_rows shown)] at ids
  exact ids

end IntentSpec.Document
