import IntentSpec.Proofs.Document.Entries
import IntentSpec.Proofs.Document.Forms

/-!
# Which entry an attribute belongs to

Attributes are rows like any others, and nothing on such a row says what it is about.  In the sections of
decisions and of validations it is about the entry whose heading stands nearest above it in the section.  In
the sections of constraints it is about the constraint that was declared last for the first time: a heading
that repeats an identifier moves nothing, and neither does the end of a section.

So an entry is what the rows about it say, one after another, and what counts is the last of them that gives
an attribute.

* `lastOf`, `newest` — the two ways in which rows say what the next row is about.
* `placed`, `rowsAbout` — the rows with what they are about, and those about one entry.
* `Reader.Told` — a table whose entries are what the rows about them say.
* `parse_binds` — the entries of a document, attribute by attribute.
-/

namespace IntentSpec.Document

open Text

/-! ## Rows and what they are about -/

/-- What is read from the last row from which something can be read. -/
def lastOf {β : Type} (read : List Char → Option β) (rs : List (List Char)) : Option β :=
  (rs.filterMap read).getLast?

/-- The identifier in the last heading that is the first one with its identifier. -/
def newest (heading? : List Char → Option String) (rs : List (List Char)) : Option String :=
  (rs.filterMap heading?).eraseDups.getLast?

/-- Each row with the identifier that the rows above it determine. -/
def placed (about : List (List Char) → Option String) (rs : List (List Char)) :
    List (Option String × List Char) :=
  (List.range rs.length).map fun n => (about (rs.take n), rs.getD n [])

/-- The rows that are about an identifier. -/
def rowsAbout (id : String) (p : List (Option String × List Char)) : List (List Char) :=
  (p.filter (·.1 = some id)).map Prod.snd

theorem lastOf_concat {β : Type} (read : List Char → Option β) (rs : List (List Char))
    (r : List Char) : lastOf read (rs ++ [r]) = (read r).or (lastOf read rs) := by
  unfold lastOf
  rw [List.filterMap_append]
  cases found : read r with
  | none => simp [found]
  | some b => simp [found]

theorem placed_concat (about : List (List Char) → Option String) (rs : List (List Char))
    (r : List Char) : placed about (rs ++ [r]) = placed about rs ++ [(about rs, r)] := by
  unfold placed
  rw [List.length_append, List.length_singleton, List.range_succ, List.map_append, List.map_singleton]
  refine congrArg₂ (· ++ ·) (List.map_congr_left fun n here => ?_) ?_
  · have inside : n < rs.length := List.mem_range.mp here
    rw [List.take_append_of_le_length (Nat.le_of_lt inside), List.getD_eq_getElem?_getD,
      List.getD_eq_getElem?_getD, List.getElem?_append_left inside]
  · rw [List.take_left]
    simp

/-- A heading that repeats an identifier is the nearest one, but what it declares is not the newest. -/
example :
    let rs := ["constraint C1", "constraint C2", "constraint C1"].map String.toList
    lastOf (heading? "constraint") rs = some "C1" ∧ newest (heading? "constraint") rs = some "C2" := by
  decide

theorem rowsAbout_concat (id : String) (p : List (Option String × List Char)) (about : Option String)
    (r : List Char) :
    rowsAbout id (p ++ [(about, r)]) =
      if about = some id then rowsAbout id p ++ [r] else rowsAbout id p := by
  unfold rowsAbout
  rw [List.filter_append]
  by_cases here : about = some id <;> simp [here]

/-! ## Entries as what is said about them -/

section Reader

variable {α : Type} [Named α] (reader : Reader α)

/-- What rows say about an entry of which nothing was said before. -/
def Reader.said (id : String) (rs : List (List Char)) : α :=
  rs.foldl (fun a r => reader.note r a) (reader.make id)

/-- The entries of a table are what the rows about them say, and all rows are about entries of it. -/
structure Reader.Told (p : List (Option String × List Char)) (t : Table α) : Prop where
  /-- Each entry is what its rows say. -/
  entries : t.entries = t.names.map fun id => reader.said id (rowsAbout id p)
  /-- What a row is about is in the table. -/
  known : ∀ placedRow ∈ p, ∀ id ∈ placedRow.1, id ∈ t.names

/-- A heading says nothing but its identifier. -/
def Reader.Bare : Prop := ∀ r id, reader.heading? r = some id → ∀ a, reader.note r a = a

/-- Rows are about the entry whose heading was read last. -/
def Reader.Nearest : Prop := ∀ (last : Option String) (t : Table α), reader.subject last t = last

/-- Rows are about the last entry of the table. -/
def Reader.Newest : Prop := ∀ (last : Option String) (t : Table α), reader.subject last t = lastName t

variable {reader}

theorem Reader.said_concat (id : String) (rs : List (List Char)) (r : List Char) :
    reader.said id (rs ++ [r]) = reader.note r (reader.said id rs) := by
  unfold Reader.said
  rw [List.foldl_append, List.foldl_cons, List.foldl_nil]

theorem Reader.name_said (id : String) (rs : List (List Char)) : Named.name (reader.said id rs) = id := by
  induction rs using List.reverseRecOn with
  | nil => exact reader.named id
  | append_singleton rs r ih => rw [said_concat, reader.keeps, ih]

/-- Nothing has been said about the entries of a table without entries. -/
theorem Reader.Told.empty : reader.Told [] (∅ : Table α) where
  entries := rfl
  known := List.forall_mem_nil _

/-- A row that is about an entry adds to what is said about it. -/
theorem Reader.Told.note {p : List (Option String × List Char)} {t : Table α} (told : reader.Told p t)
    {about : Option String} (declared : ∀ id ∈ about, id ∈ t.names) (r : List Char) :
    reader.Told (p ++ [(about, r)]) (amend (reader.note r) (reader.keeps r) about t) where
  entries := by
    rw [names_amend]
    cases about with
    | none =>
        refine told.entries.trans (List.map_congr_left fun id _ => ?_)
        rw [rowsAbout_concat, if_neg (by simp)]
    | some here =>
        show (t.adjust here (reader.note r) (reader.keeps r)).entries = _
        rw [Table.entries_adjust, told.entries, List.map_map]
        refine List.map_congr_left fun id _ => ?_
        rw [Function.comp_apply, name_said, rowsAbout_concat]
        by_cases same : id = here
        · rw [if_pos same, if_pos (congrArg some same.symm), said_concat]
        · rw [if_neg same, if_neg fun other => same (Option.some.inj other).symm]
  known := by
    rw [names_amend]
    refine List.forall_mem_append.mpr ⟨told.known, ?_⟩
    exact List.forall_mem_singleton.mpr declared

/-- A new entry is one of which nothing was said. -/
theorem Reader.Told.register {p : List (Option String × List Char)} {t : Table α}
    (told : reader.Told p t) (id : String) : reader.Told p (t.register (reader.make id)) := by
  by_cases old : id ∈ t.names
  · have same : t.register (reader.make id) = t := by
      unfold Table.register
      rw [dif_pos ((Table.contains_iff t _).mpr ((reader.named id).symm ▸ old))]
    rwa [same]
  · have new : Named.name (reader.make id) ∉ t.names := (reader.named id).symm ▸ old
    have names : (t.register (reader.make id)).names = t.names ++ [id] := by
      rw [Table.names_register, reader.named, enlist, if_neg old]
    have silent : rowsAbout id p = [] := by
      refine List.map_eq_nil_iff.mpr (List.filter_eq_nil_iff.mpr fun placedRow here about => old ?_)
      exact told.known placedRow here id (by simpa using about)
    constructor
    · rw [Table.entries_register_of_notMem new, names, List.map_append, List.map_singleton, silent,
        ← told.entries]
      rfl
    · intro placedRow here id' about
      rw [names]
      exact List.mem_append_left _ (told.known placedRow here id' about)

theorem Reader.names_step (last : Option String) (t : Table α) (r : List Char) :
    (reader.step (last, t) r).2.names = (reader.heading? r).toList.foldl enlist t.names := by
  unfold Reader.step
  rw [names_amend, names_declare reader.named]

/-- **Reading a row** keeps the entries what the rows about them say. It is the step of the
induction, whichever rows are taken to be about an entry. -/
theorem Reader.Told.step (bare : reader.Bare) {p : List (Option String × List Char)} {t : Table α}
    (told : reader.Told p t) {last : Option String}
    (declared : ∀ id ∈ reader.subject last t, id ∈ t.names) (r : List Char) :
    reader.Told (p ++ [(reader.subject last t, r)]) (reader.step (last, t) r).2 := by
  have noted := told.note declared r
  unfold Reader.step
  cases heading : reader.heading? r with
  | none => exact noted
  | some id =>
      -- a heading changes nothing but the names, whatever it is about itself
      have idle := bare r id heading
      rw [amend_of_idle _ idle] at noted
      show reader.Told _ (amend _ _ _ (t.register (reader.make id)))
      rw [amend_of_idle _ idle]
      exact noted.register id

/-! ## Reading rows one after another -/

theorem Reader.names_foldl (rs : List (List Char)) (last : Option String) (t : Table α) :
    (rs.foldl reader.step (last, t)).2.names = (rs.filterMap reader.heading?).foldl enlist t.names := by
  induction rs using List.reverseRecOn with
  | nil => rfl
  | append_singleton rs r ih =>
      rw [List.foldl_append, List.foldl_cons, List.foldl_nil, List.filterMap_append, List.foldl_append,
        ← ih, names_step]
      cases heading : reader.heading? r <;> simp [heading]

/-- **Reading rows one after another**, when the rows above each row determine what it is about. -/
theorem Reader.Told.foldl (bare : reader.Bare) {p : List (Option String × List Char)} {t : Table α}
    (told : reader.Told p t) {last : Option String} {about : List (List Char) → Option String}
    (tracks : ∀ front : List (List Char), reader.subject (front.foldl reader.step (last, t)).1
      (front.foldl reader.step (last, t)).2 = about front)
    (declared : ∀ front, ∀ id ∈ about front, id ∈ (front.foldl reader.step (last, t)).2.names)
    (rs : List (List Char)) :
    reader.Told (p ++ placed about rs) (rs.foldl reader.step (last, t)).2 := by
  induction rs using List.reverseRecOn with
  | nil => exact (List.append_nil p).symm ▸ told
  | append_singleton rs r ih =>
      rw [List.foldl_append, List.foldl_cons, List.foldl_nil, placed_concat, ← List.append_assoc,
        ← tracks rs]
      exact ih.step bare (tracks rs ▸ declared rs) r

/-- The last heading determines what rows are about, if they are about the entry declared last. -/
theorem Reader.fst_foldl (rs : List (List Char)) (t : Table α) :
    (rs.foldl reader.step (none, t)).1 = lastOf reader.heading? rs := by
  induction rs using List.reverseRecOn with
  | nil => rfl
  | append_singleton rs r ih =>
      rw [List.foldl_append, List.foldl_cons, List.foldl_nil, lastOf_concat, ← ih]
      rfl

/-- **Rows about the nearest heading.** -/
theorem Reader.Told.foldl_nearest (bare : reader.Bare) (cursor : reader.Nearest)
    {p : List (Option String × List Char)} {t : Table α} (told : reader.Told p t)
    (rs : List (List Char)) :
    reader.Told (p ++ placed (lastOf reader.heading?) rs) (rs.foldl reader.step (none, t)).2 := by
  refine told.foldl bare (fun front => ?_) (fun front id about => ?_) rs
  · rw [cursor, fst_foldl]
  · rw [names_foldl, mem_foldl_enlist]
    exact Or.inr (List.mem_of_getLast? about)

theorem lastName_eq (t : Table α) : lastName t = t.names.getLast? := by
  rw [lastName, Table.names, List.getLast?_map]

/-- **Rows about the newest entry.** -/
theorem Reader.Told.foldl_newest (bare : reader.Bare) (latest : reader.Newest)
    (rs : List (List Char)) :
    reader.Told (placed (newest reader.heading?) rs) (rs.foldl reader.step (none, ∅)).2 := by
  have names : ∀ front : List (List Char), (front.foldl reader.step (none, ∅)).2.names =
      (front.filterMap reader.heading?).eraseDups := fun front => by
    rw [names_foldl, ← foldl_enlist_nil]
    rfl
  refine Reader.Told.empty.foldl bare (fun front => ?_) (fun front id about => ?_) rs
  · rw [latest, lastName_eq, names]
    rfl
  · rw [names]
    exact List.mem_of_getLast? about

/-- Where rows are about the newest entry, it does not matter which heading was read last. -/
theorem Reader.snd_foldl_of_newest (latest : reader.Newest)
    (here : Option String × Table α) (rs : List (List Char)) :
    (rs.foldl reader.step here).2 = (rs.foldl reader.step (none, here.2)).2 := by
  have step : ∀ (here : Option String × Table α) (r : List Char),
      (reader.step here r).2 = (reader.step (none, here.2) r).2 := fun here r => by
    unfold Reader.step
    dsimp only
    rw [latest, latest]
  induction rs using List.reverseRecOn with
  | nil => rfl
  | append_singleton rs r ih =>
      rw [List.foldl_append, List.foldl_append, List.foldl_cons, List.foldl_nil, List.foldl_cons,
        List.foldl_nil, step, ih, ← step]

end Reader

/-! ## Reading sections one after another -/

section Reading

variable {α : Type} [Named α] {reading : Reading α}

/-- The rows of the segments of a kind, segment by segment. -/
def rowsOf (kind : SectionKind) (ss : List Segment) : List (List (List Char)) :=
  (ss.filter (·.kind = kind)).map fun segment => rows segment.lines

theorem rowsOf_concat (kind : SectionKind) (ss : List Segment) (segment : Segment) :
    rowsOf kind (ss ++ [segment]) =
      rowsOf kind ss ++ if segment.kind = kind then [rows segment.lines] else [] := by
  unfold rowsOf
  rw [List.filter_append, List.map_append]
  by_cases same : segment.kind = kind <;> simp [same]

theorem table_readSegments_concat (ss : List Segment) (segment : Segment) :
    reading.table (readSegments (ss ++ [segment])) =
      if segment.kind = reading.kind then
        ((rows segment.lines).foldl reading.step (none, reading.table (readSegments ss))).2
      else reading.table (readSegments ss) := by
  rw [← reading.table_readSegment]
  unfold readSegments
  rw [List.foldl_append, List.foldl_cons, List.foldl_nil]

/-- In each section the rows are about the nearest heading of the section. -/
theorem Reading.told_nearest (bare : reading.Bare) (cursor : reading.Nearest)
    (blank : reading.table { text := "" } = ∅) (ss : List Segment) :
    reading.Told ((rowsOf reading.kind ss).flatMap (placed (lastOf reading.heading?)))
      (reading.table (readSegments ss)) := by
  induction ss using List.reverseRecOn with
  | nil => exact blank.symm ▸ Reader.Told.empty
  | append_singleton ss segment ih =>
      rw [table_readSegments_concat, rowsOf_concat, List.flatMap_append]
      by_cases same : segment.kind = reading.kind
      · rw [if_pos same, if_pos same, List.flatMap_singleton]
        exact ih.foldl_nearest bare cursor _
      · rw [if_neg same, if_neg same, List.flatMap_nil, List.append_nil]
        exact ih

/-- If rows are about the newest entry, sections make no difference. -/
theorem Reading.table_eq_foldl (latest : reading.Newest)
    (blank : reading.table { text := "" } = ∅) (ss : List Segment) :
    reading.table (readSegments ss) = ((rowsOf reading.kind ss).flatten.foldl reading.step (none, ∅)).2 := by
  induction ss using List.reverseRecOn with
  | nil => exact blank
  | append_singleton ss segment ih =>
      rw [table_readSegments_concat, rowsOf_concat, List.flatten_append, List.foldl_append]
      by_cases same : segment.kind = reading.kind
      · rw [if_pos same, if_pos same, ih, ← Reader.snd_foldl_of_newest latest, List.flatten_singleton]
      · rw [if_neg same, if_neg same]
        exact ih

/-- Across all sections the rows are about the newest entry. -/
theorem Reading.told_newest (bare : reading.Bare) (latest : reading.Newest)
    (blank : reading.table { text := "" } = ∅) (ss : List Segment) :
    reading.Told (placed (newest reading.heading?) (rowsOf reading.kind ss).flatten)
      (reading.table (readSegments ss)) := by
  rw [reading.table_eq_foldl latest blank]
  exact Reader.Told.foldl_newest bare latest _

end Reading

/-! ## Attributes -/

/-- A row that begins with another word does not give an attribute. -/
theorem labelled?_of_prefix {word : List Char} {label : String} {r : List Char} (begins : word <+: r)
    (apart : ¬ word <+: label.toList ∧ ¬ label.toList <+: word) : labelled? label r = none := by
  cases labelled : labelled? label r with
  | none => rfl
  | some value =>
      obtain ⟨gap, gap', -, -, -, rfl⟩ := (labelled?_eq_some_iff ..).mp labelled
      exact (Predicate.not_two_prefixes begins (List.prefix_append _ _) apart).elim

theorem prefix_of_heading? {word : String} {r : List Char} {id : String}
    (heading : heading? word r = some id) : word.toList <+: r := by
  obtain ⟨gap, rest, -, -, -, -, rfl⟩ := (heading?_eq_some_iff ..).mp heading
  exact List.prefix_append _ _

theorem bare_decisions : decisionReading.Bare := by
  intro r id heading d
  have begins := prefix_of_heading? heading
  have supports : labelled? "supports" r = none := labelled?_of_prefix begins (by decide)
  have respects : labelled? "respects" r = none := labelled?_of_prefix begins (by decide)
  show d.refer r = d
  rw [Decision.refer, supports, respects]
  rfl

theorem nearest_decisions : decisionReading.Nearest := fun _ _ => rfl

theorem bare_validations : validationReading.Bare := by
  intro r id heading v
  have begins := Predicate.prefix_of_validationHeading? heading
  have requires : labelled? "requires_capability" r = none := labelled?_of_prefix begins (by decide)
  show v.require r = v
  rw [Validation.require, requires]
  rfl

theorem nearest_validations : validationReading.Nearest := fun _ _ => rfl

theorem bare_constraints : constraintReading.Bare := by
  intro r id heading c
  have severity : labelled? "severity" r = none :=
    labelled?_of_prefix (prefix_of_heading? heading) (by decide)
  show c.note r = c
  rw [Constraint.note, severity?, severity]
  rfl

theorem newest_constraints : constraintReading.Newest := fun _ _ => rfl

/-- What rows say about a decision: of each attribute the last one counts. -/
theorem said_decisions (id : String) (rs : List (List Char)) :
    decisionReading.said id rs =
      { id
        supports := ((lastOf (labelled? "supports") rs).map bracketList).getD []
        respects := ((lastOf (labelled? "respects") rs).map bracketList).getD [] } := by
  induction rs using List.reverseRecOn with
  | nil => rfl
  | append_singleton rs r ih =>
      rw [Reader.said_concat, ih, lastOf_concat, lastOf_concat]
      show Decision.refer _ r = _
      unfold Decision.refer
      cases labelled? "supports" r <;> cases labelled? "respects" r <;> rfl

/-- What rows say about a validation. -/
theorem said_validations (id : String) (rs : List (List Char)) :
    validationReading.said id rs =
      { id, requires := (lastOf (labelled? "requires_capability") rs).bind quotedOrBare } := by
  induction rs using List.reverseRecOn with
  | nil => rfl
  | append_singleton rs r ih =>
      rw [Reader.said_concat, ih, lastOf_concat]
      show Validation.require _ r = _
      unfold Validation.require
      cases labelled? "requires_capability" r <;> rfl

/-- What rows say about a constraint. -/
theorem said_constraints (id : String) (rs : List (List Char)) :
    constraintReading.said id rs = { id, severity := lastOf severity? rs } := by
  induction rs using List.reverseRecOn with
  | nil => rfl
  | append_singleton rs r ih =>
      rw [Reader.said_concat, ih, lastOf_concat]
      show Constraint.note r _ = _
      unfold Constraint.note
      cases severity? r <;> rfl

/-! ## The entries of a document -/

/-- **Which attributes belong to which entry.**  The references of a decision, and the capability that a
validation requires, are the last ones that a row gives whose nearest heading in the same section is one of
that entry.  The severity of a constraint is the last one that a row gives when the constraint is the newest
one, whatever sections it stands in.  An attribute has a label, a colon and a value that is not empty, which
for a severity is an identifier; a heading has a keyword and an identifier. -/
theorem parse_binds (text : String) :
    (Spec.parse text).decisions.entries = (Spec.parse text).decisions.names.map (fun d =>
        let said := rowsAbout d ((rowsOf .decisions (segments (lines text.toList))).flatMap
          (placed (lastOf (heading? "decision"))))
        { id := d
          supports := ((lastOf (labelled? "supports") said).map bracketList).getD []
          respects := ((lastOf (labelled? "respects") said).map bracketList).getD [] }) ∧
      (Spec.parse text).validations.entries = (Spec.parse text).validations.names.map (fun v =>
        let said := rowsAbout v ((rowsOf .validations (segments (lines text.toList))).flatMap
          (placed (lastOf validationHeading?)))
        { id := v, requires := (lastOf (labelled? "requires_capability") said).bind quotedOrBare }) ∧
      (Spec.parse text).constraints.entries = (Spec.parse text).constraints.names.map (fun c =>
        let said := rowsAbout c (placed (newest (heading? "constraint"))
          (rowsOf .constraints (segments (lines text.toList))).flatten)
        { id := c, severity := lastOf severity? said }) ∧
      (∀ (label : String) (r value : List Char), labelled? label r = some value ↔
        ∃ gap gap', (∀ c ∈ gap, isAsciiBlank c = true) ∧ (∀ c ∈ gap', isAsciiBlank c = true) ∧
          value.head?.any (!isAsciiBlank ·) = true ∧
          r = label.toList ++ (gap ++ ':' :: (gap' ++ value))) ∧
      (∀ (r : List Char) (id : String), severity? r = some id ↔
        isIdentifier id.toList = true ∧ labelled? "severity" r = some id.toList) ∧
      (∀ (word : String) (r : List Char) (id : String), heading? word r = some id ↔
        ∃ gap rest, gap ≠ [] ∧ (∀ c ∈ gap, isAsciiBlank c = true) ∧ isIdentifier id.toList = true ∧
          rest.head?.any isAsciiWord = false ∧ r = word.toList ++ (gap ++ (id.toList ++ rest))) ∧
      ∀ (r : List Char) (id : String), validationHeading? r = some id ↔
        ∃ gap hyphens rest, gap ≠ [] ∧ (∀ c ∈ gap, isAsciiBlank c = true) ∧
          isHyphenated id.toList = true ∧ (∀ c ∈ hyphens, c = '-') ∧
          rest.head?.any isNameChar = false ∧
          r = "validate".toList ++ (gap ++ (id.toList ++ (hyphens ++ rest))) := by
  refine ⟨?decisions, ?validations, ?constraints, labelled?_eq_some_iff, severity?_eq_some_iff,
    heading?_eq_some_iff, validationHeading?_eq_some_iff⟩
  case decisions =>
    rw [parse_eq_under]
    have told := Reading.told_nearest bare_decisions nearest_decisions rfl (segments (lines text.toList))
    exact told.entries.trans (List.map_congr_left fun d _ => said_decisions d _)
  case validations =>
    rw [parse_eq_under]
    have told := Reading.told_nearest bare_validations nearest_validations rfl (segments (lines text.toList))
    exact told.entries.trans (List.map_congr_left fun v _ => said_validations v _)
  case constraints =>
    rw [parse_eq_under]
    have told := Reading.told_newest bare_constraints newest_constraints rfl (segments (lines text.toList))
    exact told.entries.trans (List.map_congr_left fun c _ => said_constraints c _)

end IntentSpec.Document
