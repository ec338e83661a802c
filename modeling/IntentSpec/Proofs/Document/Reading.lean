import IntentSpec.Proofs.Document.Arrangement

/-!
# Reading blocks

The sections with blocks are read alike: the first row of a block declares an entry, and each
further row says something about the entry of its block.  What the four sections do differently
makes up a `Reader`; how the pass over the document uses it makes up a `Reading`.

* `Reading.entries_foldl_block` — a block adds one entry, with what its attributes say about it.
* `Reading.table_readSegment` — the pass over a segment is a pass over its rows.
* `Reading.table_foldl_filter` — a table is read from the segments of its kind.
* `Reading.entries_foldl_readSegment` — the table that is read from the segments of an outline.
-/

namespace IntentSpec.Document

open Text
open Predicate (row)

/-! ## Readers -/

/-- How rows are read into a table of entries. -/
structure Reader (α : Type) [Named α] where
  /-- The identifier in the first row of a block. -/
  heading? : List Char → Option String
  /-- An entry of which nothing is said yet. -/
  make : String → α
  /-- What a row says about an entry. -/
  note : List Char → α → α
  /-- The entry that a row is about, if the given one was declared last. -/
  subject : Option String → Table α → Option String
  /-- An entry is declared under its identifier. -/
  named : ∀ id, Named.name (make id) = id
  /-- Nothing that is said about an entry changes its identifier. -/
  keeps : ∀ r a, Named.name (note r a) = Named.name a
  /-- Rows are about the last entry if it was declared last. -/
  current : ∀ (t : Table α) (front : List α) (a : α), t.entries = front ++ [a] →
    subject (some (Named.name a)) t = some (Named.name a)

section Reader

variable {α : Type} [Named α] (reader : Reader α)

/-- The effect of a row on the entry that was declared last and on the table. -/
def Reader.step (here : Option String × Table α) (r : List Char) : Option String × Table α :=
  let last := (reader.heading? r).or here.1
  let t := declare reader.make (reader.heading? r) here.2
  (last, amend (reader.note r) (reader.keeps r) (reader.subject last t) t)

/-- A row that has no identifier and says nothing. -/
structure Reader.Silent (r : List Char) : Prop where
  declares : reader.heading? r = none
  leaves : ∀ a, reader.note r a = a

/-- The entry that a block declares. -/
def Reader.entry (b : Block) : α :=
  b.attributes.foldl (fun a x => reader.note x.row a) (reader.make b.id)

theorem amend_of_idle {change : α → α} (keeps : ∀ a, Named.name (change a) = Named.name a)
    (idle : ∀ a, change a = a) (id : Option String) (t : Table α) : amend change keeps id t = t := by
  cases id with
  | none => rfl
  | some id =>
      refine Table.ext_entries ?_
      show (t.adjust id change keeps).entries = t.entries
      rw [Table.entries_adjust]
      simp [idle]

variable {reader}

theorem Reader.step_of_silent {r : List Char} (silent : reader.Silent r)
    (here : Option String × Table α) : reader.step here r = here := by
  unfold Reader.step
  rw [silent.declares]
  exact Prod.ext rfl (amend_of_idle _ silent.leaves _ _)

/-- A change to the last entry leaves the others alone. -/
theorem entries_amend_last {t : Table α} {front : List α} {a : α} (split : t.entries = front ++ [a])
    {change : α → α} (keeps : ∀ a, Named.name (change a) = Named.name a) :
    (amend change keeps (some (Named.name a)) t).entries = front ++ [change a] := by
  have distinct := t.nodup
  rw [split, List.map_append, List.map_singleton] at distinct
  have others : ∀ b ∈ front, (if Named.name b = Named.name a then change b else b) = b := by
    intro b hb
    refine if_neg fun same => ?_
    exact notMem_of_nodup_append distinct (same ▸ List.mem_map_of_mem hb)
  show (t.adjust (Named.name a) change keeps).entries = _
  rw [Table.entries_adjust, split, List.map_append, List.map_congr_left others]
  simp

/-- A row inside a block says something about the entry of the block. -/
theorem Reader.step_inside {t : Table α} {front : List α} {a : α} (split : t.entries = front ++ [a])
    {r : List Char} (inside : reader.heading? r = none) :
    ∃ t' : Table α,
      reader.step (some (Named.name a), t) r = (some (Named.name (reader.note r a)), t') ∧
        t'.entries = front ++ [reader.note r a] := by
  refine ⟨amend (reader.note r) (reader.keeps r) (some (Named.name a)) t, ?_,
    entries_amend_last split _⟩
  unfold Reader.step
  rw [inside, reader.keeps]
  show (some (Named.name a), amend _ _ (reader.subject (some (Named.name a)) t) t) = _
  rw [reader.current t front a split]

/-- The first row of a block declares an entry. -/
theorem Reader.step_heading {t : Table α} {id : String} (new : id ∉ t.names) {r : List Char}
    (heading : reader.heading? r = some id) (leaves : ∀ a, reader.note r a = a)
    (last : Option String) :
    ∃ t' : Table α, reader.step (last, t) r = (some id, t') ∧
      t'.entries = t.entries ++ [reader.make id] := by
  have new' : Named.name (reader.make id) ∉ t.names := by
    rwa [reader.named]
  refine ⟨t.register (reader.make id), ?_, Table.entries_register_of_notMem new'⟩
  unfold Reader.step
  rw [heading]
  exact Prod.ext rfl (amend_of_idle _ leaves _ _)

theorem Reader.foldl_step_inside {rs : List (List Char)}
    (inside : ∀ r ∈ rs, reader.heading? r = none) {t : Table α} {front : List α} {a : α} (split : t.entries = front ++ [a]) :
    ∃ t' : Table α, rs.foldl reader.step (some (Named.name a), t) = (some (Named.name a), t') ∧
      t'.entries = front ++ [rs.foldl (fun a r => reader.note r a) a] := by
  induction rs generalizing t a with
  | nil => exact ⟨t, rfl, split⟩
  | cons r rs ih =>
      obtain ⟨first, inside⟩ := List.forall_mem_cons.mp inside
      obtain ⟨t₁, step, split₁⟩ := step_inside split first
      obtain ⟨t₂, rest, split₂⟩ := ih inside split₁
      refine ⟨t₂, ?_, split₂⟩
      rw [List.foldl_cons, step, rest, reader.keeps]

theorem Reader.name_entry (b : Block) : Named.name (reader.entry b) = b.id := by
  have kept : ∀ (xs : List Attribute) (a : α),
      Named.name (xs.foldl (fun a x => reader.note x.row a) a) = Named.name a := by
    intro xs
    induction xs with
    | nil => exact fun _ => rfl
    | cons x xs ih => exact fun a => (ih _).trans (reader.keeps x.row a)
  exact (kept b.attributes _).trans (reader.named b.id)

end Reader

/-! ## Reading a section -/

/-- How the pass over a document reads the sections of a kind. -/
structure Reading (α : Type) [Named α] extends Reader α where
  kind : SectionKind
  /-- The word in front of an identifier. -/
  word : String
  /-- The word is that of the sections. -/
  keyword : kind.keyword? = some word
  /-- The first row of a block declares its identifier. -/
  head : ∀ id : String, kind.admits id.toList = true →
    heading? (word.toList ++ ' ' :: (id.toList ++ [' ', '\x7b'])) = some id
  /-- The first row of a block says nothing else. -/
  bare : ∀ (s : List Char) (a : α), note (word.toList ++ ' ' :: s) a = a
  inside : ∀ x : Attribute, x.kind = kind → heading? x.row = none
  /-- The other rows, and lines without a row, say nothing. -/
  silent : ∀ r ∈ [[], closing, kind.name.toList ++ [' ', '\x7b']], toReader.Silent r
  table : Spec → Table α
  /-- The open section knows which entry was declared last, as far as that counts. -/
  Follows : OpenSection → Option String → Prop
  /-- Nothing has been declared when the section opens. -/
  opened : ∀ floor, Follows { kind, floor } none
  /-- The pass reads the rows of the section. -/
  reads : ∀ (entered : OpenSection) (spec : Spec) (r : List Char) (last : Option String),
    entered.kind = kind → Follows entered last →
    table (entered.effect r spec) = (toReader.step (last, table spec) r).2 ∧
      Follows (entered.next r) (toReader.step (last, table spec) r).1
  /-- The rows of other sections leave the table alone. -/
  elsewhere : ∀ (entered : OpenSection) (spec : Spec) (r : List Char), entered.kind ≠ kind →
    table (entered.effect r spec) = table spec
  /-- The text of the sections has nothing to do with the table. -/
  apart : ∀ (spec : Spec) (sections : Table Section), table { spec with sections } = table spec

namespace Reading

variable {α : Type} [Named α] (reading : Reading α)

/-- **A block adds one entry**, with what its attributes say about it. -/
theorem entries_foldl_block {b : Block} (fits : b.Fits reading.kind) {t : Table α}
    (new : b.id ∉ t.names) (last : Option String) :
    ∃ last' t', (b.rows reading.kind).foldl reading.step (last, t) = (last', t') ∧
      t'.entries = t.entries ++ [reading.entry b] := by
  have inside : ∀ r ∈ b.attributes.map Attribute.row, reading.heading? r = none := by
    intro r hr
    obtain ⟨x, hx, rfl⟩ := List.mem_map.mp hr
    exact reading.inside x (fits.belong x hx)
  obtain ⟨t₁, first, split₁⟩ := Reader.step_heading new (reading.head b.id fits.named)
    (reading.bare _) last
  obtain ⟨t₂, attributes, split₂⟩ := Reader.foldl_step_inside inside split₁
  rw [reading.named] at attributes
  have closes : reading.step (some b.id, t₂) closing = (some b.id, t₂) :=
    Reader.step_of_silent (reading.silent closing (by simp)) _
  refine ⟨some b.id, t₂, ?_, ?_⟩
  · unfold Block.rows
    rw [reading.keyword]
    dsimp only
    rw [List.foldl_cons, first, List.foldl_append, attributes, List.foldl_cons, closes,
      List.foldl_nil]
  · rw [split₂, List.foldl_map]
    rfl

theorem entries_foldl_blocks {bs : List Block} (fits : ∀ b ∈ bs, b.Fits reading.kind) {t : Table α}
    (distinct : (t.names ++ bs.map (·.id)).Nodup) (last : Option String) :
    ∃ last' t', (bs.flatMap (Block.rows reading.kind)).foldl reading.step (last, t) = (last', t') ∧
      t'.entries = t.entries ++ bs.map reading.entry := by
  induction bs generalizing t last with
  | nil => exact ⟨last, t, rfl, (List.append_nil _).symm⟩
  | cons b bs ih =>
      obtain ⟨here, fits⟩ := List.forall_mem_cons.mp fits
      have new : b.id ∉ t.names := notMem_of_nodup_append distinct
      obtain ⟨last₁, t₁, first, split₁⟩ := reading.entries_foldl_block here new last
      have names : t₁.names = t.names ++ [b.id] := by
        unfold Table.names
        rw [split₁, List.map_append, List.map_singleton, Reader.name_entry]
      have distinct₁ : (t₁.names ++ bs.map (·.id)).Nodup := by
        rw [names, ← List.append_cons]
        exact distinct
      obtain ⟨last₂, t₂, rest, split₂⟩ := ih fits distinct₁ last₁
      refine ⟨last₂, t₂, ?_, ?_⟩
      · rw [List.flatMap_cons, List.foldl_append, first, rest]
      · rw [split₂, split₁, List.map_cons, ← List.append_cons]

/-- The rows of a section add the entries of its blocks. -/
theorem entries_foldl_part {part : Part} (same : part.kind = reading.kind) {t : Table α}
    (distinct : (t.names ++ part.blocks.map (·.id)).Nodup) :
    (part.rows.foldl reading.step (none, t)).2.entries =
      t.entries ++ part.blocks.map reading.entry := by
  have opens : reading.step (none, t) (part.kind.name.toList ++ [' ', '\x7b']) = (none, t) :=
    Reader.step_of_silent (reading.silent _ (by simp [same])) _
  obtain ⟨last, t', blocks, split⟩ :=
    reading.entries_foldl_blocks (same ▸ part.fits) distinct none
  have closes : reading.step (last, t') closing = (last, t') :=
    Reader.step_of_silent (reading.silent closing (by simp)) _
  unfold Part.rows
  rw [List.foldl_cons, opens, List.foldl_append, same, blocks, List.foldl_cons, closes]
  exact split

/-! ## The pass over the segments -/

theorem table_foldl_readLine {ls : List (List Char)} {entered : OpenSection} {last : Option String}
    (spec : Spec) (same : entered.kind = reading.kind) (follows : reading.Follows entered last) :
    reading.table (ls.foldl readLine (entered, spec)).2 =
      ((rows ls).foldl reading.step (last, reading.table spec)).2 := by
  induction ls generalizing entered last spec with
  | nil => rfl
  | cons raw ls ih =>
      obtain ⟨effect, follows⟩ := reading.reads entered
        (spec.appendRaw entered.kind.name raw) (row raw) last same follows
      have raws : reading.table (spec.appendRaw entered.kind.name raw) = reading.table spec :=
        reading.apart spec _
      rw [raws] at effect follows
      rw [List.foldl_cons, readLine_eq, ih _ ((next_kind _ _).trans same) follows, effect]
      by_cases empty : row raw = []
      · have silent : reading.step (last, reading.table spec) (row raw) =
            (last, reading.table spec) :=
          empty ▸ Reader.step_of_silent (reading.silent [] (by simp)) _
        rw [rows_cons_of_idle empty, silent]
      · rw [rows_cons_of_shown empty, List.foldl_cons]

theorem table_foldl_readLine_of_ne {ls : List (List Char)} {entered : OpenSection} (spec : Spec)
    (other : entered.kind ≠ reading.kind) :
    reading.table (ls.foldl readLine (entered, spec)).2 = reading.table spec := by
  induction ls generalizing entered spec with
  | nil => rfl
  | cons raw ls ih =>
      have other' : (entered.next (row raw)).kind ≠ reading.kind := by
        rwa [next_kind]
      rw [List.foldl_cons, readLine_eq, ih _ other', reading.elsewhere _ _ _ other]
      exact reading.apart spec _

/-- **The pass over a segment is a pass over its rows.** -/
theorem table_readSegment (spec : Spec) (segment : Segment) :
    reading.table (spec.readSegment segment) =
      if segment.kind = reading.kind then
        ((rows segment.lines).foldl reading.step (none, reading.table spec)).2
      else reading.table spec := by
  have opens : reading.table (enter segment.kind 1 spec).2 = reading.table spec :=
    reading.apart spec _
  unfold Spec.readSegment
  rw [← opens]
  by_cases same : segment.kind = reading.kind
  · rw [if_pos same]
    exact reading.table_foldl_readLine _ same (same ▸ reading.opened _)
  · rw [if_neg same]
    exact reading.table_foldl_readLine_of_ne _ same

/-- **A table is read from the segments of its kind alone**, in their order. -/
theorem table_foldl_filter (ss : List Segment) {spec spec' : Spec}
    (same : reading.table spec' = reading.table spec) :
    reading.table ((ss.filter (·.kind = reading.kind)).foldl Spec.readSegment spec') =
      reading.table (ss.foldl Spec.readSegment spec) := by
  induction ss generalizing spec spec' with
  | nil => exact same
  | cons segment ss ih =>
      by_cases here : segment.kind = reading.kind
      · rw [List.filter_cons_of_pos (by simpa using here), List.foldl_cons, List.foldl_cons]
        refine ih ?_
        rw [table_readSegment, table_readSegment, same]
      · rw [List.filter_cons_of_neg (by simpa using here), List.foldl_cons]
        refine ih ?_
        rw [table_readSegment, if_neg here, same]

/-- **The table that is read from the sections of an outline** has an entry for each block, in the
order of the blocks. -/
theorem entries_foldl_readSegment {ss : List Segment} {parts : List Part}
    (holds : List.Forall₂ Segment.Holds ss parts) (spec : Spec)
    (distinct : ((reading.table spec).names ++
      (blocksOf reading.kind parts).map (·.id)).Nodup) :
    (reading.table (ss.foldl Spec.readSegment spec)).entries =
      (reading.table spec).entries ++ (blocksOf reading.kind parts).map reading.entry := by
  induction holds generalizing spec with
  | nil => exact (List.append_nil _).symm
  | @cons segment part ss parts here holds ih =>
      have read := reading.table_readSegment spec segment
      rw [here.kind, here.rows] at read
      rw [List.foldl_cons]
      by_cases same : part.kind = reading.kind
      · rw [if_pos same] at read
        rw [blocksOf_cons_of_eq same, List.map_append, ← List.append_assoc] at distinct
        have added := reading.entries_foldl_part same (List.nodup_append.mp distinct).1
        rw [← read] at added
        have names : (reading.table (spec.readSegment segment)).names =
            (reading.table spec).names ++ part.blocks.map (·.id) := by
          unfold Table.names
          rw [added, List.map_append, List.map_map]
          simp [Function.comp_def, Reader.name_entry]
        rw [ih _ (names ▸ distinct), added, blocksOf_cons_of_eq same, List.map_append,
          List.append_assoc]
      · rw [if_neg same] at read
        rw [blocksOf_cons_of_ne same] at distinct ⊢
        rw [ih _ (read ▸ distinct), read]

end Reading

end IntentSpec.Document
