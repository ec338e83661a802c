import IntentSpec.Proofs.Document.Phrase
import IntentSpec.Proofs.Document.Rows

/-!
# Outlines

An outline says what a well-formed document declares: the name of the system, and in some order the
sections with their blocks and the attributes of these.  Names, quoted texts and sections carry the
conditions under which they can be written down.

The conditions are those of the recognisers, and each excludes a text that would be read as something
else: a quote ends a quoted text, a number sign begins a comment, a brace changes the level, and an
empty text between quotes is not recognised as one.  A section that were there twice would replace the
text of the first, and a name that occurred twice would be one entry, so both are asked for once.

* `Identifier`, `Quotable`, `Attribute`, `Block`, `Part`, `Outline` — what can be written down.
* `Outline.rows` — the rows of the document that an outline stands for.
* `Outline.blocks`, `Outline.predicates` — what the document declares.
* `Outline.solid_rows` — every row can be shown on a line: it has no comment and no blanks at its ends.
* `Part.walks_rows`, `Block.walks_rows` — the level never falls below that of the section inside it,
  and is back there at its end.
-/

namespace IntentSpec.Document

open Text
open Predicate (row)

/-! ## Attributes -/

/-- An identifier. -/
def Identifier : Type := { s : String // isIdentifier s.toList = true }

/-- The characters of an identifier. -/
def Identifier.chars (id : Identifier) : List Char := id.val.toList

/-- None of some characters occurs in a text. -/
def Without (marks s : List Char) : Prop := ∀ c ∈ s, c ∉ marks

-- over the text, since there are too many characters to try
instance (marks s : List Char) : Decidable (Without marks s) := List.decidableBAll _ s

/-- A text that can be put between quotes on a line. -/
structure Quotable where
  text : String
  /-- An empty text is not recognised. -/
  nonempty : text.toList ≠ []
  /-- The quote would end the text, the number sign would begin a comment, and braces count. -/
  plain : Without ['"', '#', '\x7b', '\x7d'] text.toList

/-- A text between quotes. -/
def Quotable.quoted (q : Quotable) : List Char := '"' :: (q.text.toList ++ ['"'])

/-- An attribute of a block. -/
inductive Attribute where
  | severity (value : Identifier)
  /-- The intents that a decision supports. -/
  | supports (ids : List Identifier)
  /-- The constraints that a decision respects. -/
  | respects (ids : List Identifier)
  /-- The capability that a validation requires. -/
  | requires (capability : Quotable) (trimmed : Trimmed capability.text.toList)
  | predicate (text : Quotable)

/-- The label of an attribute. -/
def Attribute.label : Attribute → String
  | severity _ => "severity"
  | supports _ => "supports"
  | respects _ => "respects"
  | requires .. => "requires_capability"
  | predicate _ => "predicate"

/-- The section with the blocks that may have the attribute. -/
def Attribute.kind : Attribute → SectionKind
  | severity _ => .constraints
  | supports _ | respects _ => .decisions
  | requires .. | predicate _ => .validations

/-- The value of an attribute as it is written down. -/
def Attribute.value : Attribute → List Char
  | severity id => id.chars
  | supports ids | respects ids => '[' :: (listed (ids.map Identifier.chars) ++ [']'])
  | requires text _ | predicate text => text.quoted

/-- The row of an attribute. -/
def Attribute.row (a : Attribute) : List Char := a.label.toList ++ (": ".toList ++ a.value)

/-- The severity that an attribute gives. -/
def Attribute.severity? : Attribute → Option String
  | severity id => some id.val
  | _ => none

/-- The intents that an attribute gives. -/
def Attribute.supports? : Attribute → Option (List String)
  | supports ids => some (ids.map (·.val))
  | _ => none

/-- The constraints that an attribute gives. -/
def Attribute.respects? : Attribute → Option (List String)
  | respects ids => some (ids.map (·.val))
  | _ => none

/-- The capability that an attribute gives. -/
def Attribute.requires? : Attribute → Option String
  | requires capability _ => some capability.text
  | _ => none

/-- The predicate that an attribute gives. -/
def Attribute.predicate? : Attribute → Option String
  | predicate text => some text.text
  | _ => none

/-! ## Blocks, sections and documents -/

/-- The word in front of the identifier of a block, in sections that have blocks. -/
def SectionKind.keyword? : SectionKind → Option String
  | intents => some "intent"
  | constraints => some "constraint"
  | decisions => some "decision"
  | validations => some "validate"
  | about | capabilities | change | implementationNotes => none

/-- Whether something in a section may have the identifier. -/
def SectionKind.admits (kind : SectionKind) (id : List Char) : Bool :=
  match kind with
  | .validations => isHyphenated id
  | _ => isIdentifier id

/-- An identifier with attributes.  A capability stands on a line of its own, everything else is the
head of a block. -/
structure Block where
  id : String
  /-- The attributes, in the order in which they are written down. -/
  attributes : List Attribute := []

/-- The row of a closing brace. -/
def closing : List Char := ['\x7d']

/-- The rows of a block. -/
def Block.rows (kind : SectionKind) (b : Block) : List (List Char) :=
  match kind.keyword? with
  | some word =>
    (word.toList ++ ' ' :: (b.id.toList ++ [' ', '\x7b'])) ::
      (b.attributes.map Attribute.row ++ [closing])
  | none => [b.id.toList]

/-- A block may stand in a section: its name is admitted there, and so are its attributes, each of
which it has once. -/
structure Block.Fits (kind : SectionKind) (b : Block) : Prop where
  /-- The identifier is one of the section. -/
  named : kind.admits b.id.toList = true
  /-- The attributes are those of the section. -/
  belong : ∀ a ∈ b.attributes, a.kind = kind
  once : (b.attributes.map Attribute.label).Nodup

instance (kind : SectionKind) (b : Block) : Decidable (b.Fits kind) :=
  decidable_of_iff
    (kind.admits b.id.toList = true ∧ (∀ a ∈ b.attributes, a.kind = kind) ∧
      (b.attributes.map Attribute.label).Nodup)
    ⟨fun h => ⟨h.1, h.2.1, h.2.2⟩, fun h => ⟨h.named, h.belong, h.once⟩⟩

/-- A section with its blocks. -/
structure Part where
  kind : SectionKind
  /-- The blocks, in the order in which they are written down. -/
  blocks : List Block
  declares : kind ∈ [.capabilities, .intents, .constraints, .decisions, .validations]
  /-- The blocks may stand in the section. -/
  fits : ∀ b ∈ blocks, b.Fits kind
  /-- No two blocks have the same identifier. -/
  distinct : kind ≠ .capabilities → (blocks.map (·.id)).Nodup

/-- The rows of a section. -/
def Part.rows (part : Part) : List (List Char) :=
  (part.kind.name.toList ++ [' ', '\x7b']) ::
    (part.blocks.flatMap (Block.rows part.kind) ++ [closing])

/-- A document: the name of the system and its sections. -/
structure Outline where
  /-- The name, as it stands between the quotes. -/
  name : Quotable
  /-- The sections, in the order in which they are written down. -/
  parts : List Part
  named : trim name.text.toList ≠ []
  /-- The name is not the one that stands for a missing name. -/
  known : String.ofList (trim name.text.toList) ≠ unknown
  /-- Every section is there once at most. -/
  once : (parts.map (·.kind)).Nodup

/-- The row that opens the system. -/
def Outline.opening (outline : Outline) : List Char :=
  "system".toList ++ ' ' :: '"' :: (outline.name.text.toList ++ ['"', ' ', '\x7b'])

/-- The rows of a document. -/
def Outline.rows (outline : Outline) : List (List Char) :=
  "DIL:spec v0".toList :: outline.opening :: (outline.parts.flatMap Part.rows ++ [closing])

/-! ## What an outline declares -/

/-- A constraint as its block declares it. -/
def Block.constraint (b : Block) : Constraint where
  id := b.id
  severity := b.attributes.findSome? Attribute.severity?

/-- A decision as its block declares it. -/
def Block.decision (b : Block) : Decision where
  id := b.id
  supports := (b.attributes.findSome? Attribute.supports?).getD []
  respects := (b.attributes.findSome? Attribute.respects?).getD []

/-- A validation as its block declares it. -/
def Block.validation (b : Block) : Validation where
  id := b.id
  requires := b.attributes.findSome? Attribute.requires?

/-- The predicate that a block declares. -/
def Block.predicate? (b : Block) : Option String := b.attributes.findSome? Attribute.predicate?

/-- The blocks of the sections of a kind. -/
def blocksOf (kind : SectionKind) (parts : List Part) : List Block :=
  (parts.filter (·.kind = kind)).flatMap (·.blocks)

theorem blocksOf_cons_of_eq {kind : SectionKind} {part : Part} (same : part.kind = kind)
    (parts : List Part) : blocksOf kind (part :: parts) = part.blocks ++ blocksOf kind parts := by
  unfold blocksOf
  rw [List.filter_cons_of_pos (by simpa using same), List.flatMap_cons]

theorem blocksOf_cons_of_ne {kind : SectionKind} {part : Part} (other : part.kind ≠ kind)
    (parts : List Part) : blocksOf kind (part :: parts) = blocksOf kind parts := by
  unfold blocksOf
  rw [List.filter_cons_of_neg (by simpa using other)]

/-- The blocks that an outline has of a kind. -/
def Outline.blocks (outline : Outline) (kind : SectionKind) : List Block :=
  blocksOf kind outline.parts

/-- The predicates, each under its validation. -/
def Outline.predicates (outline : Outline) : List (String × String) :=
  (outline.blocks .validations).filterMap fun b => b.predicate?.map (b.id, ·)

/-! ## The rows of an outline can be shown -/

/-- A text without number signs and braces. -/
def Plain (s : List Char) : Prop := Without ['#', '\x7b', '\x7d'] s

instance (s : List Char) : Decidable (Plain s) := inferInstanceAs (Decidable (Without _ s))

theorem plain_append {s s' : List Char} (plain : Plain s) (plain' : Plain s') : Plain (s ++ s') :=
  List.forall_mem_append.mpr ⟨plain, plain'⟩

theorem plain_of_name {s : List Char} (name : isHyphenated s = true) : Plain s := by
  intro c here special
  have nameChar := isNameChar_of_mem name here
  simp only [List.mem_cons, List.not_mem_nil, or_false] at special
  rcases special with rfl | rfl | rfl <;> exact absurd nameChar (by decide)

theorem balance_of_plain {s : List Char} (plain : Plain s) : balance s = 0 :=
  balance_of_notMem (fun here => plain _ here (by decide)) fun here => plain _ here (by decide)

theorem Identifier.name (id : Identifier) : isHyphenated id.chars = true :=
  isHyphenated_of_isIdentifier id.property

theorem SectionKind.hyphenated_of_admits {kind : SectionKind} {id : List Char}
    (admits : kind.admits id = true) : isHyphenated id = true := by
  cases kind with
  | validations => exact admits
  | _ => exact isHyphenated_of_isIdentifier admits

theorem names_chars (ids : List Identifier) :
    ∀ y ∈ ids.map Identifier.chars, isHyphenated y = true := by
  intro y hy
  obtain ⟨id, -, rfl⟩ := List.mem_map.mp hy
  exact id.name

theorem plain_listed (ids : List Identifier) : Plain (listed (ids.map Identifier.chars)) := by
  intro c here special
  simp only [List.mem_cons, List.not_mem_nil, or_false] at special
  rcases special with rfl | rfl | rfl <;>
    exact notMem_listed (names_chars ids) (by decide) (by decide) here

theorem Quotable.plain_quoted (q : Quotable) : Plain q.quoted := by
  have inner : Plain q.text.toList := fun c here special =>
    q.plain c here (List.mem_cons_of_mem _ special)
  exact plain_append (s := ['"']) (by decide) (plain_append inner (by decide))

theorem Attribute.plain_value (a : Attribute) : Plain a.value := by
  cases a with
  | severity id => exact plain_of_name id.name
  | supports ids =>
      exact plain_append (s := ['[']) (by decide) (plain_append (plain_listed ids) (by decide))
  | respects ids =>
      exact plain_append (s := ['[']) (by decide) (plain_append (plain_listed ids) (by decide))
  | requires text _ => exact text.plain_quoted
  | predicate text => exact text.plain_quoted

theorem Attribute.name_label (a : Attribute) : isHyphenated a.label.toList = true := by
  cases a <;> simp only [Attribute.label] <;> decide

theorem Attribute.plain_row (a : Attribute) : Plain a.row := by
  exact plain_append (plain_of_name a.name_label) (plain_append (by decide) a.plain_value)

/-- A text between two marks that are no blanks. -/
theorem trimmed_between {c d : Char} (first : isBlank c = false) (last : isBlank d = false)
    (s : List Char) : Trimmed (c :: (s ++ [d])) := by
  have ends : (c :: (s ++ [d])).getLast? = some d := by
    rw [← List.cons_append, List.getLast?_concat]
  refine ⟨by simpa using first, ?_⟩
  rw [ends]
  simpa using last

/-- The value of an attribute is not blank, neither at its ends nor altogether. -/
theorem Attribute.trimmed_value (a : Attribute) : Trimmed a.value ∧ a.value ≠ [] := by
  cases a with
  | severity id => exact ⟨trimmed_of_name id.name, nonempty_of_name id.name⟩
  | supports ids => exact ⟨trimmed_between (by decide) (by decide) _, List.cons_ne_nil _ _⟩
  | respects ids => exact ⟨trimmed_between (by decide) (by decide) _, List.cons_ne_nil _ _⟩
  | requires text _ => exact ⟨trimmed_between (by decide) (by decide) _, List.cons_ne_nil _ _⟩
  | predicate text => exact ⟨trimmed_between (by decide) (by decide) _, List.cons_ne_nil _ _⟩

theorem Attribute.solid_row (a : Attribute) : Solid a.row where
  nonempty := List.append_ne_nil_of_left_ne_nil (nonempty_of_name a.name_label) _
  trimmed := trimmed_append (trimmed_of_name a.name_label) a.trimmed_value.1
    (nonempty_of_name a.name_label) a.trimmed_value.2 _
  plain := fun here => a.plain_row _ here (by decide)

theorem solid_closing : Solid closing := ⟨by decide, ⟨by decide, by decide⟩, by decide⟩

theorem SectionKind.keyword_name {kind : SectionKind} {word : String}
    (keyword : kind.keyword? = some word) : isHyphenated word.toList = true := by
  cases kind <;> cases keyword <;> decide

/-- A text that begins with a word and ends with an opening brace. -/
theorem solid_opening {word : List Char} (between : List Char) (name : isHyphenated word = true)
    (plain : '#' ∉ between) : Solid (word ++ (between ++ ['\x7b'])) where
  nonempty := List.append_ne_nil_of_left_ne_nil (nonempty_of_name name) _
  trimmed := trimmed_append (trimmed_of_name name) ⟨by decide, by decide⟩ (nonempty_of_name name)
    (by decide) _
  plain := by
    simp [notMem_of_name name (c := '#') (by decide), plain]

theorem Block.solid_rows {kind : SectionKind} {b : Block} (fits : b.Fits kind) :
    ∀ r ∈ b.rows kind, Solid r := by
  have name := SectionKind.hyphenated_of_admits fits.named
  unfold Block.rows
  cases keyword : kind.keyword? with
  | none =>
      intro r hr
      obtain rfl := List.mem_singleton.mp hr
      exact ⟨nonempty_of_name name, trimmed_of_name name, notMem_of_name name (by decide)⟩
  | some word =>
      have attributes : ∀ r ∈ b.attributes.map Attribute.row, Solid r := by
        intro r hr
        obtain ⟨a, -, rfl⟩ := List.mem_map.mp hr
        exact a.solid_row
      refine List.forall_mem_cons.mpr ⟨?_, List.forall_mem_append.mpr ⟨attributes, ?_⟩⟩
      · have head := solid_opening (' ' :: (b.id.toList ++ [' ']))
          (SectionKind.keyword_name keyword)
          (by simp [notMem_of_name name (c := '#') (by decide)])
        simpa using head
      · exact List.forall_mem_singleton.mpr solid_closing

theorem solid_of_mem_part {part : Part} : ∀ r ∈ part.rows, Solid r := by
  have opening : Solid (part.kind.name.toList ++ [' ', '\x7b']) := by
    refine solid_opening [' '] ?_ (by decide)
    cases part.kind <;> decide
  refine List.forall_mem_cons.mpr ⟨opening, List.forall_mem_append.mpr ⟨fun r hr => ?_, ?_⟩⟩
  · obtain ⟨b, hb, hr⟩ := List.mem_flatMap.mp hr
    exact Block.solid_rows (part.fits b hb) r hr
  · exact List.forall_mem_singleton.mpr solid_closing

theorem Outline.solid_rows (outline : Outline) : ∀ r ∈ outline.rows, Solid r := by
  have opening : Solid outline.opening := by
    have number : '#' ∉ outline.name.text.toList := fun here =>
      outline.name.plain _ here (by decide)
    have word : isHyphenated "system".toList = true := by decide
    have opens := solid_opening (' ' :: '"' :: (outline.name.text.toList ++ ['"', ' '])) word
      (by simp [number])
    rwa [List.cons_append, List.cons_append, List.append_assoc] at opens
  refine List.forall_mem_cons.mpr ⟨⟨by decide, by decide, by decide⟩,
    List.forall_mem_cons.mpr ⟨opening, List.forall_mem_append.mpr ⟨fun r hr => ?_, ?_⟩⟩⟩
  · obtain ⟨part, -, hr⟩ := List.mem_flatMap.mp hr
    exact solid_of_mem_part r hr
  · exact List.forall_mem_singleton.mpr solid_closing

/-! ## The levels of the rows of an outline -/

theorem walks_of_plain {bound base : Int} {rs : List (List Char)} (plain : ∀ r ∈ rs, Plain r)
    (above : bound ≤ base) : Walks bound base rs base := by
  induction rs with
  | nil => rfl
  | cons r rs ih =>
      obtain ⟨here, plain⟩ := List.forall_mem_cons.mp plain
      unfold Walks
      rw [balance_of_plain here, Int.add_zero]
      exact ⟨above, ih plain⟩

theorem Block.walks_rows {kind : SectionKind} {b : Block} (fits : b.Fits kind) :
    Walks 2 2 (b.rows kind) 2 := by
  have name := plain_of_name (SectionKind.hyphenated_of_admits fits.named)
  unfold Block.rows
  cases keyword : kind.keyword? with
  | none => exact walks_of_plain (List.forall_mem_singleton.mpr name) (by decide)
  | some word =>
      have opens : balance (word.toList ++ ' ' :: (b.id.toList ++ [' ', '\x7b'])) = 1 := by
        rw [← List.singleton_append, balance_append, balance_append, balance_append,
          balance_of_plain name, balance_of_plain (plain_of_name (SectionKind.keyword_name keyword))]
        decide
      have attributes : ∀ r ∈ b.attributes.map Attribute.row, Plain r := by
        intro r hr
        obtain ⟨a, -, rfl⟩ := List.mem_map.mp hr
        exact a.plain_row
      refine ⟨by rw [opens]; decide, ?_⟩
      rw [opens]
      exact walks_append (walks_of_plain attributes (by decide)) ⟨by decide, rfl⟩

theorem Part.walks_blocks (part : Part) :
    Walks 2 2 (part.blocks.flatMap (Block.rows part.kind)) 2 := by
  have walks : ∀ bs : List Block, (∀ b ∈ bs, b.Fits part.kind) →
      Walks 2 2 (bs.flatMap (Block.rows part.kind)) 2 := by
    intro bs fits
    induction bs with
    | nil => rfl
    | cons b bs ih =>
        obtain ⟨here, fits⟩ := List.forall_mem_cons.mp fits
        exact walks_append (Block.walks_rows here) (ih fits)
  exact walks part.blocks part.fits

theorem Part.balance_opening (part : Part) :
    balance (part.kind.name.toList ++ [' ', '\x7b']) = 1 := by
  cases part.kind <;> decide

theorem Part.walks_rows (part : Part) : Walks 1 1 part.rows 1 := by
  refine ⟨by rw [part.balance_opening]; decide, ?_⟩
  rw [part.balance_opening]
  exact walks_append (part.walks_blocks.mono (by decide)) ⟨by decide, rfl⟩

theorem Outline.balance_opening (outline : Outline) : balance outline.opening = 1 := by
  have name : balance outline.name.text.toList = 0 :=
    balance_of_notMem (fun here => outline.name.plain _ here (by decide)) fun here =>
      outline.name.plain _ here (by decide)
  show balance ("system".toList ++ ([' ', '"'] ++ (outline.name.text.toList ++ _))) = 1
  rw [balance_append, balance_append, balance_append, name]
  decide

theorem walks_parts (parts : List Part) : Walks 1 1 (parts.flatMap Part.rows) 1 := by
  induction parts with
  | nil => rfl
  | cons part parts ih => exact walks_append part.walks_rows ih

end IntentSpec.Document
