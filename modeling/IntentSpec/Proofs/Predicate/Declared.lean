import IntentSpec.Proofs.Document.Entries

/-!
# The predicates of an outline

The extraction is a pass of its own, with its own count of braces.  On a document with the rows of
an outline it comes to the same end as the parse: it enters the section of validations, keeps to the
blocks there and finds the predicate of each (`extract_of_rows`).  It reads rows only (`advance`), so
comments and blank lines do not matter.

The extraction does not look for the system.  It enters wherever a row opens a section of validations,
and it leaves when its own count is back at zero.  On the rows of an outline both come to the same,
since no row of another section opens one (`opensValidations_of_mem_part`) and the level inside a
section stays positive until its last row.

A predicate is put under the block that was opened last, and replaces an earlier one there.  A block has
one at most and identifiers are distinct, so nothing is replaced and the order is that of the blocks.
-/

namespace IntentSpec.Predicate

open Text Document

/-! ## The extraction over rows -/

/-- What a row does to the state. -/
def advance (e : Extraction) (r : List Char) : Extraction :=
  if opensValidations r = true then { e with inside := true, depth := 1 }
  else if e.inside = false then e
  else if e.depth + balance r ≤ 0 then
    { e with inside := false, depth := e.depth + balance r, current := none }
  else
    { inside := true
      depth := e.depth + balance r
      current := (validationHeading? r).or e.current
      found := record (predicateText? r) e.current e.found }

theorem step_eq_advance (e : Extraction) (raw : List Char) : e.step raw = advance e (row raw) := by
  unfold advance
  rcases step_cases e raw with ⟨opens, step⟩ | ⟨opens, outside, step⟩ | ⟨opens, inside, stays, step⟩ |
    ⟨opens, inside, closes, step⟩
  · rw [step, if_pos opens]
  · rw [step, if_neg (by simp [opens]), if_pos outside]
  · rw [step, if_neg (by simp [opens]), if_neg (by simp [inside]), if_neg (by omega)]
  · rw [step, if_neg (by simp [opens]), if_neg (by simp [inside]), if_pos closes]

/-- Inside a block a brace is open. -/
def Open (e : Extraction) : Prop := e.inside = true → 0 < e.depth

theorem open_advance {e : Extraction} (sound : Open e) (r : List Char) : Open (advance e r) := by
  unfold advance
  split
  · exact fun _ => Int.one_pos
  · split
    · exact sound
    · split
      next => exact fun inside => absurd inside (by simp)
      next stays => exact fun _ => by simpa using stays

theorem advance_nil {e : Extraction} (sound : Open e) : advance e [] = e := by
  have same : balance [] = 0 := rfl
  unfold advance
  rw [if_neg (by decide), same, Int.add_zero]
  cases inside : e.inside with
  | false => rw [if_pos rfl]
  | true =>
      have stays := sound inside
      rw [if_neg (by decide), if_neg (by omega)]
      obtain ⟨_, depth, current, found⟩ := e
      obtain rfl : _ = true := inside
      rfl

/-- **The extraction reads the rows of a document.** A line without a row leaves it as it was, so
lines and rows come to the same. -/
theorem extract_eq (text : String) :
    extract text = ((rows (lines text.toList)).foldl advance {}).found :=
  congrArg Extraction.found
    (foldl_rows Open step_eq_advance (fun _ r sound => open_advance sound r)
      (fun _ sound => advance_nil sound) _ fun inside => absurd inside (by decide))

theorem foldl_advance_outside {rs : List (List Char)} (opens : ∀ r ∈ rs, opensValidations r = false)
    {e : Extraction} (outside : e.inside = false) : rs.foldl advance e = e := by
  induction rs with
  | nil => rfl
  | cons r rs ih =>
      obtain ⟨first, opens⟩ := List.forall_mem_cons.mp opens
      have passed : advance e r = e := by
        rw [advance, if_neg (by simp [first]), if_pos outside]
      rw [List.foldl_cons, passed, ih opens]

/-- A row inside a block that leaves a brace open. -/
theorem advance_inside {r : List Char} (opens : opensValidations r = false) {depth : Int}
    (stays : 0 < depth + balance r) (current : Option String) (found : List (String × String)) :
    advance ⟨true, depth, current, found⟩ r =
      ⟨true, depth + balance r, (validationHeading? r).or current,
        record (predicateText? r) current found⟩ := by
  rw [advance, if_neg (by simp [opens]), if_neg (fun h => absurd h (by simp)),
    if_neg (by simpa using stays)]

/-! ## The rows of a validation -/

theorem opensValidations_of_notMem {r : List Char} (without : '\x7b' ∉ r) :
    opensValidations r = false := by
  by_contra opens
  have opens : opensValidations r = true := by simpa using opens
  unfold opensValidations at opens
  split at opens
  next rest found =>
    obtain ⟨blank, split⟩ := List.head?_eq_some_iff.mp (eq_of_beq opens)
    have here : '\x7b' ∈ skipAsciiBlanks rest := split ▸ List.mem_cons_self
    have here' : '\x7b' ∈ rest := (List.dropWhile_suffix _).subset here
    exact without ((dropWord?_eq_some_iff _ _ _).mp found ▸ List.mem_append_right _ here')
  next => exact absurd opens (by decide)

theorem predicateText?_row {a : Attribute} (here : a.kind = .validations) :
    predicateText? a.row = a.predicate? := by
  cases a with
  | requires c trimmed =>
      exact show predicateText? ("requires_capability".toList ++ _) = none from rfl
  | predicate p =>
      have quotes : '"' ∉ p.text.toList := fun here => p.plain _ here (by decide)
      exact (predicateText?_quoted p.nonempty quotes).trans (congrArg some String.ofList_toList)
  | _ => cases here

theorem advance_attribute {a : Attribute} (here : a.kind = .validations) (id : String)
    (found : List (String × String)) :
    advance ⟨true, 2, some id, found⟩ a.row =
      ⟨true, 2, some id, record a.predicate? (some id) found⟩ := by
  have plain := a.plain_row
  have opens := opensValidations_of_notMem fun brace => plain _ brace (by decide)
  have heading : validationHeading? a.row = none := validationReading.inside a here
  rw [advance_inside opens (by rw [balance_of_plain plain]; decide), balance_of_plain plain, heading,
    predicateText?_row here]
  rfl

theorem foldl_advance_attributes {as : List Attribute} (belong : ∀ a ∈ as, a.kind = .validations)
    (id : String) (found : List (String × String)) :
    (as.map Attribute.row).foldl advance ⟨true, 2, some id, found⟩ =
      ⟨true, 2, some id, as.foldl (fun found a => record a.predicate? (some id) found) found⟩ := by
  induction as generalizing found with
  | nil => rfl
  | cons a as ih =>
      obtain ⟨here, belong⟩ := List.forall_mem_cons.mp belong
      rw [List.map_cons, List.foldl_cons, advance_attribute here, ih belong, List.foldl_cons]

/-- The rows of a validation record its predicate. -/
theorem foldl_advance_block {b : Document.Block} (fits : b.Fits .validations)
    (current : Option String) (found : List (String × String)) :
    (b.rows .validations).foldl advance ⟨true, 1, current, found⟩ =
      ⟨true, 1, some b.id, b.predicate?.elim found (setValue b.id · found)⟩ := by
  have name := plain_of_name fits.named
  let head := "validate".toList ++ ' ' :: (b.id.toList ++ [' ', '\x7b'])
  have up : balance head = 1 := by
    have split : head = "validate ".toList ++ (b.id.toList ++ [' ', '\x7b']) := rfl
    rw [split, balance_append, balance_append, balance_of_plain name]
    decide
  have first : advance ⟨true, 1, current, found⟩ head = ⟨true, 2, some b.id, found⟩ := by
    have opens : opensValidations head = false := rfl
    have silent : predicateText? head = none := rfl
    have heading : validationHeading? head = some b.id := validationReading.head b.id fits.named
    rw [advance_inside opens (by rw [up]; decide), up, silent, heading]
    rfl
  have closes : ∀ found : List (String × String), advance ⟨true, 2, some b.id, found⟩ closing =
      ⟨true, 1, some b.id, found⟩ := fun _ => rfl
  have labelled : ∀ (a : Attribute) (p : String), a.predicate? = some p → a.label = "predicate" := by
    intro a p found
    cases a with
    | predicate p => rfl
    | _ => cases found
  have reads : ∀ a ∈ b.attributes, ∀ found, record a.predicate? (some b.id) found =
      a.predicate?.elim found (setValue b.id · found) := by
    intro a _ found
    cases a.predicate? <;> rfl
  show (head :: (b.attributes.map Attribute.row ++ [closing])).foldl advance _ = _
  rw [List.foldl_cons, first, List.foldl_append, foldl_advance_attributes fits.belong,
    foldl_once labelled reads fits.once, List.foldl_cons, closes]
  rfl

/-! ## The rows of a document -/

theorem setValue_of_notMem {key : String} {found : List (String × String)}
    (new : key ∉ found.map Prod.fst) (value : String) :
    setValue key value found = found ++ [(key, value)] := by
  induction found with
  | nil => rfl
  | cons entry found ih =>
      obtain ⟨other, new⟩ := not_or.mp (mt List.mem_cons.mpr new)
      rw [setValue, if_neg (Ne.symm other), ih new]
      rfl

/-- The predicates of some blocks, each under its validation. -/
def declared (bs : List Document.Block) : List (String × String) :=
  bs.filterMap fun b => b.predicate?.map (b.id, ·)

theorem declared_append (bs bs' : List Document.Block) :
    declared (bs ++ bs') = declared bs ++ declared bs' := List.filterMap_append

theorem sublist_declared (bs : List Document.Block) :
    ((declared bs).map Prod.fst).Sublist (bs.map (·.id)) := by
  induction bs with
  | nil => exact .slnil
  | cons b bs ih =>
      unfold declared
      rw [List.filterMap_cons]
      cases b.predicate? with
      | none => exact ih.cons _
      | some p => exact ih.cons_cons _

/-- What is found keeps clear of validations that are still to come. -/
theorem nodup_append_declared {found : List (String × String)} {bs bs' : List Document.Block}
    (distinct : (found.map Prod.fst ++ (bs ++ bs').map (·.id)).Nodup) :
    ((found ++ declared bs).map Prod.fst ++ bs'.map (·.id)).Nodup := by
  rw [List.map_append, ← List.append_assoc] at distinct
  rw [List.map_append]
  exact distinct.sublist
    (((List.Sublist.refl _).append (sublist_declared bs)).append (List.Sublist.refl _))

theorem foldl_advance_blocks {bs : List Document.Block} (fits : ∀ b ∈ bs, b.Fits .validations)
    {found : List (String × String)} (distinct : (found.map Prod.fst ++ bs.map (·.id)).Nodup)
    (current : Option String) :
    ∃ current', (bs.flatMap (Block.rows .validations)).foldl advance ⟨true, 1, current, found⟩ =
      ⟨true, 1, current', found ++ declared bs⟩ := by
  induction bs generalizing found current with
  | nil => exact ⟨current, by rw [declared, List.filterMap_nil, List.append_nil]; rfl⟩
  | cons b bs ih =>
      obtain ⟨here, fits⟩ := List.forall_mem_cons.mp fits
      have new : b.id ∉ found.map Prod.fst := notMem_of_nodup_append distinct
      have one : b.predicate?.elim found (setValue b.id · found) = found ++ declared [b] := by
        unfold declared
        cases predicate : b.predicate? with
        | none => simp [predicate]
        | some p =>
            have set := setValue_of_notMem new p
            simpa [predicate] using set
      have distinct' : ((found ++ declared [b]).map Prod.fst ++ bs.map (·.id)).Nodup :=
        nodup_append_declared distinct
      obtain ⟨current', rest⟩ := ih fits distinct' (some b.id)
      refine ⟨current', ?_⟩
      rw [List.flatMap_cons, List.foldl_append, foldl_advance_block here, one, rest,
        List.append_assoc, ← declared_append]
      rfl

/-- No row of another section opens a block. -/
theorem opensValidations_of_mem_part {part : Part} (other : part.kind ≠ .validations) :
    ∀ r ∈ part.rows, opensValidations r = false := by
  have blocks : ∀ b ∈ part.blocks, ∀ r ∈ b.rows part.kind, opensValidations r = false := by
    intro b hb r hr
    have name := SectionKind.hyphenated_of_admits (part.fits b hb).named
    unfold Block.rows at hr
    cases keyword : part.kind.keyword? with
    | none =>
        rw [keyword] at hr
        obtain rfl := List.mem_singleton.mp hr
        exact opensValidations_of_notMem (notMem_of_name name (by decide))
    | some word =>
        rw [keyword] at hr
        rcases List.mem_cons.mp hr with rfl | hr
        · revert keyword other
          cases part.kind <;> intro other keyword <;> cases keyword <;> rfl
        · rcases List.mem_append.mp hr with hr | hr
          · obtain ⟨a, -, rfl⟩ := List.mem_map.mp hr
            exact opensValidations_of_notMem fun brace => a.plain_row _ brace (by decide)
          · obtain rfl := List.mem_singleton.mp hr
            rfl
  have opening : opensValidations (part.kind.name.toList ++ [' ', '\x7b']) = false := by
    revert other
    cases part.kind <;> intro other <;> first | rfl | exact absurd rfl other
  refine List.forall_mem_cons.mpr ⟨opening, List.forall_mem_append.mpr ⟨fun r hr => ?_, ?_⟩⟩
  · obtain ⟨b, hb, hr⟩ := List.mem_flatMap.mp hr
    exact blocks b hb r hr
  · exact List.forall_mem_singleton.mpr rfl

/-- The rows of a section add the predicates of its validations, if it has validations. -/
theorem foldl_advance_part (part : Part) {e : Extraction} (outside : e.inside = false)
    (distinct : part.kind = .validations →
      (e.found.map Prod.fst ++ part.blocks.map (·.id)).Nodup) :
    (part.rows.foldl advance e).inside = false ∧ (part.rows.foldl advance e).found =
      if part.kind = .validations then e.found ++ declared part.blocks else e.found := by
  by_cases same : part.kind = .validations
  · have opens : advance e ("validations".toList ++ [' ', '\x7b']) =
        ⟨true, 1, e.current, e.found⟩ := rfl
    obtain ⟨current, blocks⟩ := foldl_advance_blocks (same ▸ part.fits) (distinct same) e.current
    have rows : part.rows.foldl advance e = ⟨false, 0, none, e.found ++ declared part.blocks⟩ := by
      unfold Part.rows
      rw [same, List.foldl_cons, show SectionKind.validations.name = "validations" from rfl, opens,
        List.foldl_append, blocks]
      rfl
    rw [rows, if_pos same]
    exact ⟨rfl, rfl⟩
  · rw [foldl_advance_outside (opensValidations_of_mem_part same) outside, if_neg same]
    exact ⟨outside, rfl⟩

theorem foldl_advance_parts {parts : List Part} {e : Extraction} (outside : e.inside = false)
    (distinct : (e.found.map Prod.fst ++ (blocksOf .validations parts).map (·.id)).Nodup) :
    ((parts.flatMap Part.rows).foldl advance e).inside = false ∧
      ((parts.flatMap Part.rows).foldl advance e).found =
        e.found ++ declared (blocksOf .validations parts) := by
  induction parts generalizing e with
  | nil => exact ⟨outside, (List.append_nil _).symm⟩
  | cons part parts ih =>
      rw [List.flatMap_cons, List.foldl_append]
      by_cases same : part.kind = .validations
      · rw [blocksOf_cons_of_eq same] at distinct ⊢
        have first : (e.found.map Prod.fst ++ part.blocks.map (·.id)).Nodup := by
          rw [List.map_append, ← List.append_assoc] at distinct
          exact (List.nodup_append.mp distinct).1
        obtain ⟨outside', found⟩ := foldl_advance_part part outside fun _ => first
        rw [if_pos same] at found
        have rest := ih outside' (found ▸ nodup_append_declared distinct)
        rwa [found, List.append_assoc, ← declared_append] at rest
      · rw [blocksOf_cons_of_ne same] at distinct ⊢
        obtain ⟨outside', found⟩ := foldl_advance_part part outside fun h => absurd h same
        rw [if_neg same] at found
        have rest := ih outside' (found ▸ distinct)
        rwa [found] at rest

/-- **The extraction finds the predicates of an outline**, in the order of their validations. -/
theorem extract_of_rows {outline : Outline} {text : String}
    (shown : rows (lines text.toList) = outline.rows) : extract text = outline.predicates := by
  have version : advance {} "DIL:spec v0".toList = {} := rfl
  have opening : advance {} outline.opening = {} := by
    have opens : opensValidations outline.opening = false :=
      show opensValidations ("system".toList ++ _) = false from rfl
    rw [advance, if_neg (by simp [opens]), if_pos rfl]
  have distinct : ((outline.blocks .validations).map (·.id)).Nodup := nodup_ids outline (by decide)
  obtain ⟨outside, found⟩ := @foldl_advance_parts outline.parts {} rfl distinct
  have closes : ∀ e : Extraction, e.inside = false → advance e closing = e := fun e outside => by
    rw [advance, if_neg (by decide), if_pos outside]
  rw [extract_eq, shown, Outline.rows, List.foldl_cons, version, List.foldl_cons, opening,
    List.foldl_append, List.foldl_cons, List.foldl_nil, closes _ outside, found]
  rfl

end IntentSpec.Predicate
