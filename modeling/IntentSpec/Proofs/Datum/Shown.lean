import IntentSpec.Datum.Shown
import IntentSpec.Proofs.Json.Word
import IntentSpec.Proofs.Text.Numeral

/-!
# Names of fields among values that are shown

A value is shown if every integer in it is short enough (`Datum.Writable`), and then in its spelling, which is
said here for all values (`Datum.gives_shown`).  The keys of a mapping and the places in a tree are such texts, so
every walk over values of unknown size asks this condition of the keys that it meets.

The keys of a mapping are compared with the names of fields as they are shown.  A value that is no text
is shown with a digit, a sign, a bracket, a quotation mark or a capital, or as one of a few words; a name
of a field has only small letters and underscores and is none of those words.

* `Datum.Writable` — the values that can be shown.
* `Datum.spelled`, `Datum.label` — what they are shown as, and in running text.
* `Datum.isFieldName` — the names of fields.
* `Datum.eq_text_of_label` — only the text itself is shown as the name of a field.
-/

namespace IntentSpec

namespace Datum

/-! ## The values that can be shown -/

/-- Every integer in the value is short enough to be written. -/
inductive Writable : Datum → Prop
  | null : Writable .null
  | bool (b : Bool) : Writable (.bool b)
  | int {n : Int} (short : Text.Writable n) : Writable (.int n)
  | number (x : Binary64) : Writable (.number x)
  | text (s : String) : Writable (.text s)
  | bytes (b : List UInt8) : Writable (.bytes b)
  /-- The numbers in a point in time are never long. -/
  | moment (m : Moment) : Writable (.moment m)
  | list {items : List Datum} (each : ∀ d ∈ items, Writable d) : Writable (.list items)
  | tuple {items : List Datum} (each : ∀ d ∈ items, Writable d) : Writable (.tuple items)
  | mapping {entries : List (Datum × Datum)} (keys : ∀ e ∈ entries, Writable e.1)
      (values : ∀ e ∈ entries, Writable e.2) : Writable (.mapping entries)
  | record (type : String) {fields : List (String × Datum)} (each : ∀ f ∈ fields, Writable f.2) :
      Writable (.record type fields)

theorem writable_int_iff (n : Int) : (int n).Writable ↔ Text.Writable n := ⟨fun | .int short => short, .int⟩

theorem writable_list_iff (items : List Datum) : (list items).Writable ↔ ∀ d ∈ items, d.Writable :=
  ⟨fun | .list each => each, .list⟩

theorem writable_tuple_iff (items : List Datum) : (tuple items).Writable ↔ ∀ d ∈ items, d.Writable :=
  ⟨fun | .tuple each => each, .tuple⟩

theorem writable_mapping_iff (entries : List (Datum × Datum)) :
    (mapping entries).Writable ↔ ∀ e ∈ entries, e.1.Writable ∧ e.2.Writable :=
  ⟨fun | .mapping keys values => fun e here => ⟨keys e here, values e here⟩,
    fun both => .mapping (fun e here => (both e here).1) fun e here => (both e here).2⟩

theorem writable_record_iff (type : String) (fields : List (String × Datum)) :
    (record type fields).Writable ↔ ∀ f ∈ fields, f.2.Writable :=
  ⟨fun | .record _ each => each, .record type⟩

mutual

/-- The form of a value in a message, with integers of any length. -/
def spelled : Datum → String
  | null => "None"
  | bool true => "True"
  | bool false => "False"
  | int n => toString n
  | number x => x.toText
  | text s => Text.quoted s
  | bytes b => shownBytes b
  | moment m => m.shown
  | list items => "[" ++ ", ".intercalate (spelledItems items) ++ "]"
  | tuple [item] => "(" ++ spelled item ++ ",)"
  | tuple items => "(" ++ ", ".intercalate (spelledItems items) ++ ")"
  | mapping entries => "\x7b" ++ ", ".intercalate (spelledEntries entries) ++ "\x7d"
  | record type fields => type ++ "(" ++ ", ".intercalate (spelledFields fields) ++ ")"

/-- The forms of several values. -/
def spelledItems : List Datum → List String
  | [] => []
  | item :: items => spelled item :: spelledItems items

/-- The forms of the entries of a mapping. -/
def spelledEntries : List (Datum × Datum) → List String
  | [] => []
  | (key, value) :: entries => (spelled key ++ ": " ++ spelled value) :: spelledEntries entries

/-- The forms of the fields of a record. -/
def spelledFields : List (String × Datum) → List String
  | [] => []
  | (name, value) :: fields => (name ++ "=" ++ spelled value) :: spelledFields fields

end

mutual

/-- **A value is shown in its spelling, if it can be written.** -/
theorem gives_shown : ∀ d : Datum, Gives d.shown .unwritable d.Writable d.spelled
  | null => by
      rw [shown, spelled]
      exact .of_holds .null
  | bool true => by
      rw [shown, spelled]
      exact .of_holds (.bool _)
  | bool false => by
      rw [shown, spelled]
      exact .of_holds (.bool _)
  | int n => by
      rw [shown, spelled]
      exact (Text.gives_writeInteger n).congr (writable_int_iff n).symm
  | number x => by
      rw [shown, spelled]
      exact .of_holds (.number x)
  | text s => by
      rw [shown, spelled]
      exact .of_holds (.text s)
  | bytes b => by
      rw [shown, spelled]
      exact .of_holds (.bytes b)
  | moment m => by
      rw [shown, spelled]
      exact .of_holds (.moment m)
  | list items => by
      rw [shown, spelled]
      exact ((gives_shownItems items).map _).congr (writable_list_iff items).symm
  | tuple [] => by
      rw [shown, spelled, shownItems, spelledItems]
      · exact .of_holds (.tuple (List.forall_mem_nil _))
      · rintro item ⟨⟩
      · rintro item ⟨⟩
  | tuple [item] => by
      rw [shown, spelled]
      refine ((gives_shown item).map _).congr ?_
      rw [writable_tuple_iff, List.forall_mem_singleton]
  | tuple (item :: other :: items) => by
      rw [shown, spelled]
      · exact ((gives_shownItems (item :: other :: items)).map _).congr (writable_tuple_iff _).symm
      · rintro only ⟨⟩
      · rintro only ⟨⟩
  | mapping entries => by
      rw [shown, spelled]
      exact ((gives_shownEntries entries).map _).congr (writable_mapping_iff entries).symm
  | record type fields => by
      rw [shown, spelled]
      exact ((gives_shownFields fields).map _).congr (writable_record_iff type fields).symm

theorem gives_shownItems : ∀ items : List Datum,
    Gives (shownItems items) .unwritable (∀ d ∈ items, d.Writable) (spelledItems items)
  | [] => .of_holds (List.forall_mem_nil _)
  | item :: items => by
      rw [shownItems, spelledItems, List.forall_mem_cons]
      exact (gives_shown item).bind ((gives_shownItems items).map _)

theorem gives_shownEntries : ∀ entries : List (Datum × Datum),
    Gives (shownEntries entries) .unwritable (∀ e ∈ entries, e.1.Writable ∧ e.2.Writable)
      (spelledEntries entries)
  | [] => .of_holds (List.forall_mem_nil _)
  | (key, value) :: entries => by
      rw [shownEntries, spelledEntries, List.forall_mem_cons, and_assoc]
      exact (gives_shown key).bind ((gives_shown value).bind ((gives_shownEntries entries).map _))

theorem gives_shownFields : ∀ fields : List (String × Datum),
    Gives (shownFields fields) .unwritable (∀ f ∈ fields, f.2.Writable) (spelledFields fields)
  | [] => .of_holds (List.forall_mem_nil _)
  | (name, value) :: fields => by
      rw [shownFields, spelledFields, List.forall_mem_cons]
      exact (gives_shown value).bind ((gives_shownFields fields).map _)

end

/-- The form of a value in running text, with integers of any length. -/
def label : Datum → String
  | text s => s
  | moment m => m.plain
  | d => d.spelled

theorem gives_plain (d : Datum) : Gives d.plain .unwritable d.Writable d.label := by
  cases d with
  | text s => exact .of_holds (.text s)
  | moment m => exact .of_holds (.moment m)
  | _ => exact gives_shown _

/-! ## Names of fields -/

/-- A character of a name of a field. -/
def isFieldChar (c : Char) : Bool := (97 ≤ c.toNat && c.toNat ≤ 122) || c == '_'

/-- The words of such characters in which values are shown that are no texts. -/
def shownWords : List String := ["nan", "inf"]

/-- A name of a field can be told from whatever other values are shown as. -/
def isFieldName (s : String) : Bool := s.toList.all isFieldChar && !shownWords.contains s

/-- Some character is none of a name of a field. -/
def Marked (l : List Char) : Prop := ∃ c ∈ l, isFieldChar c = false

theorem Marked.of_mem {c : Char} {l : List Char} (here : c ∈ l) (other : isFieldChar c = false) :
    Marked l :=
  ⟨c, here, other⟩

theorem Marked.left {l : List Char} (marked : Marked l) (l' : List Char) : Marked (l ++ l') := by
  obtain ⟨c, here, other⟩ := marked
  exact .of_mem (List.mem_append_left l' here) other

theorem Marked.right {l' : List Char} (marked : Marked l') (l : List Char) : Marked (l ++ l') := by
  obtain ⟨c, here, other⟩ := marked
  exact .of_mem (List.mem_append_right l here) other

theorem marked_nat (n : Nat) : Marked (toString n).toList := by
  obtain ⟨c, here⟩ := List.exists_mem_of_ne_nil _ (isWord_nat n).nonempty
  refine .of_mem here ?_
  change c ∈ n.repr.toList at here
  rw [Nat.toList_repr] at here
  have digit : 48 ≤ c.val ∧ c.val ≤ 57 := by
    simpa [Char.isDigit] using Nat.isDigit_of_mem_toDigits (by decide) (by decide) here
  have high : c.toNat ≤ 57 := digit.2
  have other : c ≠ '_' := by
    rintro rfl
    exact absurd high (by decide)
  simp only [isFieldChar, beq_false_of_ne other, Bool.or_false, Bool.and_eq_false_iff,
    decide_eq_false_iff_not]
  omega

theorem marked_int (n : Int) : Marked (toString n).toList := by
  cases n with
  | ofNat n => exact marked_nat n
  | negSucc n => exact .of_mem (c := '-') (by simp [toString, Int.repr]) rfl

/-- Digits around a point have the point, and those with an exponent have its sign. -/
theorem marked_layout (digits : List Char) (point : Int) : Marked (Binary64.layout digits point) := by
  unfold Binary64.layout
  split
  · refine Marked.right ?_ _
    by_cases negative : point < 0
    · exact .of_mem (c := '-') (by simp [negative]) rfl
    · exact .of_mem (c := '+') (by simp [negative]) rfl
  · split
    · exact .of_mem (c := '.') (by simp) rfl
    · dsimp only
      split
      · exact .of_mem (c := '.') (by simp) rfl
      · exact .of_mem (c := '.') (by simp) rfl

theorem marked_toText (x : Binary64) : Marked x.toText.toList ∨ x.toText ∈ shownWords := by
  unfold Binary64.toText Binary64.render
  extract_lets sign
  by_cases notNumber : x.isNaN = true
  · rw [if_pos notNumber]
    exact .inr (by decide)
  · rw [if_neg notNumber]
    by_cases infinite : (!x.isFinite) = true
    · rw [if_pos infinite]
      by_cases negative : x.negative = true
      · exact .inl (.of_mem (c := '-') (by simp [sign, negative]) rfl)
      · exact .inr (by simp [sign, negative, shownWords])
    · rw [if_neg infinite]
      refine .inl ?_
      by_cases zero : x.isZero = true
      · rw [if_pos zero, String.toList_append]
        exact Marked.right (.of_mem (c := '.') (by decide) rfl) _
      · rw [if_neg zero, String.toList_append, String.toList_ofList]
        exact (marked_layout _ _).right _

theorem marked_intercalate {c : Char} {separator : String} (here : c ∈ separator.toList)
    (other : isFieldChar c = false) (first second : String) (rest : List String) :
    Marked (separator.intercalate (first :: second :: rest)).toList := by
  refine .of_mem ?_ other
  rw [String.toList_intercalate]
  simp [here]

/-- A point in time is shown with hyphens, with colons or with a blank. -/
theorem marked_moment (m : Moment) : Marked m.plain.toList := by
  have ofDay (day : Day) : Marked day.plain.toList :=
    marked_intercalate (c := '-') (by decide) rfl _ _ _
  have ofTime (t : TimeOfDay) : Marked t.plain.toList := by
    unfold TimeOfDay.plain
    rw [String.toList_append]
    exact (marked_intercalate (c := ':') (by decide) rfl _ _ _).left _
  cases m with
  | date day => exact ofDay day
  | time t => exact ofTime t
  | datetime day t ahead =>
      unfold Moment.plain
      rw [String.toList_append, String.toList_append, String.toList_append, List.append_assoc,
        List.append_assoc]
      exact (ofDay day).left _

/-- What is no text is shown with a character that no name of a field has, or as one of the words that
are none. -/
theorem marked_label {d : Datum} (other : ∀ s, d ≠ .text s) :
    Marked d.label.toList ∨ d.label ∈ shownWords := by
  cases d with
  | null => exact .inl (.of_mem (c := 'N') (by decide) rfl)
  | bool b =>
      cases b with
      | false => exact .inl (.of_mem (c := 'F') (by decide) rfl)
      | true => exact .inl (.of_mem (c := 'T') (by decide) rfl)
  | int n => exact .inl (marked_int n)
  | number x => exact marked_toText x
  | text s => exact absurd rfl (other s)
  | bytes b =>
      refine .inl (.of_mem (c := Text.quotationMark (b.map fun byte => Char.ofNat byte.toNat)) ?_ ?_)
      · simp [label, spelled, shownBytes]
      · unfold Text.quotationMark
        split <;> rfl
  | moment m => exact .inl (marked_moment m)
  | list items => exact .inl (.of_mem (c := '[') (by simp [label, spelled]) rfl)
  | tuple items =>
      refine .inl (.of_mem (c := '(') ?_ rfl)
      rcases items with _ | ⟨first, _ | ⟨second, rest⟩⟩ <;> simp [label, spelled]
  | mapping entries => exact .inl (.of_mem (c := '\x7b') (by simp [label, spelled]) rfl)
  | record type fields => exact .inl (.of_mem (c := '(') (by simp [label, spelled]) rfl)

/-- Only the text itself is shown as the name of a field. -/
theorem eq_text_of_label {d : Datum} {name : String} (isName : isFieldName name = true)
    (shows : d.label = name) : d = .text name := by
  by_cases isText : ∃ s, d = .text s
  · obtain ⟨s, rfl⟩ := isText
    exact congrArg Datum.text shows
  · exfalso
    rw [← shows, isFieldName, Bool.and_eq_true] at isName
    rcases marked_label (not_exists.mp isText) with ⟨c, here, mark⟩ | word
    · exact absurd (List.all_eq_true.mp isName.1 c here) (by simp [mark])
    · simp [word] at isName

end Datum

end IntentSpec
