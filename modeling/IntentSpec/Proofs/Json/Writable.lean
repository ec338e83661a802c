import IntentSpec.Proofs.Json.Throughout
import IntentSpec.Proofs.Text.Numeral

/-!
# Values that can be written

A value has a text exactly when its integers do (`Writable`), and then its text is its spelling.  The printer
goes through a value in the same way in which its spelling is put together, so this is one induction
(`gives_chars`): an array or an object is attempted part by part, and what is between the parts does not fail.

Whether a value can be written depends on its integers and on nothing else.  So it does not matter for it in
which order the members of objects stand, and a value and its sorted form can be written under one condition
(`writable_sortKeys_iff`).  This is what lets the sort key of a violation and the text of a receipt be treated
alike: both are the text of a sorted value.

* `Writable` — every integer in the value has few enough digits.
* `gives_chars`, `gives_render` — the printer gives the spelling of the writable values.
* `gives_compactText`, `gives_indentedText` — the two texts of sorted values.
-/

namespace IntentSpec.Json

open Text (NumeralError)

/-- Every integer in the value is short enough to be written. -/
def Writable (v : Json) : Prop := v.Throughout Text.Writable (fun _ => True) fun _ => True

/-! ## The printer and the spelling -/

/-- A member as the printer attempts it. -/
def attemptMember (style : Style) (depth : Nat) (m : String × Json) : Except NumeralError (List Char) := do
  let value ← m.2.chars style depth
  return quote style.ascii m.1 ++ (style.colon.toList ++ value)

theorem charsItems_eq (style : Style) (depth : Nat) (items : List Json) :
    charsItems style depth items =
      items.mapM (chars style depth) >>= fun all => .ok (followed (style.lead depth) all) := by
  induction items with
  | nil =>
      rw [charsItems]
      rfl
  | cons item items ih =>
      rw [charsItems, ih, List.mapM_cons]
      cases item.chars style depth with
      | error e => rfl
      | ok first => cases items.mapM (chars style depth) <;> rfl

theorem charsMembers_eq (style : Style) (depth : Nat) (members : List (String × Json)) :
    charsMembers style depth members =
      members.mapM (attemptMember style depth) >>= fun all => .ok (followed (style.lead depth) all) := by
  induction members with
  | nil =>
      rw [charsMembers]
      rfl
  | cons m members ih =>
      rw [charsMembers, ih, List.mapM_cons, attemptMember]
      cases m.2.chars style depth with
      | error e => rfl
      | ok first =>
          cases members.mapM (attemptMember style depth) with
          | error e => rfl
          | ok all => simp [followed, Style.lead, bind, Except.bind, pure, Except.pure]

theorem chars_array (style : Style) (depth : Nat) (items : List Json) :
    (array items).chars style depth =
      items.mapM (chars style (depth + 1)) >>= fun all => .ok (enclosed style depth '[' ']' all) := by
  cases items with
  | nil =>
      rw [chars]
      rfl
  | cons item items =>
      rw [chars, charsItems_eq, List.mapM_cons]
      cases item.chars style (depth + 1) with
      | error e => rfl
      | ok first =>
          cases items.mapM (chars style (depth + 1)) with
          | error e => rfl
          | ok all => simp [enclosed, Style.close, bind, Except.bind, pure, Except.pure]

theorem chars_object (style : Style) (depth : Nat) (members : List (String × Json)) :
    (object members).chars style depth =
      members.mapM (attemptMember style (depth + 1)) >>= fun all =>
        .ok (enclosed style depth '\x7b' '\x7d' all) := by
  cases members with
  | nil =>
      rw [chars]
      rfl
  | cons m members =>
      rw [chars, charsMembers_eq, List.mapM_cons, attemptMember]
      cases m.2.chars style (depth + 1) with
      | error e => rfl
      | ok first =>
          cases members.mapM (attemptMember style (depth + 1)) with
          | error e => rfl
          | ok all => simp [enclosed, Style.close, bind, Except.bind, pure, Except.pure]

theorem writable_int_iff (n : Int) : (int n).Writable ↔ Text.Writable n :=
  ⟨fun | .int holds => holds, .int⟩

theorem writable_array_iff (items : List Json) : (array items).Writable ↔ ∀ v ∈ items, v.Writable :=
  throughout_array_iff items

theorem writable_object_iff (members : List (String × Json)) :
    (object members).Writable ↔ ∀ m ∈ members, m.2.Writable :=
  (throughout_object_iff members).trans (and_iff_right trivial)

/-- **The printer gives the spelling of the writable values**, in every style and at every depth.
Whether a value is writable thus does not depend on the style. -/
theorem gives_chars (style : Style) (v : Json) (depth : Nat) :
    Gives (v.chars style depth) .unwritable v.Writable (v.spelled style depth) := by
  induction v using written_induction generalizing depth with
  | word v word written =>
      rw [spelled_of_wordOf? written]
      cases v with
      | null =>
          obtain rfl := Option.some.inj written
          rw [chars]
          exact .of_holds .null
      | bool b =>
          cases b with
          | _ =>
              obtain rfl := Option.some.inj written
              rw [chars]
              exact .of_holds (.bool _)
      | int n =>
          obtain rfl := Option.some.inj written
          rw [chars]
          exact ((Text.gives_writeInteger n).map _).congr (writable_int_iff n).symm
      | number x =>
          obtain rfl := Option.some.inj written
          rw [chars]
          exact .of_holds (.number trivial)
      | _ => exact absurd written (by simp [wordOf?])
  | text s =>
      rw [chars, spelled]
      exact .of_holds (.text s)
  | array items ih =>
      rw [chars_array, spelled_array]
      exact ((Gives.mapM fun v here => ih v here (depth + 1)).map _).congr (writable_array_iff items).symm
  | object members ih =>
      rw [chars_object, spelled_object]
      have each : ∀ m ∈ members, Gives (attemptMember style (depth + 1) m) .unwritable m.2.Writable
          (spelledMember style (depth + 1) m) := fun m here => (ih m here (depth + 1)).map _
      exact ((Gives.mapM each).map _).congr (writable_object_iff members).symm

theorem gives_render (style : Style) (v : Json) :
    Gives (v.render style) .unwritable v.Writable (v.spelling style) :=
  (gives_chars style v 0).map _

/-! ## Arranged values -/

/-- A value can be written exactly when its sorted form can. -/
theorem writable_sortKeys_iff (v : Json) : v.sortKeys.Writable ↔ v.Writable := by
  induction v using written_induction with
  | word v word written => cases v <;> first | rfl | exact absurd written (by simp [wordOf?])
  | text s => rw [sortKeys_text]
  | array items ih =>
      rw [sortKeys_array, writable_array_iff, writable_array_iff, List.forall_mem_map]
      exact forall₂_congr ih
  | object members ih =>
      rw [sortKeys_object, writable_object_iff, writable_object_iff]
      simp only [(sortBy_perm _).mem_iff, List.forall_mem_map]
      exact forall₂_congr ih

theorem Rearranged.writable_iff {v w : Json} (h : Rearranged v w) : v.Writable ↔ w.Writable := by
  rw [← writable_sortKeys_iff v, h.sortKeys_eq, writable_sortKeys_iff]

theorem gives_compactText (v : Json) :
    Gives v.compactText .unwritable v.Writable (v.sortKeys.spelling .compact) :=
  (gives_render .compact v.sortKeys).congr (writable_sortKeys_iff v)

theorem gives_indentedText (v : Json) :
    Gives v.indentedText .unwritable v.Writable (v.sortKeys.spelling .lined) :=
  (gives_render .lined v.sortKeys).congr (writable_sortKeys_iff v)

theorem writable_texts (l : List String) : (texts l).Writable := throughout_texts l

end IntentSpec.Json
