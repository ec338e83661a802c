import IntentSpec.Proofs.Json.Throughout

/-!
# Plain values

A plain value holds no floating-point number, and none of its objects has two members of one key.
Its text tells everything about it: a value that is not plain may share the word `NaN` with others, but
no two plain values are written alike.  Sorting the members first forgets their order and nothing else.

* `Plain` — null, truth values, integers, texts, and what arrays and objects build from them.
* `Alike.eq_of_plain` — plain values that are written alike are the same.
* `rearranged_iff` — what sorting forgets is the arrangement of objects.
* `spelling_sortKeys_eq_iff` — the text of a sorted value means one value up to the order of members.
-/

namespace IntentSpec.Json

/-- The value is built from null, truth values, integers and texts, by arrays and by objects with
distinct keys. -/
def Plain (v : Json) : Prop := v.Throughout (fun _ => True) (fun _ => False) List.Nodup

/-! ## Plain values that are written alike -/

/-- A natural number is written by digits. -/
theorem isDigit_of_mem_nat {n : Nat} {c : Char} (here : c ∈ n.repr.toList) : c.isDigit = true := by
  rw [Nat.toList_repr] at here
  exact Nat.isDigit_of_mem_toDigits (by decide) (by decide) here

/-- An integer is written by digits, behind a sign or behind none. -/
theorem digit_or_sign_of_mem_int {n : Int} {c : Char} (here : c ∈ (toString n).toList) :
    c.isDigit = true ∨ c = '-' := by
  cases n with
  | ofNat m => exact Or.inl (isDigit_of_mem_nat (n := m) here)
  | negSucc m =>
      change c ∈ ("-" ++ (m + 1).repr).toList at here
      rw [String.toList_append, List.mem_append] at here
      rcases here with sign | inside
      · exact Or.inr (List.mem_singleton.mp sign)
      · exact Or.inl (isDigit_of_mem_nat inside)

theorem nat_eq_of_digits {n m : Nat} (same : n.repr.toList = m.repr.toList) : n = m := by
  rw [Nat.toList_repr, Nat.toList_repr] at same
  rw [← @Nat.ofDigitChars_ten_toDigits n, ← @Nat.ofDigitChars_ten_toDigits m, same]

/-- Different integers are written differently. -/
theorem int_eq_of_chars {n m : Int} (same : (toString n).toList = (toString m).toList) : n = m := by
  have signed : ∀ k l : Nat, k.repr.toList ≠ ("-" ++ (l + 1).repr).toList := by
    intro k l equal
    have sign : '-' ∈ k.repr.toList := by
      rw [equal, String.toList_append]
      exact List.mem_cons_self
    exact absurd (isDigit_of_mem_nat sign) (by decide)
  cases n with
  | ofNat n =>
      cases m with
      | ofNat m => exact congrArg Int.ofNat (nat_eq_of_digits same)
      | negSucc m => exact absurd same (signed n m)
  | negSucc n =>
      cases m with
      | ofNat m => exact absurd same.symm (signed m n)
      | negSucc m =>
          change ("-" ++ (n + 1).repr).toList = ("-" ++ (m + 1).repr).toList at same
          rw [String.toList_append, String.toList_append] at same
          have digits := nat_eq_of_digits (List.append_cancel_left same)
          exact congrArg Int.negSucc (Nat.succ.inj digits)

/-- A word with a letter in it is no integer. -/
theorem int_ne_of_letter {n : Int} {word : List Char} {c : Char} (here : c ∈ word)
    (letter : c.isDigit = false ∧ c ≠ '-') : (toString n).toList ≠ word := by
  rintro rfl
  rcases digit_or_sign_of_mem_int here with digit | sign
  · exact absurd digit (by simp [letter.1])
  · exact letter.2 sign

/-- **No two plain values share a word.** -/
theorem eq_of_wordOf? {v w : Json} (plain : v.Plain) (plain' : w.Plain) {word : List Char}
    (hv : v.wordOf? = some word) (hw : w.wordOf? = some word) : v = w := by
  have same : v.wordOf? = w.wordOf? := hv.trans hw.symm
  have nullLetter : 'l'.isDigit = false ∧ 'l' ≠ '-' := by decide
  have boolLetter : 'e'.isDigit = false ∧ 'e' ≠ '-' := by decide
  have notNull : ∀ n : Int, (toString n).toList ≠ "null".toList := fun n =>
    int_ne_of_letter (c := 'l') (by decide) nullLetter
  have notBool : ∀ (n : Int) (b : Bool), (int n).wordOf? ≠ (bool b).wordOf? := by
    intro n b equal
    cases b with
    | false => exact int_ne_of_letter (c := 'e') (by decide) boolLetter (Option.some.inj equal)
    | true => exact int_ne_of_letter (c := 'e') (by decide) boolLetter (Option.some.inj equal)
  cases plain with
  | null =>
      cases plain' with
      | null => rfl
      | bool b => cases b <;> exact absurd same (by decide)
      | @int n _ => exact absurd (Option.some.inj same).symm (notNull n)
      | number holds => exact holds.elim
      | _ => exact absurd hw (by simp [wordOf?])
  | bool b =>
      cases plain' with
      | null => cases b <;> exact absurd same (by decide)
      | bool b' => cases b <;> cases b' <;> first | rfl | exact absurd same (by decide)
      | @int n _ => exact absurd same.symm (notBool n b)
      | number holds => exact holds.elim
      | _ => exact absurd hw (by simp [wordOf?])
  | @int n _ =>
      cases plain' with
      | null => exact absurd (Option.some.inj same) (notNull n)
      | bool b => exact absurd same (notBool n b)
      | @int m _ => exact congrArg int (int_eq_of_chars (Option.some.inj same))
      | number holds => exact holds.elim
      | _ => exact absurd hw (by simp [wordOf?])
  | number holds => exact holds.elim
  | _ => exact absurd hv (by simp [wordOf?])

theorem eq_of_forall₂ {α : Type} {R : α → α → Prop} {l l' : List α} (h : List.Forall₂ R l l')
    (equal : ∀ a ∈ l, ∀ b ∈ l', R a b → a = b) : l = l' := by
  induction h with
  | nil => rfl
  | @cons a b l l' first _ ih =>
      have heads : a = b := equal a List.mem_cons_self b List.mem_cons_self first
      have tails : l = l' := ih fun a ha b hb =>
        equal a (List.mem_cons_of_mem _ ha) b (List.mem_cons_of_mem _ hb)
      rw [heads, tails]

theorem Alike.mark_eq {v w : Json} (alike : Alike v w) : v.mark = w.mark :=
  mark_eq_of_append_eq (congrArg (· ++ []) (alike .compact 0))

/-- **Plain values that are written alike are the same.** Only floating-point numbers could share a
word with something else. -/
theorem Alike.eq_of_plain {v w : Json} (alike : Alike v w) (plain : v.Plain) (plain' : w.Plain) :
    v = w := by
  -- The mark leaves two words, two texts, two arrays or two objects.
  induction v using written_induction generalizing w with
  | word v word hv =>
      obtain ⟨word', hw⟩ := wordOf?_of_mark (alike.mark_eq.symm.trans (mark_of_wordOf? hv))
      have same := alike .compact 0
      rw [spelled_of_wordOf? hv, spelled_of_wordOf? hw] at same
      exact eq_of_wordOf? plain plain' hv (same ▸ hw)
  | text s =>
      cases w with
      | text t => rw [alike.text_eq]
      | _ => exact absurd alike.mark_eq (by simp [mark])
  | array items ih =>
      cases w with
      | array items' =>
          have each := (throughout_array_iff _).mp plain
          have each' := (throughout_array_iff _).mp plain'
          have same : items = items' := eq_of_forall₂ alike.forall₂_items fun v hv w hw alike =>
            ih v hv alike (each v hv) (each' w hw)
          rw [same]
      | _ => exact absurd alike.mark_eq (by simp [mark])
  | object members ih =>
      cases w with
      | object members' =>
          have each := ((throughout_object_iff _).mp plain).2
          have each' := ((throughout_object_iff _).mp plain').2
          have same : members = members' :=
            eq_of_forall₂ alike.forall₂_members fun m hm n hn both =>
              Prod.ext both.1 (ih m hm both.2 (each m hm) (each' n hn))
          rw [same]
      | _ => exact absurd alike.mark_eq (by simp [mark])

/-! ## What sorting forgets -/

theorem Plain.sortKeys {v : Json} (plain : v.Plain) : v.sortKeys.Plain :=
  Throughout.sortKeys (fun keys distinct => (sortTexts_perm keys).nodup_iff.mpr distinct) plain

theorem Plain.distinctKeys {v : Json} (plain : v.Plain) : v.DistinctKeys := by
  induction plain with
  | null => exact .null
  | bool b => exact .bool b
  | int holds => exact .int holds
  | number holds => exact holds.elim
  | text s => exact .text s
  | array _ ih => exact .array ih
  | object holds _ ih => exact .object holds ih

/-- What was permuted can be permuted back. -/
theorem Rearranged.symm {v w : Json} (h : Rearranged v w) : Rearranged w v := by
  induction h with
  | refl v => exact .refl v
  | trans _ _ ihuv ihvw => exact ihvw.trans ihuv
  | item front back _ ih => exact .item front back ih
  | value key front back _ ih => exact .value key front back ih
  | members distinct perm =>
      exact .members ((perm.map Prod.fst).nodup_iff.mp distinct) perm.symm

/-- A rearrangement of a plain value is plain. -/
theorem Plain.rearranged {v w : Json} (plain : v.Plain) (h : Rearranged v w) : w.Plain :=
  Throughout.rearranged (fun _ _ perm => perm.nodup_iff.mp) plain h

/-- **Sorting forgets how the members of objects are arranged, and nothing else.** Keys are asked to
be distinct, since sorting keeps the order of members that share one. -/
theorem rearranged_iff {v w : Json} (distinct : v.DistinctKeys) (distinct' : w.DistinctKeys) :
    Rearranged v w ↔ v.sortKeys = w.sortKeys := by
  refine ⟨Rearranged.sortKeys_eq, fun same => ?_⟩
  have there : Rearranged v w.sortKeys := same ▸ rearranged_sortKeys distinct
  exact there.trans (rearranged_sortKeys distinct').symm

/-- The text of the sorted value, in a style that can be read back, is that of no other value. -/
theorem spelling_sortKeys_eq_iff {style : Style} (readable : style.Readable) {v w : Json}
    (plain : v.Plain) (plain' : w.Plain) :
    v.sortKeys.spelling style = w.sortKeys.spelling style ↔ Rearranged v w := by
  rw [spelling_eq_iff readable, rearranged_iff plain.distinctKeys plain'.distinctKeys]
  exact ⟨fun alike => alike.eq_of_plain plain.sortKeys plain'.sortKeys, Alike.of_eq⟩

end IntentSpec.Json
