import IntentSpec.Proofs.Json.Brackets
import IntentSpec.Proofs.Json.Quote
import IntentSpec.Proofs.Sorting
import Mathlib.Data.List.Nodup

/-!
# Values that are written alike

Different values may have one text: all values that are not numbers are written by one name.  What
a text determines is the value up to this, and it determines as much in one style as in every
other.

A value is rearranged by permuting the members of objects, at any depth.  The keys of an object
that is permuted are distinct, as they are in every object that a program builds; the order of two
members with one key would decide which of them counts.  Arrays are never permuted: their order carries
meaning.  Values that are rearrangements of each other have the same sorted form, so their sorted forms are
written alike.

* `Rearranged`, `Rearranged.sortKeys_eq` — values that sorting makes equal.
* `Alike` — two values have the same text in every style.
* `spelling_eq_iff` — one readable style is enough.
* `Alike.forall₂_items`, `Alike.forall₂_members`, `Alike.exists_member` — values that are written
  alike have parts that are written alike.
-/

namespace IntentSpec.Json

/-! ## Rearranged values -/

theorem sortItems_eq_map (items : List Json) : sortItems items = items.map sortKeys := by
  induction items with
  | nil => rfl
  | cons item items ih => rw [sortItems, ih, List.map_cons]

theorem sortMembers_eq_map (members : List (String × Json)) :
    sortMembers members = members.map fun m => (m.1, m.2.sortKeys) := by
  induction members with
  | nil => rfl
  | cons m members ih => rw [sortMembers, ih, List.map_cons]

@[simp] theorem sortKeys_text (s : String) : (text s).sortKeys = text s := by
  rw [sortKeys]

@[simp] theorem sortKeys_array (items : List Json) :
    (array items).sortKeys = array (items.map sortKeys) := by
  rw [sortKeys, sortItems_eq_map]

@[simp] theorem sortKeys_object (members : List (String × Json)) :
    (object members).sortKeys =
      object (sortBy (fun a b => textLe a.1 b.1) (members.map fun m => (m.1, m.2.sortKeys))) := by
  rw [sortKeys, sortMembers_eq_map]

@[simp] theorem sortKeys_texts (l : List String) : (texts l).sortKeys = texts l := by
  simp [texts]

/-- The second value arises from the first by permuting the members of objects, at any depth. -/
inductive Rearranged : Json → Json → Prop
  | refl (v : Json) : Rearranged v v
  | trans {u v w : Json} : Rearranged u v → Rearranged v w → Rearranged u w
  /-- An item of an array is rearranged in its place. -/
  | item {v w : Json} (front back : List Json) : Rearranged v w →
      Rearranged (.array (front ++ v :: back)) (.array (front ++ w :: back))
  /-- The value of a member is rearranged in its place. -/
  | value {v w : Json} (key : String) (front back : List (String × Json)) : Rearranged v w →
      Rearranged (.object (front ++ (key, v) :: back)) (.object (front ++ (key, w) :: back))
  /-- The members of the object itself are permuted. -/
  | members {members members' : List (String × Json)} : (members.map Prod.fst).Nodup →
      members.Perm members' → Rearranged (.object members) (.object members')

/-- Members with distinct keys have one sorted form for all their permutations. -/
theorem sortKeys_object_eq_of_perm {members members' : List (String × Json)}
    (distinct : (members.map Prod.fst).Nodup) (perm : members.Perm members') :
    (object members).sortKeys = (object members').sortKeys := by
  rw [sortKeys_object, sortKeys_object]
  refine congrArg object (sortBy_eq_of_perm (textLe_comparison.on Prod.fst) (perm.map _) ?_)
  intro a ha b hb hab hba
  obtain ⟨m, hm, rfl⟩ := List.mem_map.mp ha
  obtain ⟨n, hn, rfl⟩ := List.mem_map.mp hb
  have same : m = n := List.inj_on_of_nodup_map distinct hm hn (textLe_antisymm hab hba)
  rw [same]

/-- Sorting the members of all objects forgets how they were arranged. -/
theorem Rearranged.sortKeys_eq {v w : Json} (h : Rearranged v w) : v.sortKeys = w.sortKeys := by
  induction h with
  | refl v => rfl
  | trans _ _ ihuv ihvw => exact ihuv.trans ihvw
  | item front back _ ih => simp [ih]
  | value key front back _ ih => simp [ih]
  | members distinct perm => exact sortKeys_object_eq_of_perm distinct perm

/-! ## Values that are written alike -/

/-- The values are written alike in every style and at every depth. -/
def Alike (v w : Json) : Prop := ∀ style depth, v.spelled style depth = w.spelled style depth

/-- The members have one key, and values that are written alike. -/
def AlikeMembers (m n : String × Json) : Prop := m.1 = n.1 ∧ Alike m.2 n.2

theorem Alike.refl (v : Json) : Alike v v := fun _ _ => rfl

theorem Alike.of_eq {v w : Json} (h : v = w) : Alike v w := h ▸ Alike.refl v

theorem Alike.symm {v w : Json} (h : Alike v w) : Alike w v :=
  fun style depth => (h style depth).symm

theorem AlikeMembers.symm {m n : String × Json} (h : AlikeMembers m n) : AlikeMembers n m :=
  ⟨h.1.symm, h.2.symm⟩

theorem Alike.spelling_eq {v w : Json} (h : Alike v w) (style : Style) :
    v.spelling style = w.spelling style :=
  congrArg String.ofList (h style 0)

/-! ## Parts that are written alike make wholes that are -/

theorem map_eq_map_of_forall₂ {α β : Type} {f : α → β} {l l' : List α}
    (h : List.Forall₂ (fun a b => f a = f b) l l') : l.map f = l'.map f := by
  induction h with
  | nil => rfl
  | cons first _ ih => rw [List.map_cons, List.map_cons, first, ih]

theorem Alike.array {items items' : List Json} (h : List.Forall₂ Alike items items') :
    Alike (.array items) (.array items') := by
  intro style depth
  rw [spelled_array, spelled_array]
  exact congrArg _ (map_eq_map_of_forall₂ (h.imp fun _ _ alike => alike style (depth + 1)))

theorem Alike.object {members members' : List (String × Json)}
    (h : List.Forall₂ AlikeMembers members members') :
    Alike (.object members) (.object members') := by
  intro style depth
  rw [spelled_object, spelled_object]
  refine congrArg _ (map_eq_map_of_forall₂ (h.imp fun m n alike => ?_))
  unfold spelledMember
  rw [alike.1, alike.2 style (depth + 1)]

theorem exists_mem_of_forall₂ {α β : Type} {R : α → β → Prop} {l : List α} {l' : List β}
    (h : List.Forall₂ R l l') {a : α} (ha : a ∈ l) : ∃ b ∈ l', R a b := by
  induction h with
  | nil => exact absurd ha List.not_mem_nil
  | @cons a' b l l' first _ ih =>
      rcases List.mem_cons.mp ha with rfl | ha
      · exact ⟨b, List.mem_cons_self, first⟩
      · obtain ⟨b', hb, related⟩ := ih ha
        exact ⟨b', List.mem_cons_of_mem b hb, related⟩

/-! ## The mark of a value

The first character tells texts, arrays, objects and words apart. -/

/-- The character that a value other than a word starts with. -/
def mark : Json → Option Char
  | .text _ => some '"'
  | .array _ => some '['
  | .object _ => some '\x7b'
  | .null | .bool _ | .int _ | .number _ => none

/-- The values by the way in which they are written: as a word, as a text, or by their parts. -/
theorem written_induction {motive : Json → Prop}
    (word : ∀ v word, v.wordOf? = some word → motive v) (text : ∀ s, motive (.text s))
    (array : ∀ items : List Json, (∀ v ∈ items, motive v) → motive (.array items))
    (object : ∀ members : List (String × Json),
      (∀ m ∈ members, motive m.2) → motive (.object members))
    (v : Json) : motive v := by
  refine @Json.rec motive (fun items => ∀ v ∈ items, motive v)
    (fun members => ∀ m ∈ members, motive m.2) (fun m => motive m.2) ?_ ?_ ?_ ?_ text array object
    ?_ ?_ ?_ ?_ ?_ v
  · exact word .null _ rfl
  · intro b
    cases b with
    | false => exact word (.bool false) _ rfl
    | true => exact word (.bool true) _ rfl
  · exact fun n => word (.int n) _ rfl
  · exact fun x => word (.number x) _ rfl
  · exact List.forall_mem_nil _
  · exact fun item items first others => List.forall_mem_cons.mpr ⟨first, others⟩
  · exact List.forall_mem_nil _
  · exact fun m members first others => List.forall_mem_cons.mpr ⟨first, others⟩
  · exact fun key value holds => holds

theorem mark_of_wordOf? {v : Json} {word : List Char} (h : v.wordOf? = some word) :
    v.mark = none := by
  cases v <;> first | rfl | exact absurd h (by simp [wordOf?])

theorem wordOf?_of_mark {v : Json} (h : v.mark = none) : ∃ word, v.wordOf? = some word := by
  cases v with
  | bool b => cases b <;> exact ⟨_, rfl⟩
  | text s => exact absurd h (by simp [mark])
  | array items => exact absurd h (by simp [mark])
  | object members => exact absurd h (by simp [mark])
  | _ => exact ⟨_, rfl⟩

/-- The mark is read off the first character. -/
theorem head_spelled (v : Json) (style : Style) (depth : Nat) (rest : List Char) :
    ∃ c, (v.spelled style depth ++ rest).head? = some c ∧
      v.mark = if isWordChar c then none else some c := by
  induction v using written_induction with
  | word v word h =>
      have isWord := isWord_of_wordOf? h
      obtain ⟨c, tail, split⟩ := List.exists_cons_of_ne_nil isWord.nonempty
      refine ⟨c, by rw [spelled_of_wordOf? h, split]; rfl, ?_⟩
      rw [mark_of_wordOf? h, if_pos (isWord.chars c (split ▸ List.mem_cons_self))]
  | text s => exact ⟨'"', by rw [spelled]; rfl, rfl⟩
  | array items =>
      refine ⟨'[', ?_, rfl⟩
      rw [spelled_array]
      cases items <;> rfl
  | object members =>
      refine ⟨'\x7b', ?_, rfl⟩
      rw [spelled_object]
      cases members <;> rfl

/-- Values whose texts begin in the same way have the same mark. -/
theorem mark_eq_of_append_eq {v w : Json} {style : Style} {depth : Nat} {rest rest' : List Char}
    (h : v.spelled style depth ++ rest = w.spelled style depth ++ rest') : v.mark = w.mark := by
  obtain ⟨c, first, markv⟩ := head_spelled v style depth rest
  obtain ⟨d, first', markw⟩ := head_spelled w style depth rest'
  rw [h, first'] at first
  obtain rfl := Option.some.inj first
  rw [markv, markw]

/-- No value starts with a closing bracket. -/
theorem head_spelled_ne {closing : Char} (bracket : closing = ']' ∨ closing = '\x7d') (v : Json)
    (style : Style) (depth : Nat) (rest : List Char) :
    (v.spelled style depth ++ rest).head? ≠ some closing := by
  intro h
  obtain ⟨c, first, mark⟩ := head_spelled v style depth rest
  obtain rfl := Option.some.inj (first.symm.trans h)
  rcases bracket with rfl | rfl <;> cases v <;> simp [Json.mark, isWordChar] at mark

/-! ## Reading back -/

theorem spelledMember_cancels {style : Style} (readable : style.Readable) {depth : Nat}
    {m : String × Json} (value : Cancels (spelled style depth) Alike m.2) :
    Cancels (spelledMember style depth) AlikeMembers m := by
  intro n rest rest' ends ends' h
  unfold spelledMember at h
  rw [readable.ascii, List.append_assoc, List.append_assoc, List.append_assoc,
    List.append_assoc] at h
  obtain ⟨key, values⟩ := quote_cancel h
  obtain ⟨alike, same⟩ := value n.2 rest rest' ends ends' (List.append_cancel_left values)
  exact ⟨⟨key, alike⟩, same⟩

theorem head_spelledMember_ne {style : Style} (depth : Nat) {closing : Char}
    (bracket : closing = ']' ∨ closing = '\x7d') (m : String × Json) (rest : List Char) :
    (spelledMember style depth m ++ rest).head? ≠ some closing := by
  intro h
  have first : some '"' = some closing := h
  rcases bracket with rfl | rfl <;> exact absurd first (by decide)

/-- The parts of arrays whose texts begin in the same way are written alike. -/
theorem array_cancel {style : Style} (readable : style.Readable) {depth : Nat} {items : List Json}
    (cancels : ∀ v ∈ items, Cancels (spelled style (depth + 1)) Alike v) (items' : List Json)
    {rest rest' : List Char}
    (h : (array items).spelled style depth ++ rest = (array items').spelled style depth ++ rest') :
    List.Forall₂ Alike items items' ∧ rest = rest' := by
  rw [spelled_array, spelled_array] at h
  have bracket : ']' = ']' ∨ ']' = '\x7d' := Or.inl rfl
  exact enclosed_cancel readable depth bracket (fun v => head_spelled_ne bracket v style (depth + 1))
    cancels items' h

/-- The members of objects whose texts begin in the same way are written alike. -/
theorem object_cancel {style : Style} (readable : style.Readable) {depth : Nat}
    {members : List (String × Json)}
    (cancels : ∀ m ∈ members, Cancels (spelled style (depth + 1)) Alike m.2)
    (members' : List (String × Json)) {rest rest' : List Char}
    (h : (object members).spelled style depth ++ rest =
      (object members').spelled style depth ++ rest') :
    List.Forall₂ AlikeMembers members members' ∧ rest = rest' := by
  rw [spelled_object, spelled_object] at h
  have bracket : '\x7d' = ']' ∨ '\x7d' = '\x7d' := Or.inr rfl
  exact enclosed_cancel readable depth bracket (head_spelledMember_ne (depth + 1) bracket)
    (fun m hm => spelledMember_cancels readable (cancels m hm)) members' h

/-- **A value is told from what follows it, up to the way it is written.** The induction is on the
value, with the texts that follow left free. -/
theorem spelled_cancels {style : Style} (readable : style.Readable) (v : Json) (depth : Nat) :
    Cancels (spelled style depth) Alike v := by
  -- The mark leaves only values of one kind to compare.  What follows matters for words alone:
  -- every other value says by itself where it ends.
  induction v using written_induction generalizing depth with
  | word v word hv =>
      intro w rest rest' ends ends' h
      have unmarked : w.mark = none := (mark_eq_of_append_eq h).symm.trans (mark_of_wordOf? hv)
      obtain ⟨word', hw⟩ := wordOf?_of_mark unmarked
      rw [spelled_of_wordOf? hv, spelled_of_wordOf? hw] at h
      obtain ⟨same, rests⟩ := (isWord_of_wordOf? hv).cancel (isWord_of_wordOf? hw) ends ends' h
      refine ⟨fun style depth => ?_, rests⟩
      rw [spelled_of_wordOf? hv, spelled_of_wordOf? hw, same]
  | text s =>
      intro w rest rest' _ _ h
      have marked := mark_eq_of_append_eq h
      cases w with
      | text t =>
          rw [spelled, spelled, readable.ascii] at h
          obtain ⟨rfl, rests⟩ := quote_cancel h
          exact ⟨Alike.refl _, rests⟩
      | _ => exact absurd marked (by simp [mark])
  | array items ih =>
      intro w rest rest' _ _ h
      have marked := mark_eq_of_append_eq h
      cases w with
      | array items' =>
          obtain ⟨alike, rests⟩ :=
            array_cancel readable (fun v hv => ih v hv (depth + 1)) items' h
          exact ⟨Alike.array alike, rests⟩
      | _ => exact absurd marked (by simp [mark])
  | object members ih =>
      intro w rest rest' _ _ h
      have marked := mark_eq_of_append_eq h
      cases w with
      | object members' =>
          obtain ⟨alike, rests⟩ :=
            object_cancel readable (fun m hm => ih m hm (depth + 1)) members' h
          exact ⟨Alike.object alike, rests⟩
      | _ => exact absurd marked (by simp [mark])

/-- **One readable style is as good as all**: values with one text there are written alike, and so
have one text in every style. -/
theorem spelling_eq_iff {style : Style} (readable : style.Readable) {v w : Json} :
    v.spelling style = w.spelling style ↔ Alike v w := by
  refine ⟨fun h => ?_, fun alike => alike.spelling_eq style⟩
  have texts : v.spelled style 0 ++ [] = w.spelled style 0 ++ [] := by
    rw [List.append_nil, List.append_nil]
    exact String.ofList_inj.mp h
  have ends : EndsWord [] := fun c hc => absurd hc (by simp)
  exact (spelled_cancels readable v 0 w [] [] ends ends texts).1

/-! ## Parts of values that are written alike -/

theorem Alike.text_eq {s t : String} (h : Alike (.text s) (.text t)) : s = t := by
  have texts := h .compact 0
  rw [spelled, spelled] at texts
  exact (quote_cancel (congrArg (· ++ []) texts)).1

theorem Alike.forall₂_items {items items' : List Json} (h : Alike (.array items) (.array items')) :
    List.Forall₂ Alike items items' :=
  (array_cancel Style.readable_compact (fun v _ => spelled_cancels Style.readable_compact v 1) items'
    (congrArg (· ++ []) (h .compact 0))).1

theorem Alike.forall₂_members {members members' : List (String × Json)}
    (h : Alike (.object members) (.object members')) : List.Forall₂ AlikeMembers members members' :=
  (object_cancel Style.readable_compact
    (fun m _ => spelled_cancels Style.readable_compact m.2 1) members'
    (congrArg (· ++ []) (h .compact 0))).1

theorem Alike.texts_eq {l l' : List String} (h : Alike (texts l) (texts l')) : l = l' := by
  have items := h.forall₂_items
  rw [List.forall₂_map_left_iff, List.forall₂_map_right_iff] at items
  have same := items.imp fun _ _ alike => alike.text_eq
  rwa [List.forall₂_eq_eq_eq] at same

/-! ## Values with sorted members -/

/-- How a value is written in every style once the members of its objects are sorted. -/
def written (v : Json) : Style → Nat → List Char := fun style depth => v.sortKeys.spelled style depth

theorem written_eq_iff {v w : Json} : v.written = w.written ↔ Alike v.sortKeys w.sortKeys := by
  constructor
  · intro h style depth
    exact congrFun (congrFun h style) depth
  · intro alike
    funext style depth
    exact alike style depth

/-- Arrays whose items are written alike, one by one, once they are sorted. -/
theorem alike_array_sortKeys_iff {items items' : List Json} :
    Alike (sortKeys (.array items)) (sortKeys (.array items')) ↔
      items.map written = items'.map written := by
  rw [sortKeys_array, sortKeys_array, ← List.forall₂_eq_eq_eq, List.forall₂_map_left_iff,
    List.forall₂_map_right_iff]
  constructor
  · intro h
    have sorted := h.forall₂_items
    rw [List.forall₂_map_left_iff, List.forall₂_map_right_iff] at sorted
    exact sorted.imp fun _ _ => written_eq_iff.mpr
  · intro h
    refine Alike.array ?_
    rw [List.forall₂_map_left_iff, List.forall₂_map_right_iff]
    exact h.imp fun _ _ => written_eq_iff.mp

/-- Sorting the members keeps objects alike that are so member by member. -/
theorem Alike.object_sortKeys {members members' : List (String × Json)}
    (h : List.Forall₂ (fun m n => m.1 = n.1 ∧ Alike m.2.sortKeys n.2.sortKeys) members members') :
    Alike (sortKeys (.object members)) (sortKeys (.object members')) := by
  rw [sortKeys_object, sortKeys_object]
  refine Alike.object (forall₂_sortBy _ ?_ ?_)
  · intro a a' b b' ha hb
    rw [ha.1, hb.1]
  · rw [List.forall₂_map_left_iff, List.forall₂_map_right_iff]
    exact h

/-- Objects that are written alike once they are sorted have, under each key, values that are. -/
theorem Alike.exists_member {members members' : List (String × Json)}
    (h : Alike (sortKeys (.object members)) (sortKeys (.object members'))) {key : String} {v : Json}
    (hv : (key, v) ∈ members) : ∃ w, (key, w) ∈ members' ∧ Alike v.sortKeys w.sortKeys := by
  rw [sortKeys_object, sortKeys_object] at h
  have sorted : (key, v.sortKeys) ∈ sortBy (fun a b => textLe a.1 b.1)
      (members.map fun m => (m.1, m.2.sortKeys)) :=
    (sortBy_perm _).mem_iff.mpr (List.mem_map.mpr ⟨(key, v), hv, rfl⟩)
  obtain ⟨n, hn, same, alike⟩ := exists_mem_of_forall₂ h.forall₂_members sorted
  obtain ⟨m, hm, rfl⟩ := List.mem_map.mp ((sortBy_perm _).mem_iff.mp hn)
  obtain ⟨k, w⟩ := m
  obtain rfl : key = k := same
  exact ⟨w, hm, alike⟩

/-- **Objects that are written alike agree field by field.**  A field that determines what stands
under a key, and that can be read off what is written there, is the same in both. -/
theorem Alike.field_eq {α β : Type} {members : β → List (String × Json)} {x y : β}
    (h : Alike (sortKeys (.object (members x))) (sortKeys (.object (members y)))) (key : String)
    (field : β → Option α) {tree : α → Json}
    (inj : ∀ {a b}, Alike (tree a).sortKeys (tree b).sortKeys → a = b)
    (has : ∀ z w, (key, w) ∈ members z ↔ ∃ a ∈ field z, tree a = w) : field x = field y := by
  have found : ∀ a ∈ field x, field y = some a := by
    intro a ha
    obtain ⟨w, hw, alike⟩ := h.exists_member ((has x (tree a)).mpr ⟨a, ha, rfl⟩)
    obtain ⟨b, hb, rfl⟩ := (has y w).mp hw
    rw [inj alike]
    exact hb
  cases left : field x with
  | some a => exact (found a left).symm
  | none =>
      cases right : field y with
      | none => rfl
      | some b =>
          obtain ⟨w, hw, -⟩ := h.symm.exists_member ((has y (tree b)).mpr ⟨b, right, rfl⟩)
          obtain ⟨a, ha, -⟩ := (has x w).mp hw
          rw [left] at ha
          exact absurd ha (by simp)

end IntentSpec.Json
