import IntentSpec.Datum.Export
import IntentSpec.Datum.Field
import IntentSpec.Proofs.Attempt
import IntentSpec.Proofs.Json.Throughout

/-!
# What the readers of fields accept

A reader of a field answers with a value or with a rejection that names the place.  When it answers
with a value, and with which, does not depend on the place.  Here it is said of every reader by a
relation between what is read and what is answered, so that the readers of whole records need not look
into those of their fields.

* `Datum.Sequence`, `Datum.Perhaps` — sequences of what some relation says, and what may be absent.
* `Datum.Exact` — the values that have an exact JSON form.
* `Field.members_eq_ok_iff` — an object is read when it has all the fields it needs and no others.
* `Field.exists_json_iff` — a value is read as JSON exactly when it is exact.
* `Field.json_ofJson` — what is exported is read back.
-/

namespace IntentSpec

open Report (Rejection)

namespace Datum

theorem object_injective {m m' : List (String × Datum)} (same : object m = object m') : m = m' := by
  refine List.map_injective_iff.mpr ?_ (Datum.mapping.inj same)
  rintro ⟨key, value⟩ ⟨key', value'⟩ entries
  obtain ⟨keys, rfl⟩ := Prod.mk.inj entries
  rw [Datum.text.inj keys]

/-! ## Relations between what is read and what is answered -/

section Relations

variable {α : Type}

/-- A text, and the text that it is. -/
def TextIs (d : Datum) (s : String) : Prop := d = .text s

/-- A sequence, and what its items stand for. -/
inductive Sequence (R : Datum → α → Prop) : Datum → List α → Prop
  | list {items : List Datum} {as : List α} (each : List.Forall₂ R items as) :
      Sequence R (.list items) as
  | tuple {items : List Datum} {as : List α} (each : List.Forall₂ R items as) :
      Sequence R (.tuple items) as

/-- What may be absent, and what it stands for if it is there. -/
inductive Perhaps (R : Datum → α → Prop) : Datum → Option α → Prop
  /-- The null value stands for what is absent. -/
  | absent : Perhaps R .null none
  /-- What is there stands for a value. -/
  | present {d : Datum} {a : α} (there : R d a) : Perhaps R d (some a)

theorem sequence_iff {R : Datum → α → Prop} (d : Datum) (as : List α) :
    Sequence R d as ↔
      ∃ items, (d = .list items ∨ d = .tuple items) ∧ List.Forall₂ R items as := by
  constructor
  · rintro (each | each)
    · exact ⟨_, .inl rfl, each⟩
    · exact ⟨_, .inr rfl, each⟩
  · rintro ⟨items, rfl | rfl, each⟩
    · exact .list each
    · exact .tuple each

theorem Sequence.map {β : Type} {R : Datum → β → Prop} {g : α → β} {d : Datum} {as : List α}
    (read : Sequence (fun d a => R d (g a)) d as) : Sequence R d (as.map g) := by
  rcases read with each | each
  · exact .list (List.forall₂_map_right_iff.mpr each)
  · exact .tuple (List.forall₂_map_right_iff.mpr each)

theorem Perhaps.map {β : Type} {R : Datum → β → Prop} {g : α → β} {d : Datum} {o : Option α}
    (read : Perhaps (fun d a => R d (g a)) d o) : Perhaps R d (o.map g) := by
  cases read with
  | absent => exact .absent
  | present there => exact .present there

theorem perhaps_some_iff {R : Datum → α → Prop} (d : Datum) (a : α) : Perhaps R d (some a) ↔ R d a :=
  ⟨fun | .present there => there, .present⟩

theorem not_sequence_null {R : Datum → α → Prop} (as : List α) : ¬ Sequence R .null as := nofun

end Relations

/-- A value that has an exact JSON form: it is made of null, truth values, integers, finite numbers,
texts, sequences, and objects whose keys are texts. -/
inductive Exact : Datum → Prop
  | null : Exact .null
  | bool (b : Bool) : Exact (.bool b)
  | int (n : Int) : Exact (.int n)
  | number {x : Binary64} (finite : x.isFinite = true) : Exact (.number x)
  | text (s : String) : Exact (.text s)
  /-- A list of exact values is exact. -/
  | list {items : List Datum} (each : ∀ d ∈ items, Exact d) : Exact (.list items)
  /-- A tuple of exact values is exact. -/
  | tuple {items : List Datum} (each : ∀ d ∈ items, Exact d) : Exact (.tuple items)
  /-- An object of exact values whose keys are texts is exact. -/
  | mapping {entries : List (Datum × Datum)} (keys : ∀ e ∈ entries, ∃ key, e.1 = .text key)
      (each : ∀ e ∈ entries, Exact e.2) : Exact (.mapping entries)

/-- An exact value that is an object. -/
def ExactObject (d : Datum) : Prop := d.Exact ∧ ∃ entries, d = .mapping entries

/-! ## Exported values -/

theorem ofJsonItems_eq_map (items : List Json) : ofJsonItems items = items.map ofJson := by
  induction items with
  | nil => rfl
  | cons item items ih => rw [ofJsonItems, ih, List.map_cons]

theorem ofJsonMembers_eq_map (members : List (String × Json)) :
    ofJsonMembers members = members.map fun m => (.text m.1, ofJson m.2) := by
  induction members with
  | nil => rfl
  | cons m members ih => rw [ofJsonMembers, ih, List.map_cons]

/-- An exported object is an object. -/
theorem ofJson_object (members : List (String × Json)) :
    ofJson (.object members) = object (members.map fun m => (m.1, ofJson m.2)) := by
  rw [ofJson, ofJsonMembers_eq_map, object, List.map_map]
  rfl

theorem ofJson_array (items : List Json) : ofJson (.array items) = .list (items.map ofJson) := by
  rw [ofJson, ofJsonItems_eq_map]

end Datum

namespace Field

open Datum

/-! ## Texts, sequences and objects -/

section Readers

variable {α : Type} (path : String) (d : Datum)

theorem text_eq_ok_iff (s : String) : text path d = .ok s ↔ TextIs d s := by
  unfold TextIs
  cases d <;> simp [text, reject]

theorem name_eq_ok_iff (s : String) :
    name path d = .ok s ↔ TextIs d s ∧ Text.isBlankText s = false := by
  unfold name
  simp only [bind_eq_ok_iff, text_eq_ok_iff]
  constructor
  · rintro ⟨s', is, accepted⟩
    by_cases blank : Text.isBlankText s' = true
    · simp [blank, reject] at accepted
    · obtain rfl : s' = s := by simpa [blank, pure, Except.pure] using accepted
      exact ⟨is, by simpa using blank⟩
  · rintro ⟨is, named⟩
    exact ⟨s, is, by simp [named, pure, Except.pure]⟩

theorem member_eq_ok_iff {all : List α} {word : α → String} (complete : ∀ a, a ∈ all)
    (injective : ∀ a b, word a = word b → a = b) (a : α) :
    member all word path d = .ok a ↔ TextIs d (word a) := by
  have found : ∀ s, all.find? (word · == s) = some a ↔ word a = s := by
    intro s
    constructor
    · intro found
      simpa using List.find?_some found
    · rintro rfl
      have here : (all.find? (word · == word a)).isSome :=
        List.find?_isSome.mpr ⟨a, complete a, beq_self_eq_true (word a)⟩
      obtain ⟨b, found⟩ := Option.isSome_iff_exists.mp here
      rw [found, injective b a (by simpa using List.find?_some found)]
  unfold member
  simp only [bind_eq_ok_iff, text_eq_ok_iff]
  constructor
  · rintro ⟨s, is, accepted⟩
    cases match_ : all.find? (word · == s) with
    | none => simp [match_, reject] at accepted
    | some b =>
        obtain rfl : b = a := by simpa [match_, pure, Except.pure] using accepted
        exact (found s).mp match_ ▸ is
  · intro is
    exact ⟨word a, is, by simp [(found (word a)).mpr rfl, pure, Except.pure]⟩

theorem sequence_eq_ok_iff (items : List Datum) :
    sequence path d = .ok items ↔ d = .list items ∨ d = .tuple items := by
  cases d <;> simp [sequence, reject]

theorem items_eq_ok_iff {read : String → Datum → Except Rejection α} {R : Datum → α → Prop}
    (spec : ∀ path d a, read path d = .ok a ↔ R d a) (index : Nat) (ds : List Datum) (as : List α) :
    items read path index ds = .ok as ↔ List.Forall₂ R ds as := by
  induction ds generalizing index as with
  | nil => cases as <;> simp [items]
  | cons d ds ih =>
      simp only [items, bind_eq_ok_iff, ih, spec, pure, Except.pure, Except.ok.injEq]
      constructor
      · rintro ⟨a, first, as, rest, rfl⟩
        exact .cons first rest
      · rintro (_ | ⟨first, rest⟩)
        exact ⟨_, first, _, rest, rfl⟩

theorem texts_eq_ok_iff (l : List String) : texts path d = .ok l ↔ Sequence TextIs d l := by
  unfold texts
  simp only [bind_eq_ok_iff, sequence_eq_ok_iff, sequence_iff, items_eq_ok_iff path text_eq_ok_iff]

/-- A sequence is read when each of its items is. -/
theorem mapM_sequence_eq_ok_iff {read : Datum → Except Rejection α} {R : Datum → α → Prop}
    (spec : ∀ d a, read d = .ok a ↔ R d a) (as : List α) :
    (sequence path d >>= List.mapM read) = .ok as ↔ Sequence R d as := by
  simp only [bind_eq_ok_iff, sequence_eq_ok_iff, sequence_iff, mapM_eq_ok_iff, spec]

theorem optional_eq_ok_iff {read : Datum → Except Rejection α} {R : Datum → α → Prop}
    (spec : ∀ d a, read d = .ok a ↔ R d a) (there : ∀ a, ¬ R .null a) (o : Option α) :
    optional read d = .ok o ↔ Perhaps R d o := by
  by_cases absent : d = .null
  · subst absent
    constructor
    · rintro ⟨⟩
      exact .absent
    · rintro (_ | given)
      · rfl
      · exact absurd given (there _)
  · have reads : optional read d = (read d >>= fun a => .ok (some a)) := by
      cases d <;> first | rfl | exact absurd rfl absent
    simp only [reads, bind_eq_ok_iff, spec, Except.ok.injEq]
    constructor
    · rintro ⟨a, given, rfl⟩
      exact .present given
    · rintro (_ | given)
      · exact absurd rfl absent
      · exact ⟨_, given, rfl⟩

/-- The fields are all known, and all that are required are there. -/
structure Complete (required optional : List String) (m : List (String × Datum)) : Prop where
  known : ∀ key ∈ m.map Prod.fst, key ∈ required ∨ key ∈ optional
  there : ∀ key ∈ required, key ∈ m.map Prod.fst

theorem textKeys_eq_ok_iff (entries : List (Datum × Datum)) (m : List (String × Datum)) :
    textKeys path entries = .ok m ↔ entries = m.map fun field => (.text field.1, field.2) := by
  induction entries generalizing m with
  | nil => cases m <;> simp [textKeys]
  | cons entry entries ih =>
      obtain ⟨key, value⟩ := entry
      cases key with
      | text key =>
          simp only [textKeys, bind_eq_ok_iff, ih, pure, Except.pure, Except.ok.injEq]
          constructor
          · rintro ⟨m, rfl, rfl⟩
            rfl
          · intro split
            obtain ⟨field, m, rfl, first, rest⟩ := List.map_eq_cons_iff.mp split.symm
            obtain ⟨same, rfl⟩ := Prod.mk.inj first
            obtain rfl := Datum.text.inj same
            exact ⟨m, rest.symm, rfl⟩
      | _ =>
          refine iff_of_false (by simp [textKeys, reject]) fun split => ?_
          obtain ⟨field, m, rfl, first, -⟩ := List.map_eq_cons_iff.mp split.symm
          exact absurd (congrArg Prod.fst first) (by simp)

/-- **An object is read when its keys are texts and its fields are complete**: all required ones are
there, and no others than those and the optional ones. -/
theorem members_eq_ok_iff (required optional : List String) (m : List (String × Datum)) :
    members path required optional d = .ok m ↔ d = .object m ∧ Complete required optional m := by
  have fits : ∀ m : List (String × Datum), Complete required optional m ↔
      ((m.map Prod.fst).filter fun key => !(required.contains key || optional.contains key)) = [] ∧
        (required.filter fun key => !(m.map Prod.fst).contains key) = [] := by
    intro m
    simp only [List.filter_eq_nil_iff, Bool.not_eq_true', Bool.not_eq_false, Bool.or_eq_true,
      List.contains_iff_mem]
    exact ⟨fun ⟨known, there⟩ => ⟨known, there⟩, fun ⟨known, there⟩ => ⟨known, there⟩⟩
  cases d with
  | mapping entries =>
      have object : Datum.mapping entries = .object m ↔
          entries = m.map fun field => (.text field.1, field.2) := by
        unfold Datum.object
        exact ⟨fun same => Datum.mapping.inj same, fun same => congrArg Datum.mapping same⟩
      rw [members, bind_eq_ok_iff, object, fits]
      simp only [textKeys_eq_ok_iff]
      constructor
      · rintro ⟨m', split, accepted⟩
        split at accepted
        · cases accepted
        next surplus =>
          split at accepted
          · cases accepted
          next missing =>
            obtain rfl := Except.ok.inj accepted
            exact ⟨split, by simpa using surplus, by simpa using missing⟩
      · rintro ⟨split, surplus, missing⟩
        refine ⟨m, split, ?_⟩
        simp only [surplus, missing, List.isEmpty_nil, Bool.not_true, Bool.false_eq_true, if_false]
        rfl
  | _ => exact iff_of_false (by simp [members, reject]) fun ⟨same, _⟩ => by simp [Datum.object] at same

/-- An object that has all required fields and no unknown ones, and whose fields satisfy a condition. -/
def HasFields (required optional : List String) (fields : List (String × Datum) → Prop) (d : Datum) :
    Prop :=
  ∃ m, d = .object m ∧ Complete required optional m ∧ fields m

theorem hasFields_congr {required optional : List String} {fields fields' : List (String × Datum) → Prop}
    {d : Datum} (same : ∀ m, Complete required optional m → (fields m ↔ fields' m)) :
    HasFields required optional fields d ↔ HasFields required optional fields' d := by
  refine exists_congr fun m => and_congr_right fun _ => ?_
  exact and_congr_right (same m)

theorem exists_hasFields_iff {β : Type} {required optional : List String}
    {fields : β → List (String × Datum) → Prop} {d : Datum} :
    (∃ b, HasFields required optional (fields b) d) ↔
      HasFields required optional (fun m => ∃ b, fields b m) d := by
  constructor
  · rintro ⟨b, m, isObject, complete, holds⟩
    exact ⟨m, isObject, complete, b, holds⟩
  · rintro ⟨m, isObject, complete, b, holds⟩
    exact ⟨b, m, isObject, complete, holds⟩

theorem members_bind_eq_ok_iff (required optional : List String)
    (next : List (String × Datum) → Except Rejection α) (a : α) :
    (members path required optional d >>= next) = .ok a ↔
      HasFields required optional (fun m => next m = .ok a) d := by
  simp only [HasFields, bind_eq_ok_iff, members_eq_ok_iff, and_assoc]

end Readers

/-! ## Values with an exact JSON form -/

mutual

/-- What is read as JSON is exact, and the numbers of the answer are finite. -/
theorem exact_of_json (path : String) :
    ∀ (d : Datum) {v : Json}, json path d = .ok v → d.Exact ∧ v.Finite
  | .null, _, read => Except.ok.inj read ▸ ⟨.null, .null⟩
  | .bool b, _, read => Except.ok.inj read ▸ ⟨.bool b, .bool b⟩
  | .int n, _, read => Except.ok.inj read ▸ ⟨.int n, .int trivial⟩
  | .text s, _, read => Except.ok.inj read ▸ ⟨.text s, .text s⟩
  | .number x, v, read => by
      by_cases finite : x.isFinite = true
      · obtain rfl : Json.number x = v := by simpa [json, finite] using read
        exact ⟨.number finite, .number finite⟩
      · simp [json, finite, reject] at read
  | .list ds, v, read => by
      obtain ⟨vs, items, same⟩ := (bind_eq_ok_iff ..).mp (show (jsonItems path 0 ds >>= _) = _ from read)
      obtain rfl : Json.array vs = v := Except.ok.inj same
      have each := exact_of_jsonItems path 0 ds items
      exact ⟨.list each.1, .array each.2⟩
  | .tuple ds, v, read => by
      obtain ⟨vs, items, same⟩ := (bind_eq_ok_iff ..).mp (show (jsonItems path 0 ds >>= _) = _ from read)
      obtain rfl : Json.array vs = v := Except.ok.inj same
      have each := exact_of_jsonItems path 0 ds items
      exact ⟨.tuple each.1, .array each.2⟩
  | .mapping entries, v, read => by
      obtain ⟨ms, members, same⟩ :=
        (bind_eq_ok_iff ..).mp (show (jsonMembers path entries >>= _) = _ from read)
      obtain rfl : Json.object ms = v := Except.ok.inj same
      have each := exact_of_jsonMembers path entries members
      exact ⟨.mapping (fun e here => (each.1 e here).1) fun e here => (each.1 e here).2,
        .object trivial each.2⟩
  | .bytes _, _, read => by simp [json, reject] at read
  | .moment _, _, read => by simp [json, reject] at read
  | .record _ _, _, read => by simp [json, reject] at read

theorem exact_of_jsonItems (path : String) (index : Nat) :
    ∀ (ds : List Datum) {vs : List Json}, jsonItems path index ds = .ok vs →
      (∀ d ∈ ds, d.Exact) ∧ ∀ v ∈ vs, v.Finite
  | [], _, read => Except.ok.inj read ▸ ⟨List.forall_mem_nil _, List.forall_mem_nil _⟩
  | d :: ds, vs, read => by
      simp only [jsonItems, bind_eq_ok_iff, pure, Except.pure, Except.ok.injEq] at read
      obtain ⟨v, first, vs, rest, rfl⟩ := read
      have here := exact_of_json _ d first
      have later := exact_of_jsonItems path (index + 1) ds rest
      exact ⟨List.forall_mem_cons.mpr ⟨here.1, later.1⟩, List.forall_mem_cons.mpr ⟨here.2, later.2⟩⟩

theorem exact_of_jsonMembers (path : String) :
    ∀ (entries : List (Datum × Datum)) {ms : List (String × Json)},
      jsonMembers path entries = .ok ms →
        (∀ e ∈ entries, (∃ key, e.1 = .text key) ∧ e.2.Exact) ∧ ∀ m ∈ ms, m.2.Finite
  | [], _, read => Except.ok.inj read ▸ ⟨List.forall_mem_nil _, List.forall_mem_nil _⟩
  | (.text key, d) :: entries, ms, read => by
      simp only [jsonMembers, bind_eq_ok_iff, pure, Except.pure, Except.ok.injEq] at read
      obtain ⟨v, first, ms, rest, rfl⟩ := read
      have here := exact_of_json _ d first
      have later := exact_of_jsonMembers path entries rest
      exact ⟨List.forall_mem_cons.mpr ⟨⟨⟨key, rfl⟩, here.1⟩, later.1⟩,
        List.forall_mem_cons.mpr ⟨here.2, later.2⟩⟩
  | (.null, _) :: _, _, read | (.bool _, _) :: _, _, read | (.int _, _) :: _, _, read
  | (.number _, _) :: _, _, read | (.bytes _, _) :: _, _, read | (.moment _, _) :: _, _, read
  | (.list _, _) :: _, _, read | (.tuple _, _) :: _, _, read | (.mapping _, _) :: _, _, read
  | (.record _ _, _) :: _, _, read => by simp [jsonMembers, reject] at read

end

/-- Items are read as JSON when each of them is, wherever it stands. -/
theorem exists_jsonItems {ds : List Datum} (each : ∀ d ∈ ds, ∀ path, ∃ v, json path d = .ok v)
    (path : String) (index : Nat) : ∃ vs, jsonItems path index ds = .ok vs := by
  induction ds generalizing index with
  | nil => exact ⟨[], rfl⟩
  | cons d ds ih =>
      obtain ⟨here, later⟩ := List.forall_mem_cons.mp each
      obtain ⟨v, first⟩ := here (itemPath path index)
      obtain ⟨vs, rest⟩ := ih later (index + 1)
      exact ⟨v :: vs, by rw [jsonItems, first, rest]; rfl⟩

/-- The members of an object are read as JSON when their keys are texts and each value is read. -/
theorem exists_jsonMembers {entries : List (Datum × Datum)}
    (keys : ∀ e ∈ entries, ∃ key, e.1 = .text key)
    (each : ∀ e ∈ entries, ∀ path, ∃ v, json path e.2 = .ok v) (path : String) :
    ∃ ms, jsonMembers path entries = .ok ms := by
  induction entries with
  | nil => exact ⟨[], rfl⟩
  | cons e entries ih =>
      obtain ⟨⟨key, text⟩, others⟩ := List.forall_mem_cons.mp keys
      obtain ⟨here, later⟩ := List.forall_mem_cons.mp each
      obtain ⟨key', d⟩ := e
      obtain rfl : key' = .text key := text
      obtain ⟨v, first⟩ := here (path ++ "." ++ key)
      obtain ⟨ms, rest⟩ := ih others later
      exact ⟨(key, v) :: ms, by rw [jsonMembers, first, rest]; rfl⟩

/-- **A value is read as JSON exactly when it is exact**: it has only finite numbers, keys that are
texts, and nothing that JSON has no form for. -/
theorem exists_json_iff (path : String) (d : Datum) : (∃ v, json path d = .ok v) ↔ d.Exact := by
  constructor
  · rintro ⟨v, read⟩
    exact (exact_of_json path d read).1
  · intro exact
    induction exact generalizing path with
    | null => exact ⟨_, rfl⟩
    | bool b => exact ⟨_, rfl⟩
    | int n => exact ⟨_, rfl⟩
    | number finite => exact ⟨_, by rw [json, if_pos finite]⟩
    | text s => exact ⟨_, rfl⟩
    | list _ ih | tuple _ ih =>
        obtain ⟨vs, read⟩ := exists_jsonItems (fun d here path => ih d here path) path 0
        exact ⟨.array vs, by rw [json, read]; rfl⟩
    | mapping keys _ ih =>
        obtain ⟨ms, read⟩ := exists_jsonMembers keys (fun e here path => ih e here path) path
        exact ⟨.object ms, by rw [json, read]; rfl⟩

/-- An object is read as JSON exactly when it is exact, and then its numbers are finite. -/
theorem exists_jsonObject_iff (path : String) (d : Datum) :
    (∃ members, jsonObject path d = .ok members) ↔ d.ExactObject := by
  cases d with
  | mapping entries =>
      have object : (∃ members, jsonObject path (.mapping entries) = .ok members) ↔
          ∃ v, json path (.mapping entries) = .ok v := by
        rw [json]
        simp only [bind_eq_ok_iff]
        constructor
        · rintro ⟨members, read⟩
          exact ⟨.object members, members, read, rfl⟩
        · rintro ⟨v, members, read, -⟩
          exact ⟨members, read⟩
      rw [object, exists_json_iff]
      exact ⟨fun exact => ⟨exact, _, rfl⟩, And.left⟩
  | _ => exact iff_of_false (by simp [jsonObject, reject]) fun ⟨_, entries, other⟩ => by cases other

theorem finite_of_jsonObject {path : String} {d : Datum} {members : List (String × Json)}
    (read : jsonObject path d = .ok members) : (Json.object members).Finite := by
  cases d with
  | mapping entries => exact .object trivial (exact_of_jsonMembers path entries read).2
  | _ => cases read

/-! ## Reading back what is exported -/

theorem jsonMembers_ofJson {members : List (String × Json)}
    (each : ∀ m ∈ members, ∀ path, json path (ofJson m.2) = .ok m.2) (path : String) :
    jsonMembers path (members.map fun m => (.text m.1, ofJson m.2)) = .ok members := by
  induction members with
  | nil => rfl
  | cons m members ih =>
      obtain ⟨here, later⟩ := List.forall_mem_cons.mp each
      rw [List.map_cons, jsonMembers, here, ih later]
      rfl

/-- **What is exported is read back** if its numbers are finite. -/
theorem json_ofJson {v : Json} (finite : v.Finite) (path : String) : json path (ofJson v) = .ok v := by
  induction finite generalizing path with
  | null => rfl
  | bool b => rfl
  | int n => rfl
  | number finite =>
      rw [ofJson, json]
      exact if_pos finite
  | text s => rfl
  | @array items _ ih =>
      have read : ∀ index, jsonItems path index (items.map ofJson) = .ok items := by
        clear * - ih
        induction items with
        | nil => exact fun _ => rfl
        | cons v items others =>
            obtain ⟨here, later⟩ := List.forall_mem_cons.mp ih
            intro index
            rw [List.map_cons, jsonItems, here, others later]
            rfl
      rw [ofJson_array, json, read]
      rfl
  | @object members _ _ ih =>
      rw [ofJson, ofJsonMembers_eq_map, json, jsonMembers_ofJson ih]
      rfl

theorem jsonObject_ofJson {members : List (String × Json)} (finite : (Json.object members).Finite)
    (path : String) : jsonObject path (ofJson (.object members)) = .ok members := by
  have each := ((Json.throughout_object_iff _).mp finite).2
  rw [ofJson, ofJsonMembers_eq_map]
  exact jsonMembers_ofJson (fun m here => json_ofJson (each m here)) path

end Field

end IntentSpec
