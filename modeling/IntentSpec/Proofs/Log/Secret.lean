import IntentSpec.Log.Event
import IntentSpec.Proofs.Datum.Reading
import IntentSpec.Proofs.Log.Masked

/-!
# What stands under sensitive keys

An event is a tree of lists, tuples and mappings.  A secret in it is whatever a mapping stores under a key
that names one.  Masking goes through the tree child by child: a secret becomes the mask without being
looked at, and every other child is masked by itself.  So the masked event has the mask at the places of
the secrets and depends on nothing that stands there.

This is a property of two events at once.  It is said for whatever masking answers, an error included: if a key
cannot be written, masking fails, and since it comes to the same keys in both events, it fails for both.  So
neither the masked event nor the failure tells the two apart.

* `Alike`, `AlikeFields` — values and events that are equal but for their secrets.
* `secretAt?` — the secret at a place in a value.
* `child?_masked`, `secretAt?_masked` — masking child by child, and what it leaves at the place of a secret.
* `withheld_of_alike` — two events that are alike are masked and written alike.
-/

namespace IntentSpec.Log

/-! ## Values that differ in their secrets -/

mutual

/-- Two values are equal but for what they store under sensitive keys. -/
inductive Alike : Datum → Datum → Prop
  | same (d : Datum) : Alike d d
  | list {items items' : List Datum} (each : AlikeItems items items') : Alike (.list items) (.list items')
  | tuple {items items' : List Datum} (each : AlikeItems items items') : Alike (.tuple items) (.tuple items')
  | mapping {entries entries' : List (Datum × Datum)} (each : AlikeEntries entries entries') :
      Alike (.mapping entries) (.mapping entries')

/-- Items are alike one by one. -/
inductive AlikeItems : List Datum → List Datum → Prop
  | nil : AlikeItems [] []
  /-- The first items are alike, and so are the others. -/
  | cons {item item' : Datum} {items items' : List Datum} (first : Alike item item')
      (others : AlikeItems items items') : AlikeItems (item :: items) (item' :: items')

/-- Entries have the same keys, and their values are alike unless the key is sensitive. -/
inductive AlikeEntries : List (Datum × Datum) → List (Datum × Datum) → Prop
  | nil : AlikeEntries [] []
  /-- Under a sensitive key two values may stand that have nothing in common. -/
  | secret {key value value' : Datum} {entries entries' : List (Datum × Datum)}
      (sensitive : ∃ name, key.plain = .ok name ∧ isSensitive name = true) (others : AlikeEntries entries entries') :
      AlikeEntries ((key, value) :: entries) ((key, value') :: entries')
  /-- Under every other key the values are alike. -/
  | entry {key value value' : Datum} {entries entries' : List (Datum × Datum)} (first : Alike value value')
      (others : AlikeEntries entries entries') :
      AlikeEntries ((key, value) :: entries) ((key, value') :: entries')

end

/-- The fields of two events are equal but for what they store under sensitive keys. -/
def AlikeFields (fields fields' : List (String × Datum)) : Prop :=
  Alike (.object fields) (.object fields')

mutual

/-- **Masking does not look at secrets.** Values that are alike but for them are masked alike, at
whatever depth they differ. -/
theorem redact_eq_of_alike : ∀ {d d' : Datum}, Alike d d' → redact d = redact d'
  | _, _, .same _ => rfl
  | _, _, .list each | _, _, .tuple each => by rw [redact, redact, redactItems_eq_of_alike each]
  | _, _, .mapping each => by rw [redact, redact, redactEntries_eq_of_alike each]

theorem redactItems_eq_of_alike : ∀ {items items' : List Datum}, AlikeItems items items' →
    redactItems items = redactItems items'
  | _, _, .nil => rfl
  | _, _, .cons first others => by
      rw [redactItems, redactItems, redact_eq_of_alike first, redactItems_eq_of_alike others]

theorem redactEntries_eq_of_alike : ∀ {entries entries' : List (Datum × Datum)},
    AlikeEntries entries entries' → redactEntries entries = redactEntries entries'
  | _, _, .nil => rfl
  | _, _, .secret ⟨name, isName, sensitive⟩ others => by
      rw [redactEntries, redactEntries, isName, redactEntries_eq_of_alike others]
      simp only [bind, Except.bind, sensitive, if_true]
  | _, _, .entry first others => by
      rw [redactEntries, redactEntries, redact_eq_of_alike first, redactEntries_eq_of_alike others]

end

/-! ## Places -/

/-- What a value holds at a position, with the text of its key if the value is a mapping. -/
def child? (n : Nat) : Datum → Option (Option String × Datum)
  | .list items | .tuple items => items[n]?.map fun item => (none, item)
  | .mapping entries => entries[n]?.map fun e => (some e.1.label, e.2)
  | _ => none

/-- What masking makes of a child. -/
def maskedChild (child : Option String × Datum) : Option String × Datum :=
  (child.1, if child.1.any isSensitive then .text mask else masked child.2)

/-- **Masking goes child by child.** -/
theorem child?_masked (n : Nat) (d : Datum) : child? n (masked d) = (child? n d).map maskedChild := by
  cases d with
  | list items | tuple items =>
      rw [masked, maskedItems_eq_map]
      simp only [child?, List.getElem?_map, Option.map_map]
      rfl
  | mapping entries =>
      rw [masked, maskedEntries_eq_map]
      simp only [child?, List.getElem?_map, Option.map_map]
      rfl
  | _ => rfl

/-- The secret at a place, which is given by the positions that lead to it.  What stands inside a secret
is part of it and has no place of its own. -/
def secretAt? : List Nat → Datum → Option Datum
  | [], _ => none
  | n :: place, d =>
    match child? n d with
    | none => none
    | some (key, value) =>
      if key.any isSensitive then if place = [] then some value else none else secretAt? place value

/-- **The mask stands at the places of the secrets**, and no other value is stored under a sensitive key. -/
theorem secretAt?_masked (place : List Nat) (d : Datum) :
    secretAt? place (masked d) = (secretAt? place d).map fun _ => .text mask := by
  induction place generalizing d with
  | nil => rfl
  | cons n place ih =>
      rw [secretAt?, secretAt?, child?_masked]
      cases child? n d with
      | none => rfl
      | some child =>
          obtain ⟨key, value⟩ := child
          simp only [Option.map_some, maskedChild]
          by_cases sensitive : key.any isSensitive = true
          · rw [if_pos sensitive, if_pos sensitive]
            split <;> rfl
          · rw [if_neg sensitive, if_neg sensitive, if_neg sensitive]
            exact ih value

/-! ## Events -/

/-- Entries are alike one by one: they have one key, and its values are alike unless it is sensitive. -/
theorem AlikeEntries.forall₂ : ∀ {entries entries' : List (Datum × Datum)}, AlikeEntries entries entries' →
    List.Forall₂ (fun e e' => e.1 = e'.1 ∧
      ((∃ name, e.1.plain = .ok name ∧ isSensitive name = true) ∨ Alike e.2 e'.2)) entries entries'
  | _, _, .nil => .nil
  | _, _, .secret sensitive others => .cons ⟨rfl, .inl sensitive⟩ others.forall₂
  | _, _, .entry first others => .cons ⟨rfl, .inr first⟩ others.forall₂

/-- A field with what masking answers for it. -/
def answered (field : String × Datum) : String × Except Text.NumeralError (String × Datum) :=
  (field.1, redactField field)

/-- Masking looks at a field as at an entry with its name for the key. -/
theorem answered_eq_of_alike {fields fields' : List (String × Datum)} (alike : AlikeFields fields fields') :
    fields.map answered = fields'.map answered := by
  unfold AlikeFields Datum.object at alike
  generalize isObject : fields.map (fun field => (Datum.text field.1, field.2)) = entries at alike
  generalize isObject' : fields'.map (fun field => (Datum.text field.1, field.2)) = entries' at alike
  cases alike with
  | same =>
      have same : Datum.object fields = .object fields' := congrArg Datum.mapping (isObject.trans isObject'.symm)
      rw [Datum.object_injective same]
  | mapping each =>
      have each := each.forall₂
      rw [← isObject, ← isObject', List.forall₂_map_left_iff, List.forall₂_map_right_iff] at each
      rw [← List.forall₂_eq_eq_eq, List.forall₂_map_left_iff, List.forall₂_map_right_iff]
      refine each.imp fun (name, value) (name', value') both => ?_
      obtain ⟨isName, values⟩ := both
      obtain rfl : name = name' := Datum.text.inj isName
      rcases values with ⟨key, isKey, sensitive⟩ | alike
      · obtain rfl : name = key := Except.ok.inj isKey
        simp only [answered, redactField, sensitive, if_true]
      · simp only [answered, redactField, redact_eq_of_alike alike]

theorem redactFields_eq_mapM (fields : List (String × Datum)) :
    redactFields fields = (fields.map answered).mapM (·.2) := by
  rw [List.mapM_map]
  rfl

theorem redactFields_eq_of_alike {fields fields' : List (String × Datum)}
    (alike : AlikeFields fields fields') : redactFields fields = redactFields fields' := by
  rw [redactFields_eq_mapM, redactFields_eq_mapM, answered_eq_of_alike alike]

/-- What is written of an event depends on what masking answers for its fields. -/
theorem Event.redacted_eq_of_alike {level : Level} {text : String} {fields fields' : List (String × Datum)}
    (alike : AlikeFields fields fields') :
    (Event.mk level text fields).redacted = (Event.mk level text fields').redacted := by
  have kept (fields : List (String × Datum)) :
      (fields.filter fun field => !reserved.contains field.1).map answered =
        (fields.map answered).filter fun field => !reserved.contains field.1 := by
    rw [List.filter_map]
    rfl
  unfold redacted
  simp only [redactFields_eq_mapM, List.map_append, kept, answered_eq_of_alike alike]

/-- Nothing about the secrets in which two events differ gets out. -/
structure Withheld (fields fields' : List (String × Datum)) : Prop where
  /-- Masking answers the same for both events. -/
  same : redactFields fields = redactFields fields'
  /-- It makes a masked event of them exactly if every key that it comes to can be written. -/
  returns : (∃ shown, redactFields fields = .ok shown) ↔ LegibleFields fields
  /-- In that event the mask stands at the places of the secrets, and nothing else is stored under a sensitive
  key. -/
  masked : ∀ shown, redactFields fields = .ok shown → ∀ place,
    secretAt? place (.object shown) = (secretAt? place (.object fields)).map fun _ => .text mask
  written : ∀ level text, (Event.mk level text fields).toJson = (Event.mk level text fields').toJson ∧
    (Event.mk level text fields).lineCount = (Event.mk level text fields').lineCount

/-- **Secrets are withheld**: of two events that differ only in what they store under sensitive keys, at any
depth, masking makes the same, with the mask at the places of the secrets. -/
theorem withheld_of_alike {fields fields' : List (String × Datum)} (alike : AlikeFields fields fields') :
    Withheld fields fields' := by
  have same := redactFields_eq_of_alike alike
  refine ⟨same, (gives_redactFields fields).exists_ok_iff, ?_, fun level text => ?_⟩
  · rintro shown returns place
    obtain ⟨-, rfl⟩ := (gives_redactFields fields).eq_ok_iff.mp returns
    rw [← masked_object]
    exact secretAt?_masked place (.object fields)
  · have redacted : (Event.mk level text fields).redacted = (Event.mk level text fields').redacted :=
      Event.redacted_eq_of_alike alike
    exact ⟨by rw [Event.toJson, Event.toJson, redacted], by rw [Event.lineCount, Event.lineCount, redacted]⟩

/-- A request with a token, and with a header and cookies in containers. -/
def requestFields (token header cookies : Datum) : List (String × Datum) :=
  [("api_token", token), ("headers", .object [("Authorization", header), ("accept", .text "json")]),
   ("attempts", .list [.tuple [.int 3, .object [("Set-Cookie", cookies)]]])]

theorem withheld_of_alike_requestFields :
    AlikeFields (requestFields (.text "abc123") (.text "Bearer abc") (.list [.text "sid=1"]))
        (requestFields .null (.int 7) (.text "sid=2")) ∧
      Withheld (requestFields (.text "abc123") (.text "Bearer abc") (.list [.text "sid=1"]))
        (requestFields .null (.int 7) (.text "sid=2")) := by
  have headers : Alike (.object [("Authorization", .text "Bearer abc"), ("accept", .text "json")])
      (.object [("Authorization", .int 7), ("accept", .text "json")]) :=
    .mapping (.secret ⟨_, rfl, by decide +kernel⟩ (.entry (.same _) .nil))
  have attempt : Alike (.object [("Set-Cookie", .list [.text "sid=1"])])
      (.object [("Set-Cookie", .text "sid=2")]) :=
    .mapping (.secret ⟨_, rfl, by decide +kernel⟩ .nil)
  have attempts : Alike (.list [.tuple [.int 3, .object [("Set-Cookie", .list [.text "sid=1"])]]])
      (.list [.tuple [.int 3, .object [("Set-Cookie", .text "sid=2")]]]) :=
    .list (.cons (.tuple (.cons (.same _) (.cons attempt .nil))) .nil)
  have alike : AlikeFields (requestFields (.text "abc123") (.text "Bearer abc") (.list [.text "sid=1"]))
      (requestFields .null (.int 7) (.text "sid=2")) :=
    .mapping (.secret ⟨_, rfl, by decide +kernel⟩ (.entry headers (.entry attempts .nil)))
  exact ⟨alike, withheld_of_alike alike⟩

end IntentSpec.Log
