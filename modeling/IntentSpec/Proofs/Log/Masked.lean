import IntentSpec.Log.Redact
import IntentSpec.Proofs.Datum.Shown

/-!
# Masking as a total function

Masking a value can fail, and does so for one reason only: whether an entry of a mapping is a secret is told
by the text of its key, and a key with an integer of too many digits has none.  The keys that matter are those
that masking comes to, which leaves out whatever stands inside a secret, since a secret is not looked at.

Everything else about masking has nothing to do with that limit.  So the work is split here once: `masked` is
masking with keys of any length, `Legible` is the condition on the keys, and `gives_redact` says that masking is
the former under the latter.  The theorems about secrets and about masking again are proved of the total
function, by recursion on values, and carried over by that one equation.

* `masked`, `maskedField` — values and fields with their secrets masked.
* `Legible`, `LegibleFields` — every key that tells whether a value is a secret can be written.
* `gives_redact`, `gives_redactFields` — masking gives the masked value exactly if this is so.
-/

namespace IntentSpec.Log

mutual

/-- A value with the secrets in it masked, whatever the length of its keys. -/
def masked : Datum → Datum
  | .text s => .text (redactText s)
  | .list items | .tuple items => .list (maskedItems items)
  | .mapping entries => .mapping (maskedEntries entries)
  | d => d

/-- Several values with the secrets in them masked. -/
def maskedItems : List Datum → List Datum
  | [] => []
  | item :: items => masked item :: maskedItems items

/-- Entries with the secrets in them masked. -/
def maskedEntries : List (Datum × Datum) → List (Datum × Datum)
  | [] => []
  | (key, value) :: entries =>
    (key, if isSensitive key.label then .text mask else masked value) :: maskedEntries entries

end

/-- A field with the secrets in it masked. -/
def maskedField (field : String × Datum) : String × Datum :=
  (field.1, if isSensitive field.1 then .text mask else masked field.2)

mutual

/-- Every key that masking comes to can be written. -/
def Legible : Datum → Prop
  | .list items | .tuple items => LegibleItems items
  | .mapping entries => LegibleEntries entries
  | _ => True

/-- Every key that masking comes to in one of the values can be written. -/
def LegibleItems : List Datum → Prop
  | [] => True
  | item :: items => Legible item ∧ LegibleItems items

/-- Every key can be written, and so can the keys of every value that is no secret. -/
def LegibleEntries : List (Datum × Datum) → Prop
  | [] => True
  | (key, value) :: entries =>
    (key.Writable ∧ (isSensitive key.label = true ∨ Legible value)) ∧ LegibleEntries entries

end

/-- Every key that masking comes to in the fields of an event can be written.  The names of the fields themselves
are texts. -/
def LegibleFields (fields : List (String × Datum)) : Prop :=
  ∀ field ∈ fields, isSensitive field.1 = true ∨ Legible field.2

/-- The choice between the mask and the masked value. -/
theorem gives_secretOr {sensitive : Bool} {attempt : Except Text.NumeralError Datum} {condition : Prop}
    {value : Datum} (other : Gives attempt .unwritable condition value) :
    Gives (if sensitive then pure (.text mask) else attempt) .unwritable (sensitive = true ∨ condition)
      (if sensitive then .text mask else value) := by
  cases sensitive with
  | true => exact .of_holds (.inl rfl)
  | false => exact other.congr (by simp)

mutual

/-- **Masking gives the masked value exactly if every key that it comes to can be written.** -/
theorem gives_redact : ∀ d : Datum, Gives (redact d) .unwritable (Legible d) (masked d)
  | .text s => .of_holds trivial
  | .list items | .tuple items => by
      rw [redact, Legible, masked]
      exact (gives_redactItems items).map _
  | .mapping entries => by
      rw [redact, Legible, masked]
      exact (gives_redactEntries entries).map _
  | .null | .bool _ | .int _ | .number _ | .bytes _ | .moment _ | .record _ _ => .of_holds trivial

theorem gives_redactItems : ∀ items : List Datum,
    Gives (redactItems items) .unwritable (LegibleItems items) (maskedItems items)
  | [] => .of_holds trivial
  | item :: items => by
      rw [redactItems, LegibleItems, maskedItems]
      exact (gives_redact item).bind ((gives_redactItems items).map _)

theorem gives_redactEntries : ∀ entries : List (Datum × Datum),
    Gives (redactEntries entries) .unwritable (LegibleEntries entries) (maskedEntries entries)
  | [] => .of_holds trivial
  | (key, value) :: entries => by
      rw [redactEntries, LegibleEntries, maskedEntries, and_assoc]
      exact (Datum.gives_plain key).bind
        ((gives_secretOr (gives_redact value)).bind ((gives_redactEntries entries).map _))

end

theorem gives_redactField (field : String × Datum) :
    Gives (redactField field) .unwritable (isSensitive field.1 = true ∨ Legible field.2)
      (maskedField field) :=
  (gives_secretOr (gives_redact field.2)).map _

theorem gives_redactFields (fields : List (String × Datum)) :
    Gives (redactFields fields) .unwritable (LegibleFields fields) (fields.map maskedField) :=
  .mapM fun field _ => gives_redactField field

theorem maskedItems_eq_map (items : List Datum) : maskedItems items = items.map masked := by
  induction items with
  | nil => rfl
  | cons item items ih => rw [maskedItems, ih, List.map_cons]

theorem maskedEntries_eq_map (entries : List (Datum × Datum)) :
    maskedEntries entries =
      entries.map fun e => (e.1, if isSensitive e.1.label then .text mask else masked e.2) := by
  induction entries with
  | nil => rfl
  | cons e entries ih => rw [maskedEntries, ih, List.map_cons]

/-- The fields of an event are masked as the entries of a mapping are. -/
theorem masked_object (fields : List (String × Datum)) :
    masked (.object fields) = .object (fields.map maskedField) := by
  rw [Datum.object, masked, maskedEntries_eq_map, Datum.object, List.map_map, List.map_map]
  rfl

end IntentSpec.Log
