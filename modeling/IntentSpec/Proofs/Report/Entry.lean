import IntentSpec.Proofs.Json.Writable
import IntentSpec.Report.Basic

/-!
# Written entries of a report

Outcomes and violations are written as objects, and what is written determines the fields that are
shown: an empty reason is left out, and what a violation refers to is known only as far as it is
written.

The key of a violation is a text itself, so a violation that refers to an integer with too many digits has
none.  It still has a place, by the spelling of what it refers to, and the key is the place wherever there is
a key (`Violation.gives_sortKey`).  Order and ties are questions about places.

* `Outcome.place`, `Violation.place` — where an entry stands in the canonical order.
* `Outcome.written`, `Violation.written` — how an entry is written in the canonical text, in every
  style.
* `Outcome.written_eq_iff`, `Violation.written_eq_iff` — for entries in one place, which fields decide how
  they are written.
-/

namespace IntentSpec.Report

/-! ## The members of entries -/

/-- The members of a piece of evidence. -/
def Evidence.jsonMembers (e : Evidence) : List (String × Json) :=
  [("kind", .text e.kind.name), ("value", .text e.value)]

/-- The reason that an outcome shows: an empty one is left out. -/
def Outcome.shownReason (o : Outcome) : Option String := if given o.reason then o.reason else none

/-- The members of an outcome. -/
def Outcome.jsonMembers (o : Outcome) : List (String × Json) :=
  [("validation_id", .text o.validation), ("status", .text o.status.name),
    ("targets", .texts o.targets)] ++
  (o.shownReason.map fun reason => ("reason", Json.text reason)).toList ++
  annotations o.evidence o.notes

/-- The members of a violation. -/
def Violation.jsonMembers (v : Violation) : List (String × Json) :=
  [("code", .text v.code), ("message", .text v.message), ("refs", .object v.refs)] ++
    annotations v.evidence v.notes

theorem Evidence.toJson_eq (e : Evidence) : e.toJson = .object e.jsonMembers := rfl

theorem Outcome.toJson_eq (o : Outcome) : o.toJson = .object o.jsonMembers := by
  unfold Outcome.toJson Outcome.jsonMembers Outcome.shownReason
  congr 2
  cases h : o.reason with
  | none => rfl
  | some reason => by_cases empty : reason = "" <;> simp [given, empty]

theorem Violation.toJson_eq (v : Violation) : v.toJson = .object v.jsonMembers := rfl

theorem mem_annotations (evidence : Option (List Evidence)) (notes : Option (List String))
    (key : String) (w : Json) : (key, w) ∈ annotations evidence notes ↔
      (key = "evidence" ∧ ∃ l ∈ evidence, Json.array (l.map Evidence.toJson) = w) ∨
        (key = "notes" ∧ ∃ l ∈ notes, Json.texts l = w) := by
  unfold annotations
  cases evidence <;> cases notes <;> simp [eq_comm]

theorem Outcome.mem_members (o : Outcome) (key : String) (w : Json) : (key, w) ∈ o.jsonMembers ↔
    (key = "validation_id" ∧ .text o.validation = w) ∨ (key = "status" ∧ .text o.status.name = w) ∨
      (key = "targets" ∧ .texts o.targets = w) ∨
      (key = "reason" ∧ ∃ reason ∈ o.shownReason, Json.text reason = w) ∨
      (key, w) ∈ annotations o.evidence o.notes := by
  unfold jsonMembers
  cases o.shownReason <;> simp [eq_comm]

theorem Violation.mem_members (v : Violation) (key : String) (w : Json) : (key, w) ∈ v.jsonMembers ↔
    (key = "code" ∧ .text v.code = w) ∨ (key = "message" ∧ .text v.message = w) ∨
      (key = "refs" ∧ .object v.refs = w) ∨ (key, w) ∈ annotations v.evidence v.notes := by
  simp [jsonMembers, eq_comm]

/-! ## Values that can be read off their trees -/

theorem text_of_alike {s t : String}
    (h : Json.Alike (Json.text s).sortKeys (Json.text t).sortKeys) : s = t := by
  rw [Json.sortKeys_text, Json.sortKeys_text] at h
  exact h.text_eq

theorem texts_of_alike {l l' : List String}
    (h : Json.Alike (Json.texts l).sortKeys (Json.texts l').sortKeys) : l = l' := by
  rw [Json.sortKeys_texts, Json.sortKeys_texts] at h
  exact h.texts_eq

theorem status_of_alike {s t : Status}
    (h : Json.Alike (Json.text s.name).sortKeys (Json.text t.name).sortKeys) : s = t := by
  have names : s.name = t.name := text_of_alike h
  cases s <;> cases t <;> first | rfl | exact absurd names (by decide)

theorem kind_of_alike {k l : EvidenceKind}
    (h : Json.Alike (Json.text k.name).sortKeys (Json.text l.name).sortKeys) : k = l := by
  have names : k.name = l.name := text_of_alike h
  cases k <;> cases l <;> first | rfl | exact absurd names (by decide)

theorem Evidence.eq_of_alike {e e' : Evidence}
    (h : Json.Alike e.toJson.sortKeys e'.toJson.sortKeys) : e = e' := by
  rw [Evidence.toJson_eq, Evidence.toJson_eq] at h
  have kind : some e.kind = some e'.kind :=
    h.field_eq "kind" (fun e => some e.kind) kind_of_alike (by simp [jsonMembers, eq_comm])
  have value : some e.value = some e'.value :=
    h.field_eq "value" (fun e => some e.value) text_of_alike (by simp [jsonMembers, eq_comm])
  cases e
  cases e'
  obtain rfl := Option.some.inj kind
  obtain rfl := Option.some.inj value
  rfl

theorem evidence_of_alike {l l' : List Evidence}
    (h : Json.Alike (Json.array (l.map Evidence.toJson)).sortKeys
      (Json.array (l'.map Evidence.toJson)).sortKeys) : l = l' := by
  rw [Json.alike_array_sortKeys_iff, List.map_map, List.map_map] at h
  refine (List.map_injective_iff.mpr ?_) h
  intro e e' same
  exact Evidence.eq_of_alike (Json.written_eq_iff.mp same)

/-! ## Written entries -/

/-- How an outcome is written in the canonical text, in every style. -/
def Outcome.written (o : Outcome) : Json.Style → Nat → List Char := o.sortTargets.toJson.written

/-- How a violation is written in the canonical text, in every style. -/
def Violation.written (v : Violation) : Json.Style → Nat → List Char := v.toJson.written

/-- The key that an outcome is sorted by, from its sorted targets. -/
def Outcome.place (o : Outcome) : String × String := o.sortTargets.sortKey

/-- The key that a violation is sorted by, with what it refers to spelled out in full. -/
def Violation.place (v : Violation) : String × String :=
  (v.code, (Json.object v.refs).sortKeys.spelling .compact)

theorem Violation.gives_sortKey (v : Violation) :
    Gives v.sortKey .unwritable (Json.object v.refs).Writable v.place :=
  (Json.gives_compactText (.object v.refs)).map _

/-- Outcomes show the same under their rule. -/
structure Outcome.ShownAlike (a b : Outcome) : Prop where
  status : a.status = b.status
  /-- They are about the same targets, in some order. -/
  targets : sortTexts a.targets = sortTexts b.targets
  reason : a.shownReason = b.shownReason
  evidence : a.evidence = b.evidence
  notes : a.notes = b.notes

/-- Violations show the same beside their kind and what they refer to. -/
structure Violation.ShownAlike (a b : Violation) : Prop where
  message : a.message = b.message
  evidence : a.evidence = b.evidence
  notes : a.notes = b.notes

/-- **Outcomes in one place are written alike exactly when they show the same.** -/
theorem Outcome.written_eq_iff {a b : Outcome} (tied : a.place = b.place) :
    a.written = b.written ↔ a.ShownAlike b := by
  -- The key holds the targets joined into one text, which does not determine them.
  have rule : a.validation = b.validation := congrArg Prod.fst tied
  have reasons : ∀ o : Outcome, o.sortTargets.shownReason = o.shownReason := fun _ => rfl
  unfold Outcome.written
  rw [Json.written_eq_iff, Outcome.toJson_eq, Outcome.toJson_eq]
  constructor
  · intro h
    have status : some a.status = some b.status :=
      h.field_eq "status" (fun o => some o.status) status_of_alike
        (by simp [mem_members, mem_annotations])
    have targets : some (sortTexts a.targets) = some (sortTexts b.targets) :=
      h.field_eq "targets" (fun o => some o.targets) texts_of_alike
        (by simp [mem_members, mem_annotations])
    have reason : a.shownReason = b.shownReason :=
      h.field_eq "reason" shownReason text_of_alike (by simp [mem_members, mem_annotations])
    have evidence : a.evidence = b.evidence :=
      h.field_eq "evidence" evidence evidence_of_alike (by simp [mem_members, mem_annotations])
    have notes : a.notes = b.notes :=
      h.field_eq "notes" notes texts_of_alike (by simp [mem_members, mem_annotations])
    exact ⟨Option.some.inj status, Option.some.inj targets, reason, evidence, notes⟩
  · intro same
    have trees : a.sortTargets.jsonMembers = b.sortTargets.jsonMembers := by
      unfold jsonMembers
      rw [reasons, reasons, same.reason]
      simp only [sortTargets, rule, same.status, same.targets, same.evidence, same.notes]
    rw [trees]
    exact Json.Alike.refl _

/-- Violations in one place refer to what is written alike. -/
theorem Violation.alike_refs {a b : Violation} (tied : a.place = b.place) :
    Json.Alike (Json.sortKeys (.object a.refs)) (Json.sortKeys (.object b.refs)) :=
  (Json.spelling_eq_iff Json.Style.readable_compact).mp (congrArg Prod.snd tied)

/-- **Violations in one place are written alike exactly when they show the same.** References show
what they are up to the order of members, and everything else as it is. -/
theorem Violation.written_eq_iff {a b : Violation} (tied : a.place = b.place) :
    a.written = b.written ↔ a.ShownAlike b := by
  have code : a.code = b.code := congrArg Prod.fst tied
  unfold Violation.written
  rw [Json.written_eq_iff, Violation.toJson_eq, Violation.toJson_eq]
  constructor
  · intro h
    have message : some a.message = some b.message :=
      h.field_eq "message" (fun v => some v.message) text_of_alike
        (by simp [mem_members, mem_annotations])
    have evidence : a.evidence = b.evidence :=
      h.field_eq "evidence" evidence evidence_of_alike (by simp [mem_members, mem_annotations])
    have notes : a.notes = b.notes :=
      h.field_eq "notes" notes texts_of_alike (by simp [mem_members, mem_annotations])
    exact ⟨Option.some.inj message, evidence, notes⟩
  · intro same
    refine Json.Alike.object_sortKeys ?_
    unfold jsonMembers
    rw [code, same.message, same.evidence, same.notes]
    refine List.Forall₂.cons ⟨rfl, Json.Alike.refl _⟩ (List.Forall₂.cons ⟨rfl, Json.Alike.refl _⟩
      (List.Forall₂.cons ⟨rfl, alike_refs tied⟩ ?_))
    exact List.forall₂_same.mpr fun m _ => ⟨rfl, Json.Alike.refl _⟩

end IntentSpec.Report
