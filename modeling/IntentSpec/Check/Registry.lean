import IntentSpec.Check.Outcome
import IntentSpec.Failure.Graph

/-!
# Registering checkers

A registry maps the names of capabilities to makers of checkers.  A name is registered once, and what is
registered is called when a checker is asked for.  To look for a capability it has to be a value that can be
the key of a mapping.

A class of checkers can be registered if its checkers are made without arguments, which is found out by asking
for its signature and not by calling it.  The question has three answers.  A class that takes its constructor
from a builtin type, and so was never given a signature, makes the question itself fail; this failure is none
of the registry's own refusals and is passed on as it is.  The other operations rely on foreign code at one
place only, the call of the maker, whose failure is passed on in the same way.

## Main definitions

* `Maker`, `CheckerClass` — what can be registered.
* `Registry.register`, `Registry.decorate`, `Registry.create`, `Registry.holds` — the operations.
* `Registry.names` — the registered names in increasing order.
* `Registry.Fault.message` — why an operation is refused.
-/

namespace IntentSpec

mutual

/-- The kind of the first part of a value on account of which it is no key, if it is none. -/
def Datum.unkeyedKind : Datum → String
  | .tuple items => Datum.unkeyedKinds items
  | d => d.typeName

/-- The kind of the first part of values on account of which one of them is no key. -/
def Datum.unkeyedKinds : List Datum → String
  | [] => ""
  | item :: items => if item.isKey then Datum.unkeyedKinds items else Datum.unkeyedKind item

end

/-- What calling a maker comes to. -/
inductive Made where
  /-- It is a checker of a kind. -/
  | checker (kind : String)
  /-- It is something that is no checker. -/
  | other
  | failure (failure : Failure)
deriving DecidableEq, Repr

/-- What is offered as a maker of checkers. Whether it can be called is found out when it is
registered, and what it makes only when it is called. -/
inductive Maker where
  /-- It makes something when it is called. -/
  | calls (made : Made)
  /-- It cannot be called at all. -/
  | notCallable
deriving DecidableEq, Repr

/-- A maker of checkers of a kind. -/
abbrev Maker.checker (kind : String) : Maker := .calls (.checker kind)

/-- A maker of something that is no checker. -/
abbrev Maker.other : Maker := .calls .other

/-- What the signature of a class says about the arguments of its constructor. -/
inductive Signature where
  /-- No argument has to be given. -/
  | free
  /-- Some argument has to be given. -/
  | needsArgument
  /-- There is no signature to be had, and asking for it fails. -/
  | failed (failure : Failure)
deriving DecidableEq, Repr

/-- A class of checkers. Of its constructor only the signature is known in advance, and some classes
have none that could be asked for. -/
structure CheckerClass where
  name : String
  signature : Signature := .free
deriving DecidableEq, Repr

/-- The registered makers by the names of their capabilities, first registered first. -/
structure Registry where
  entries : List (String × Maker) := []
deriving DecidableEq, Repr

namespace Registry

/-- Why an operation is refused, or what has failed in its course. Every refusal is about one
argument, and its wording names that argument. -/
inductive Fault where
  | blankName
  /-- What is registered cannot be called. -/
  | notCallable
  | taken (shown : String)
  | unregistered (shown : String) (names : List String)
  /-- What was made is no checker. -/
  | notChecker (shown : String)
  /-- Making a checker takes an argument. -/
  | needsArgument (shown : String)
  | notKey (kind : String)
  /-- A capability is refused, and cannot be shown in the message. -/
  | unshown (e : Text.NumeralError)
  /-- A maker, or the question for a signature, fails, and the failure is passed on. -/
  | failed (failure : Failure)
deriving DecidableEq, Repr

/-- The wording of a fault. -/
def Fault.message : Fault → String
  | blankName => "capability: must be a non-empty string"
  | notCallable => "factory: must be callable"
  | taken shown => "capability: " ++ shown ++ " is already registered"
  | unregistered shown names =>
    "capability: unknown capability " ++ shown ++ "; registered: [" ++ ", ".intercalate names ++ "]"
  | notChecker shown => "factory: " ++ shown ++ " factory did not return a BaseChecker"
  | needsArgument shown =>
    "checker_cls: " ++ shown ++ " checker must be constructible without arguments"
  | notKey kind => "unhashable type: '" ++ kind ++ "'"
  | unshown e => e.message
  | failed failure => failure.text

/-- The refusal of a capability that a message shows. -/
def Fault.showing (capability : Datum) (refusal : String → Fault) : Fault :=
  match capability.shown with
  | .ok shown => refusal shown
  | .error e => .unshown e

/-- The maker that is registered for a capability. -/
def find? (registry : Registry) (name : String) : Option Maker :=
  (registry.entries.find? (·.1 == name)).map (·.2)

/-- The registered names in increasing order, whatever the order in which they were registered; this
is how a message lists them. -/
def names (registry : Registry) : List String := sortTexts (registry.entries.map (·.1))

/-- Whether a capability is registered. -/
def contains (registry : Registry) (capability : Datum) : Bool :=
  capability.text?.any fun name => (registry.find? name).isSome

/-- Whether a capability is registered. A value that cannot be a key is not looked for, since
looking for it fails. -/
def holds (registry : Registry) (capability : Datum) : Except Fault Bool :=
  if capability.isKey then .ok (registry.contains capability) else .error (.notKey capability.unkeyedKind)

/-- Registers a maker for a capability that is named and not registered yet. The name is looked at
first and the maker second, so of two faults the one about the name is reported. -/
def register (registry : Registry) (capability : Datum) (maker : Maker) : Except Fault Registry :=
  match capability.text?.filter fun name => !Text.isBlankText name with
  | none => .error .blankName
  | some name =>
    if maker = .notCallable then .error .notCallable
    else if (registry.find? name).isSome then .error (.showing capability .taken)
    else .ok ⟨registry.entries ++ [(name, maker)]⟩

/-- Registers a class whose checkers are made without arguments.  Calling the class makes a checker unless
something else is said. -/
def decorate (registry : Registry) (capability : Datum) (type : CheckerClass)
    (made : Made := .checker type.name) : Except Fault Registry :=
  match type.signature with
  | .failed failure => .error (.failed failure)
  | .needsArgument => .error (.showing capability .needsArgument)
  | .free => registry.register capability (.calls made)

/-- Makes a checker for a capability, and answers its kind. The maker is called anew each time, and
what it makes is looked at each time. -/
def create (registry : Registry) (capability : Datum) : Except Fault String :=
  if capability.isKey then
    match capability.text?.bind registry.find? with
    | some (.calls (.checker kind)) => .ok kind
    | some (.calls (.failure failure)) => .error (.failed failure)
    | some _ => .error (.showing capability .notChecker)
    | none => .error (.showing capability fun shown => .unregistered shown registry.names)
  else .error (.notKey capability.unkeyedKind)

end Registry

end IntentSpec
