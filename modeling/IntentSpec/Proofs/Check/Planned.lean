import IntentSpec.Proofs.Check.Account
import IntentSpec.Proofs.Datum.Reading
import IntentSpec.Proofs.Predicate.Parameters

/-!
# Planned checks have their capability

A predicate may be that of another capability, a capability may have no rules for parameters, and it may
have no checker.  None of this happens to a check that is planned: it is planned because its validation
requires a capability that can be checked and its predicate begins with the name of it, and the words of a
predicate, the rules for parameters and the checkers go by the same names.  What can still be wrong with
such a check is wrong with its parameters.

* `Params.Blameless` — a fault that is one of parameters, as all are that come from looking at values.
* `Check.create_builtin` — there is a checker for every capability.
* `Check.Supported` — parameters are not rejected for the capability, and a checker is made.
* `Check.select_supported` — the checks of a text are supported, of different identifiers, and in the order
  of the validations.
-/

namespace IntentSpec

open Text

namespace Params

/-! ## Reasons that do not blame the capability -/

/-- The reason says that the predicate is that of another capability, or that there is no capability of the
name. -/
def BlamesCapability (reason : String) : Prop :=
  "capability_mismatch".toList <+: reason.toList ∨ "unsupported_capability".toList <+: reason.toList

instance (reason : String) : Decidable (BlamesCapability reason) := inferInstanceAs (Decidable (_ ∨ _))

/-- The fault is one of the capability, not of a parameter. -/
def Fault.ofCapability : Fault → Bool
  | capabilityMismatch _ _ | unsupportedCapability _ => true
  | malformedToken _ | emptyKey _ | missingKey _ | unknownKey _ | relativePath | invalidValue _
  | invalidUrl | invalidScheme _ | invalidMethod _ => false

/-- The fault, if there is one, is not one of the capability. -/
structure Blameless (found : Option Fault) : Prop where
  /-- It is one of a parameter. -/
  other : ∀ fault ∈ found, fault.ofCapability = false

/-- A reason does not blame the capability if its first word and the two others go apart. -/
theorem not_blames_append {word : String} (rest : String)
    (mismatch : ¬ "capability_mismatch".toList <+: word.toList ∧
      ¬ word.toList <+: "capability_mismatch".toList)
    (unsupported : ¬ "unsupported_capability".toList <+: word.toList ∧
      ¬ word.toList <+: "unsupported_capability".toList) :
    ¬ BlamesCapability (word ++ rest) := by
  have begins : word.toList <+: (word ++ rest).toList := by
    rw [String.toList_append]
    exact List.prefix_append _ _
  rintro (other | other)
  · exact Predicate.not_two_prefixes other begins mismatch
  · exact Predicate.not_two_prefixes other begins unsupported

/-- A fault of a parameter is reported by a reason of its own. -/
theorem not_blames_reason {fault : Fault} (other : fault.ofCapability = false) :
    ¬ BlamesCapability fault.reason := by
  cases fault with
  | capabilityMismatch => cases other
  | unsupportedCapability => cases other
  | relativePath => decide
  | invalidUrl => decide
  | _ => exact not_blames_append _ (by decide) (by decide)

theorem Blameless.none : Blameless none := ⟨fun _ nothing => nomatch nothing⟩

theorem Blameless.some {fault : Fault} (other : fault.ofCapability = false) : Blameless (some fault) where
  other := by
    rintro _ ⟨⟩
    exact other

theorem Blameless.orElse {found : Option Fault} {next : Unit → Option Fault} (first : Blameless found)
    (second : Blameless (next ())) : Blameless (found.orElse next) := by
  cases found with
  | none => exact second
  | some fault => exact first

/-! ## What is looked at besides the capability -/

/-- A word that gives no parameter is reported as such. -/
theorem blameless_ofWords {done : Params} {ws : List (List Char)} {fault : Fault}
    (refused : ofWords done ws = .error fault) : Blameless (some fault) := by
  rcases all_or_first ws with each | ⟨front, word, back, rfl, each, stray⟩
  · rw [ofWords_of_all each] at refused
    cases refused
  · rw [ofWords_of_first each stray, offence] at refused
    split at refused <;> cases refused <;> exact .some rfl

theorem blameless_integerFault? (key : String) (good : Int → Bool) (params : Params) :
    Blameless (integerFault? key good params) := by
  unfold integerFault?
  cases value? key params with
  | none => exact .none
  | some text =>
      dsimp only
      split
      · exact .none
      · exact .some rfl

theorem blameless_fileFault? (params : Params) : Blameless (fileFault? params) := by
  unfold fileFault?
  dsimp only
  split
  · exact .some rfl
  · split
    · exact .some rfl
    · exact blameless_integerFault? ..

theorem blameless_commandFault? (params : Params) : Blameless (commandFault? params) :=
  (blameless_integerFault? ..).orElse (blameless_integerFault? ..)

theorem blameless_methodFault? (params : Params) : Blameless (methodFault? params) := by
  unfold methodFault?
  cases value? "method" params with
  | none => exact .none
  | some method =>
      dsimp only
      split
      · exact .none
      · exact .some rfl

theorem blameless_urlFault? {text : String} {found : Option Fault} (looked : urlFault? text = .ok found) :
    Blameless found := by
  unfold urlFault? at looked
  cases parsed : Url.parse text with
  | error e =>
      rw [parsed] at looked
      cases looked
      exact .some rfl
  | ok url =>
      rw [parsed] at looked
      dsimp only at looked
      split at looked
      · cases looked
        exact .some rfl
      · split at looked
        · cases looked
          exact .some rfl
        · obtain ⟨host, -, answered⟩ := (bind_eq_ok_iff ..).mp looked
          cases answered
          split
          · exact .some rfl
          · exact .none

theorem blameless_httpFault? {params : Params} {found : Option Fault}
    (looked : httpFault? params = .ok found) : Blameless found := by
  obtain ⟨located, url, answered⟩ := (bind_eq_ok_iff ..).mp looked
  cases located with
  | some fault =>
      cases answered
      exact blameless_urlFault? url
  | none =>
      cases answered
      exact (blameless_methodFault? params).orElse
        ((blameless_integerFault? ..).orElse (blameless_integerFault? ..))

theorem blameless_valueFault? {capability : Capability} {params : Params} {found : Option Fault}
    (looked : valueFault? capability params = .ok found) : Blameless found := by
  cases capability with
  | commandExit =>
      cases looked
      exact blameless_commandFault? params
  | fileExists =>
      cases looked
      exact blameless_fileFault? params
  | httpEndpoint => exact blameless_httpFault? looked

/-- The rules of a capability that there is find faults of parameters only. -/
theorem blameless_fault? (capability : Capability) {params : Params} {found : Option Fault}
    (looked : fault? capability.name params = .ok found) : Blameless found := by
  have known : Capability.ofName? capability.name = some capability :=
    (Capability.ofName?_eq_some_iff _ _).mpr rfl
  unfold fault? at looked
  rw [known] at looked
  dsimp only at looked
  split at looked
  · cases looked
    exact .some rfl
  · split at looked
    · cases looked
      exact .some rfl
    · exact blameless_valueFault? looked

/-- What is read from a predicate that begins with its capability is rejected for a parameter only. -/
theorem blameless_read {predicate : String} {capability : Capability}
    (begins : (words predicate.toList).head? = some capability.name.toList) {fault : Fault}
    (rejected : read predicate capability.name = .ok (.error fault)) : Blameless (some fault) := by
  obtain ⟨rest, split⟩ := List.head?_eq_some_iff.mp begins
  cases given : ofPredicate predicate capability.name with
  | error fault' =>
      rw [read_of_malformed given] at rejected
      cases rejected
      rw [ofPredicate_of_capability split] at given
      exact blameless_ofWords given
  | ok params =>
      rw [read_of_words given] at rejected
      cases looked : fault? capability.name params with
      | error e =>
          rw [looked] at rejected
          cases rejected
      | ok found =>
          rw [looked] at rejected
          cases found with
          | none => cases rejected
          | some fault' =>
              cases rejected
              exact blameless_fault? capability looked

end Params

/-! ## Checkers -/

namespace Check

/-- **There is a checker for every capability**, as the registry is filled from the list of
capabilities itself. -/
theorem create_builtin (capability : Capability) :
    builtin.create (.text capability.name) = .ok capability.name := by
  cases capability <;> rfl

/-- Registering the checkers one after another is never refused, and makes these. -/
example : Capability.all.foldlM (fun (registry : Registry) capability =>
    registry.decorate (.text capability.name) ⟨capability.name, .free⟩) {} = .ok builtin := by decide

/-- Whatever becomes of the parameters of the check, they are not rejected for its capability, and a checker
is made for it. -/
structure Supported (check : PlannedCheck) : Prop where
  /-- No reason for which the parameters are rejected blames the capability. -/
  reason : ∀ fault, Params.read check.predicate check.capability = .ok (.error fault) →
    ¬ Params.BlamesCapability fault.reason
  checker : ∃ kind, builtin.create (.text check.capability) = .ok kind

/-- A check is planned for a capability that there is, with a predicate that begins with its name. -/
theorem supported_of_mem_select {spec : Document.Spec} {predicates : List (String × String)}
    {check : PlannedCheck} (planned : check ∈ PlannedCheck.select spec predicates) : Supported check := by
  obtain ⟨v, -, made⟩ := List.mem_filterMap.mp planned
  obtain ⟨-, -, known, -, begins⟩ := (Predicate.ofValidation?_eq_some_iff predicates v check).mp made
  obtain ⟨capability, known⟩ := Option.isSome_iff_exists.mp known
  have named : capability.name = check.capability := (Capability.ofName?_eq_some_iff _ _).mp known
  have head : (words check.predicate.toList).head? = some capability.name.toList := by
    obtain ⟨word, first, written⟩ := Option.map_eq_some_iff.mp begins
    rw [first, named, ← written, String.toList_ofList]
  constructor
  · intro fault rejected
    rw [← named] at rejected
    exact Params.not_blames_reason ((Params.blameless_read head rejected).other fault rfl)
  · exact ⟨capability.name, named ▸ create_builtin capability⟩

/-- The checks of a specification come in the order of its validations. -/
theorem map_validation_select (spec : Document.Spec) (predicates : List (String × String)) :
    ((PlannedCheck.select spec predicates).map (·.validation)).Sublist spec.validations.names := by
  unfold PlannedCheck.select Document.Table.names
  induction spec.validations.entries with
  | nil => exact List.Sublist.refl _
  | cons v entries ih =>
      rw [List.filterMap_cons, List.map_cons]
      cases made : PlannedCheck.ofValidation? predicates v with
      | none => exact ih.cons _
      | some check =>
          obtain ⟨named, -⟩ := (Predicate.ofValidation?_eq_some_iff predicates v check).mp made
          rw [List.map_cons, named]
          exact ih.cons_cons _

/-- **What is planned can be carried out as far as its capability goes.**  The checks of a text have
different identifiers and come in the order in which the validations are declared.  Where the parameters of
one are rejected, they are not rejected for the capability, and a checker is made for each; so it is for all
that a verification is asked for, whatever it selects. -/
theorem select_supported (text : String) :
    (PlannedCheck.select (Document.Spec.parse text) (Predicate.extract text)).Pairwise
        (fun a b => a.id ≠ b.id) ∧
      ((PlannedCheck.select (Document.Spec.parse text) (Predicate.extract text)).map
        (·.validation)).Sublist (Document.Spec.parse text).validations.names ∧
      (∀ check ∈ PlannedCheck.select (Document.Spec.parse text) (Predicate.extract text),
        Supported check) ∧
      ∀ ids beginnings, ∀ check ∈ PlannedCheck.ofText text ids beginnings, Supported check := by
  refine ⟨PlannedCheck.pairwise_select _ _, map_validation_select _ _,
    fun check planned => supported_of_mem_select planned, fun ids beginnings check asked => ?_⟩
  exact supported_of_mem_select ((PlannedCheck.filter_sublist ids beginnings _).subset asked)

/-- A text with a validation whose predicate has a word without an equals sign. -/
def straySelection : String :=
  "DIL:spec v0\nsystem \"S\" \x7b\nvalidations \x7b\nvalidate W \x7b\n" ++
  "requires_capability: \"check_file_exists\"\npredicate: \"check_file_exists path\"\n\x7d\n" ++
  "\x7d\n\x7d\n"

/-- The validation is planned.  Its parameters are rejected for their word, and a checker is made for it all
the same. -/
theorem select_supported_straySelection :
    ∃ check, check ∈ PlannedCheck.select (Document.Spec.parse straySelection)
          (Predicate.extract straySelection) ∧
      check ∈ PlannedCheck.ofText straySelection ["W"] [] ∧ check.id = "validations.W" ∧
      Params.read check.predicate check.capability = .ok (.error (.malformedToken "path")) ∧
      ¬ Params.BlamesCapability (Params.Fault.malformedToken "path").reason ∧
      ∃ kind, builtin.create (.text check.capability) = .ok kind := by
  have planned : PlannedCheck.select (Document.Spec.parse straySelection)
      (Predicate.extract straySelection) =
        [⟨"W", "check_file_exists", "check_file_exists path"⟩] := by
    decide +kernel
  have asked : ⟨"W", "check_file_exists", "check_file_exists path"⟩ ∈
      PlannedCheck.ofText straySelection ["W"] [] := by
    rw [PlannedCheck.ofText, planned]
    decide
  have rejected : Params.read "check_file_exists path" "check_file_exists" =
      .ok (.error (.malformedToken "path")) := by
    decide +kernel
  obtain ⟨-, -, -, supported⟩ := select_supported straySelection
  obtain ⟨reason, checker⟩ := supported ["W"] [] _ asked
  exact ⟨_, planned ▸ List.mem_cons_self, asked, rfl, rejected, reason _ rejected, checker⟩

end Check

end IntentSpec
