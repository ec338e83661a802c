import IntentSpec.Predicate.Plan
import IntentSpec.Proofs.Text.Numeral
import Mathlib.Data.List.Basic
import Mathlib.Tactic.Tauto

/-!
# Which parameters are accepted

The parameters of a check are accepted if nothing is wrong with them, and otherwise rejected with a
reason.  There is a third way out: the host of a locator is shown in order to see whether there is one,
and showing a host that begins with an encoded label decodes it, which may fail.

All other faults of a locator are reasons for a rejection, and this one passes through instead.  The
third way out is described by the locator alone (`Escapes`), so that it is seen from the parameters whether
they are answered, without reading them.  A check whose parameters are not answered has no outcome, and
neither has the verification that it belongs to.

For each capability it is said once what is known of accepted parameters; the statements about checks use
only that and not how the parameters were read.

* `Params.Accepted` — the parameters pass all checks of a capability.
* `Params.accepted_command`, `Params.accepted_file`, `Params.accepted_http` — what is known of accepted
  parameters.
* `Params.read_answers_iff` — the parameters of a planned check are either accepted or rejected, unless
  an encoded host does not decode.
* `Params.not_answered_emptyLabelCheck` — such a host.
-/

namespace IntentSpec

open Text

namespace Capability

theorem name_injective : ∀ c d : Capability, c.name = d.name → c = d := by
  intro c d
  cases c <;> cases d <;> decide

theorem ofName?_eq_some_iff (name : String) (capability : Capability) :
    ofName? name = some capability ↔ capability.name = name := by
  unfold ofName?
  constructor
  · intro found
    simpa using List.find?_some found
  · rintro rfl
    cases capability <;> rfl

end Capability

namespace Params

/-! ## Integers -/

/-- The integer that a parameter gives, or another one where the parameter is missing. -/
def integerOr (key : String) (default : Int) (params : Params) : Int :=
  ((value? key params).bind exactInteger?).getD default

theorem integerOr_eq (key : String) (default : Int) (params : Params) :
    integerOr key default params = ((value? key params).bind exactInteger?).getD default := rfl

theorem integerFault?_eq_none_iff (key : String) (good : Int → Bool) (params : Params) :
    integerFault? key good params = none ↔
      ∀ text, value? key params = some text → ∃ n, exactInteger? text = some n ∧ good n = true := by
  unfold integerFault?
  cases value? key params with
  | none => simp
  | some text => cases read : exactInteger? text <;> simp [read]

theorem timeoutFault?_eq_none {params : Params} (sound : timeoutFault? params = none) {default : Int}
    (positive : 0 < default) : 0 < integerOr "timeout_ms" default params := by
  unfold integerOr
  cases given : value? "timeout_ms" params with
  | none => exact positive
  | some text =>
      obtain ⟨n, read, good⟩ := (integerFault?_eq_none_iff ..).mp sound text given
      rw [Option.bind_some, read]
      exact of_decide_eq_true good

/-! ## Locators -/

theorem scheme_ne_of_mem {scheme : String} (supported : scheme ∈ schemes) : scheme ≠ "" := by
  rintro rfl
  exact absurd supported (by decide)

/-- The host is shown just where the scheme is supported. -/
theorem urlFault?_of_supported {text : String} {url : Url} (parsed : Url.parse text = .ok url)
    (supported : url.scheme ∈ schemes) :
    urlFault? text = url.shownHost.map fun host => if host = "" then some .invalidUrl else none := by
  unfold urlFault?
  rw [parsed]
  cases shown : url.shownHost <;>
    simp [supported, scheme_ne_of_mem supported, shown, bind, Except.bind, pure, Except.pure,
      Except.map]

theorem urlFault?_of_unsupported {text : String}
    (unsupported : ∀ url, Url.parse text = .ok url → url.scheme ∉ schemes) :
    ∃ fault, urlFault? text = .ok (some fault) := by
  unfold urlFault?
  cases parsed : Url.parse text with
  | error e => exact ⟨_, rfl⟩
  | ok url =>
      dsimp only
      split
      · exact ⟨_, rfl⟩
      · rw [if_pos (by simpa using unsupported url parsed)]
        exact ⟨_, rfl⟩

theorem urlFault?_eq_error_iff (text : String) (fault : Hostname.Fault) :
    urlFault? text = .error fault ↔
      ∃ url, Url.parse text = .ok url ∧ url.scheme ∈ schemes ∧ url.shownHost = .error fault := by
  constructor
  · intro failed
    by_contra none
    push Not at none
    by_cases found : ∃ url, Url.parse text = .ok url ∧ url.scheme ∈ schemes
    · obtain ⟨url, parsed, supported⟩ := found
      rw [urlFault?_of_supported parsed supported] at failed
      refine none url parsed supported ?_
      cases shown : url.shownHost <;> simp [shown, Except.map] at failed
      rw [failed]
    · -- Any other locator is rejected before its host is shown.
      push Not at found
      obtain ⟨fault', rejected⟩ := urlFault?_of_unsupported found
      rw [rejected] at failed
      cases failed
  · rintro ⟨url, parsed, supported, shown⟩
    rw [urlFault?_of_supported parsed supported, shown]
    rfl

/-- A sound locator says with a supported scheme and a host where a request goes. -/
theorem urlFault?_eq_none {text : String} (sound : urlFault? text = .ok none) :
    ∃ url host, Url.parse text = .ok url ∧ url.isAbsolute = true ∧ url.shownHost = .ok host := by
  by_cases found : ∃ url, Url.parse text = .ok url ∧ url.scheme ∈ schemes
  · obtain ⟨url, parsed, supported⟩ := found
    rw [urlFault?_of_supported parsed supported] at sound
    cases shown : url.shownHost with
    | error fault => simp [shown, Except.map] at sound
    | ok host =>
        have some : host ≠ "" := by simpa [shown, Except.map] using sound
        refine ⟨url, host, parsed, ?_, shown⟩
        -- An empty host is shown as it is.
        have sent : url.host ≠ "" := by
          intro empty
          rw [Url.shownHost, empty, if_neg (by decide)] at shown
          exact some (Except.ok.inj shown).symm
        simp [Url.isAbsolute, scheme_ne_of_mem supported, sent]
  · push Not at found
    obtain ⟨fault, rejected⟩ := urlFault?_of_unsupported found
    rw [rejected] at sound
    cases sound

/-- Showing a host fails exactly if it begins with an encoded label and does not decode. -/
theorem shownHost_eq_error_iff (url : Url) (fault : Hostname.Fault) :
    url.shownHost = .error fault ↔
      "xn--".toList <+: url.host.toList ∧ Hostname.toUnicode url.host.toList = .error fault := by
  unfold Url.shownHost
  rw [← List.isPrefixOf_iff_prefix]
  cases encoded : "xn--".toList.isPrefixOf url.host.toList with
  | false => exact iff_of_false (by simp) (by simp)
  | true =>
      cases Hostname.toUnicode url.host.toList <;>
        simp only [Except.map, if_true, true_and, reduceCtorEq, Except.error.injEq]

/-! ## Accepted parameters -/

/-- The parameters pass all checks of a capability. -/
def Accepted (capability : Capability) (params : Params) : Prop :=
  fault? capability.name params = .ok none

/-- What the capability needs is given, and it knows all that is. -/
def Complete (capability : Capability) (params : Params) : Prop :=
  (∀ key ∈ required capability, ∃ value, value? key params = some value) ∧
    ∀ p ∈ params, p.1 ∈ known capability

theorem fault?_of_complete {capability : Capability} {params : Params}
    (complete : Complete capability params) :
    fault? capability.name params = valueFault? capability params := by
  obtain ⟨given, recognised⟩ := complete
  have none_missing : ((required capability).find? fun key => (value? key params).isNone) = none := by
    rw [List.find?_eq_none]
    intro key needed
    obtain ⟨value, here⟩ := given key needed
    simp [here]
  have none_unknown : (params.find? fun p => !(known capability).contains p.1) = none := by
    rw [List.find?_eq_none]
    intro p here
    simpa using recognised p here
  unfold fault?
  rw [(Capability.ofName?_eq_some_iff _ _).mpr rfl]
  simp only [none_missing, none_unknown]

theorem fault?_of_not_complete {capability : Capability} {params : Params}
    (incomplete : ¬ Complete capability params) :
    ∃ fault, fault? capability.name params = .ok (some fault) := by
  unfold fault?
  rw [(Capability.ofName?_eq_some_iff _ _).mpr rfl]
  dsimp only
  cases missing : (required capability).find? fun key => (value? key params).isNone with
  | some key => exact ⟨_, rfl⟩
  | none =>
      cases unknown : params.find? fun p => !(known capability).contains p.1 with
      | some p => exact ⟨_, rfl⟩
      | none =>
          rw [List.find?_eq_none] at missing unknown
          refine absurd ⟨fun key needed => ?_, fun p here => ?_⟩ incomplete
          · simpa [Option.ne_none_iff_exists'] using missing key needed
          · simpa using unknown p here

theorem accepted_iff (capability : Capability) (params : Params) :
    Accepted capability params ↔
      Complete capability params ∧ valueFault? capability params = .ok none := by
  unfold Accepted
  by_cases complete : Complete capability params
  · rw [fault?_of_complete complete]
    simp [complete]
  · obtain ⟨fault, rejected⟩ := fault?_of_not_complete complete
    rw [rejected]
    simp [complete]

theorem accepted_file {params : Params} (accepted : Accepted .fileExists params) :
    (∃ path, value? "path" params = some path) ∧
      integerFault? "min_size_bytes" (0 ≤ ·) params = none := by
  obtain ⟨⟨given, -⟩, sound⟩ := (accepted_iff ..).mp accepted
  refine ⟨given "path" (by decide), ?_⟩
  have sound : fileFault? params = none := Except.ok.inj sound
  unfold fileFault? at sound
  dsimp only at sound
  split at sound
  · cases sound
  · split at sound
    · cases sound
    · exact sound

theorem accepted_command_iff (params : Params) :
    Accepted .commandExit params ↔ Complete .commandExit params ∧
      integerFault? "expected_exit" (fun _ => true) params = none ∧ timeoutFault? params = none := by
  rw [accepted_iff]
  refine and_congr_right fun _ => ?_
  have checked : valueFault? .commandExit params = .ok (commandFault? params) := rfl
  rw [checked, Except.ok.injEq, commandFault?, Option.orElse_eq_or, Option.or_eq_none_iff]

theorem accepted_command {params : Params} (accepted : Accepted .commandExit params) :
    (∃ cmd, value? "cmd" params = some cmd) ∧ (∃ args, value? "args" params = some args) ∧
      integerFault? "expected_exit" (fun _ => true) params = none ∧ timeoutFault? params = none := by
  obtain ⟨⟨given, -⟩, sound⟩ := (accepted_command_iff params).mp accepted
  exact ⟨given "cmd" (by decide), given "args" (by decide), sound⟩

theorem accepted_http {params : Params} (accepted : Accepted .httpEndpoint params) :
    (∃ text url host, value? "url" params = some text ∧ Url.parse text = .ok url ∧
        url.isAbsolute = true ∧ url.shownHost = .ok host) ∧
      integerFault? "expected_status" (fun n => 100 ≤ n && n ≤ 599) params = none ∧
      timeoutFault? params = none := by
  obtain ⟨⟨given, -⟩, sound⟩ := (accepted_iff ..).mp accepted
  obtain ⟨text, located⟩ := given "url" (by decide)
  have sound : httpFault? params = .ok none := sound
  unfold httpFault? at sound
  rw [located, Option.getD_some] at sound
  cases locator : urlFault? text with
  | error fault => simp [locator, bind, Except.bind] at sound
  | ok fault =>
      cases fault with
      | some fault => simp [locator, bind, Except.bind, pure, Except.pure] at sound
      | none =>
          obtain ⟨url, host, parsed, absolute, shown⟩ := urlFault?_eq_none locator
          refine ⟨⟨text, url, host, located, parsed, absolute, shown⟩, ?_⟩
          rw [locator] at sound
          have sound := Except.ok.inj sound
          simp only [Option.orElse_eq_or, Option.or_eq_none_iff] at sound
          exact sound.2

/-! ## Reading a predicate -/

/-- Showing the host of a check fails: its parameters are complete, and their locator is sound but for
a host that begins with an encoded label and does not decode. -/
structure Escapes (check : PlannedCheck) (fault : Hostname.Fault) : Prop where
  /-- The check is one of a server. -/
  server : check.capability = Capability.httpEndpoint.name
  undecoded : ∃ params text url, ofPredicate check.predicate check.capability = .ok params ∧
    Complete .httpEndpoint params ∧ value? "url" params = some text ∧ Url.parse text = .ok url ∧
    url.scheme ∈ schemes ∧ "xn--".toList <+: url.host.toList ∧
    Hostname.toUnicode url.host.toList = .error fault

theorem valueFault?_eq_error_iff (capability : Capability) (params : Params)
    (fault : Hostname.Fault) :
    valueFault? capability params = .error fault ↔
      capability = .httpEndpoint ∧ urlFault? ((value? "url" params).getD "") = .error fault := by
  cases capability with
  | commandExit => simp [valueFault?]
  | fileExists => simp [valueFault?]
  | httpEndpoint =>
      simp only [valueFault?, httpFault?, true_and]
      cases urlFault? ((value? "url" params).getD "") with
      | error e => simp [bind, Except.bind]
      | ok found => cases found <;> simp [bind, Except.bind, pure, Except.pure]

theorem fault?_eq_error_iff (name : String) (params : Params) (fault : Hostname.Fault) :
    fault? name params = .error fault ↔
      name = Capability.httpEndpoint.name ∧ Complete .httpEndpoint params ∧
        urlFault? ((value? "url" params).getD "") = .error fault := by
  cases known : Capability.ofName? name with
  | none =>
      have unnamed : ¬ name = Capability.httpEndpoint.name := by
        rintro rfl
        rw [(Capability.ofName?_eq_some_iff _ _).mpr rfl] at known
        cases known
      unfold fault?
      rw [known]
      simp [unnamed]
  | some capability =>
      obtain rfl := (Capability.ofName?_eq_some_iff _ _).mp known
      have named : capability.name = Capability.httpEndpoint.name ↔ capability = .httpEndpoint :=
        ⟨Capability.name_injective _ _, congrArg _⟩
      rw [named]
      by_cases complete : Complete capability params
      · rw [fault?_of_complete complete, valueFault?_eq_error_iff]
        constructor
        · rintro ⟨rfl, failed⟩
          exact ⟨rfl, complete, failed⟩
        · rintro ⟨rfl, -, failed⟩
          exact ⟨rfl, failed⟩
      · -- Incomplete parameters are rejected before any value is looked at.
        obtain ⟨fault', rejected⟩ := fault?_of_not_complete complete
        rw [rejected]
        refine iff_of_false (by simp) ?_
        rintro ⟨rfl, complete', -⟩
        exact complete complete'

/-- The parameters that the words of a predicate give are checked. -/
theorem read_of_words {predicate name : String} {params : Params}
    (given : ofPredicate predicate name = .ok params) :
    read predicate name = (fault? name params).map fun found =>
      match found with
      | some fault => .error fault
      | none => .ok params := by
  unfold read
  rw [given]
  cases checked : fault? name params with
  | error e => simp [checked, bind, Except.bind, Except.map]
  | ok found => cases found <;> simp [checked, bind, Except.bind, pure, Except.pure, Except.map]

theorem read_of_malformed {predicate name : String} {fault : Fault}
    (malformed : ofPredicate predicate name = .error fault) :
    read predicate name = .ok (.error fault) := by
  unfold read
  rw [malformed]

theorem read_eq_error_iff (check : PlannedCheck) (fault : Hostname.Fault) :
    read check.predicate check.capability = .error fault ↔ Escapes check fault := by
  have opened : read check.predicate check.capability = .error fault ↔
      ∃ params, ofPredicate check.predicate check.capability = .ok params ∧
        fault? check.capability params = .error fault := by
    cases given : ofPredicate check.predicate check.capability with
    | error e => simp [read_of_malformed given]
    | ok params =>
        rw [read_of_words given]
        cases checked : fault? check.capability params <;> simp [checked, Except.map]
  rw [opened]
  constructor
  · rintro ⟨params, given, failed⟩
    obtain ⟨server, complete, failed⟩ := (fault?_eq_error_iff ..).mp failed
    obtain ⟨text, located⟩ := complete.1 "url" (by decide)
    rw [located, Option.getD_some, urlFault?_eq_error_iff] at failed
    obtain ⟨url, parsed, supported, failed⟩ := failed
    exact ⟨server, params, text, url, given, complete, located, parsed, supported,
      (shownHost_eq_error_iff ..).mp failed⟩
  · rintro ⟨server, params, text, url, given, complete, located, parsed, supported, failed⟩
    refine ⟨params, given, (fault?_eq_error_iff ..).mpr ⟨server, complete, ?_⟩⟩
    rw [located, Option.getD_some, urlFault?_eq_error_iff]
    exact ⟨url, parsed, supported, (shownHost_eq_error_iff ..).mpr failed⟩

/-- What is read from a predicate is given by its words and accepted. -/
theorem read_eq_ok_ok_iff (predicate name : String) (params : Params) :
    read predicate name = .ok (.ok params) ↔
      ofPredicate predicate name = .ok params ∧ fault? name params = .ok none := by
  cases given : ofPredicate predicate name with
  | error e => simp [read_of_malformed given]
  | ok params' =>
      rw [read_of_words given]
      constructor
      · intro answered
        cases checked : fault? name params' with
        | error e => simp [checked, Except.map] at answered
        | ok found =>
            cases found with
            | some fault => simp [checked, Except.map] at answered
            | none =>
                obtain rfl : params' = params := by simpa [checked, Except.map] using answered
                exact ⟨rfl, checked⟩
      · rintro ⟨⟨rfl⟩, accepted⟩
        rw [accepted]
        rfl

/-- **When the parameters of a planned check are answered.**  They are given or rejected with a reason,
unless the check is one of a server and names it by an encoded host that does not decode. -/
theorem read_answers_iff (check : PlannedCheck) :
    (∃ answer, read check.predicate check.capability = .ok answer) ↔
      ¬ ∃ fault, Escapes check fault := by
  simp only [← read_eq_error_iff]
  cases read check.predicate check.capability <;> simp

/-- A check of a server whose name has an encoded label without digits. -/
def emptyLabelCheck : PlannedCheck where
  validation := "V1"
  capability := "check_http_endpoint"
  predicate := "check_http_endpoint url=http://xn--"

/-- The words of the predicate are well formed, and yet its parameters are neither accepted nor
rejected. -/
theorem not_answered_emptyLabelCheck :
    ofPredicate emptyLabelCheck.predicate emptyLabelCheck.capability =
        .ok [("url", "http://xn--")] ∧
      ¬ ∃ answer, read emptyLabelCheck.predicate emptyLabelCheck.capability = .ok answer := by
  have words : ofPredicate emptyLabelCheck.predicate emptyLabelCheck.capability =
      .ok [("url", "http://xn--")] := by
    decide +kernel
  have escapes : read emptyLabelCheck.predicate emptyLabelCheck.capability = .error .malformed := by
    decide +kernel
  refine ⟨words, ?_⟩
  rw [escapes]
  simp

end Params

end IntentSpec
